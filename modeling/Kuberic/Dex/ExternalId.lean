import Kuberic.Dex.Identity
import Kuberic.Protocol.Identifiers

/-!
# The external id of an activity

`to_external_id` renders an activity for systems that deduplicate by a string.  The parts are
decimal numbers and hexadecimal byte strings between colons, so that each of them can be read back.
The bound on the input and the options of the activity are not rendered: activities that differ in
nothing else have the same external id.
-/

namespace Kuberic.Dex

def pushHex (bytes : List UInt8) : List Char :=
  bytes.flatMap fun b => [hexDigit (b.toNat / 16), hexDigit (b.toNat % 16)]

theorem pushHex_injective : Function.Injective pushHex := by
  intro bytes bytes' h
  exact delimitsOn_hexDigits.flatMap_inj (by simp) (fun _ _ => trivial) (fun _ _ => trivial) h

theorem hexDigit_ne_colon : ∀ n < 16, hexDigit n ≠ ':' := by
  decide

theorem colon_notMem_pushHex (bytes : List UInt8) : ':' ∉ pushHex bytes := by
  intro h
  obtain ⟨b, -, hb⟩ := List.mem_flatMap.1 h
  have hlt := b.toNat_lt
  simp only [List.mem_cons, List.not_mem_nil, or_false] at hb
  rcases hb with hb | hb
  · exact hexDigit_ne_colon _ (by omega) hb.symm
  · exact hexDigit_ne_colon _ (by omega) hb.symm

theorem colon_notMem_toDigits (n : Nat) : ':' ∉ Nat.toDigits 10 n := by
  intro h
  have hdigit := Nat.isDigit_of_mem_toDigits (by decide) (by decide) h
  revert hdigit
  decide

theorem toDigits_injective : Function.Injective (Nat.toDigits 10) := by
  intro n m h
  rw [← Nat.ofDigitChars_ten_toDigits (n := n), h, Nat.ofDigitChars_ten_toDigits]

namespace LogicalActivityId

/-- Render every identity tuple member directly in an unambiguous form. -/
def toExternalId (a : LogicalActivityId) : String :=
  let nameBytes := stringBytes a.spec.name.name
  String.ofList ("logical:v2:".toList ++ pushHex a.executionId.1 ++
    ':' :: Nat.toDigits 10 a.sequence ++ ':' :: Nat.toDigits 10 nameBytes.length ++
    ':' :: pushHex nameBytes ++
    ':' :: Nat.toDigits 10 a.spec.name.version ++ ':' :: Nat.toDigits 10 a.spec.input.length ++
    ':' :: pushHex a.spec.input ++
    ':' :: Nat.toDigits 10 a.spec.maxResultBytes)

/-- The members of an activity that its external id renders are the same. -/
structure SameRendered (a b : LogicalActivityId) : Prop where
  executionId : a.executionId = b.executionId
  sequence : a.sequence = b.sequence
  name : a.spec.name = b.spec.name
  input : a.spec.input = b.spec.input
  maxResultBytes : a.spec.maxResultBytes = b.spec.maxResultBytes

theorem toExternalId_eq_iff {a b : LogicalActivityId} :
    a.toExternalId = b.toExternalId ↔ a.SameRendered b := by
  constructor
  · intro h
    have htext := String.ofList_inj.1 h
    simp only [List.append_assoc, List.cons_append, List.append_cancel_left_eq] at htext
    obtain ⟨hexecution, htext⟩ := append_terminator_inj (colon_notMem_pushHex _)
      (colon_notMem_pushHex _) htext
    obtain ⟨hsequence, htext⟩ := append_terminator_inj (colon_notMem_toDigits _)
      (colon_notMem_toDigits _) htext
    obtain ⟨-, htext⟩ := append_terminator_inj (colon_notMem_toDigits _)
      (colon_notMem_toDigits _) htext
    obtain ⟨hname, htext⟩ := append_terminator_inj (colon_notMem_pushHex _)
      (colon_notMem_pushHex _) htext
    obtain ⟨hversion, htext⟩ := append_terminator_inj (colon_notMem_toDigits _)
      (colon_notMem_toDigits _) htext
    obtain ⟨-, htext⟩ := append_terminator_inj (colon_notMem_toDigits _)
      (colon_notMem_toDigits _) htext
    obtain ⟨hinput, hresult⟩ := append_terminator_inj (colon_notMem_pushHex _)
      (colon_notMem_pushHex _) htext
    refine ⟨Subtype.ext (pushHex_injective hexecution), toDigits_injective hsequence, ?_,
      pushHex_injective hinput, toDigits_injective hresult⟩
    have hname' := stringBytes_injective (pushHex_injective hname)
    have hversion' := toDigits_injective hversion
    cases ha : a.spec.name with
    | mk name version name_ne version_ne =>
      cases hb : b.spec.name with
      | mk name' version' name_ne' version_ne' =>
        simp only [ha, hb] at hname' hversion'
        subst hname' hversion'
        rfl
  · rintro ⟨hexecution, hsequence, hname, hinput, hresult⟩
    unfold toExternalId
    rw [hexecution, hsequence, hname, hinput, hresult]

theorem eq_iff {a b : LogicalActivityId} : a = b ↔ a.SameRendered b ∧
    a.spec.maxInputBytes = b.spec.maxInputBytes ∧ a.spec.options = b.spec.options := by
  constructor
  · rintro rfl
    exact ⟨⟨rfl, rfl, rfl, rfl, rfl⟩, rfl, rfl⟩
  · rintro ⟨⟨hexecution, hsequence, hname, hinput, hresult⟩, hbound, hoptions⟩
    obtain ⟨_, _, ⟨_, _, _, _, _⟩⟩ := a
    obtain ⟨_, _, ⟨_, _, _, _, _⟩⟩ := b
    simp only at hexecution hsequence hname hinput hresult hbound hoptions
    subst hexecution hsequence hname hinput hresult hbound hoptions
    rfl

/-- Two activities have the same external id exactly when they agree on everything that is rendered;
so the id tells them apart exactly when such activities also agree on the input bound and the
options. -/
theorem toExternalId_unambiguous_iff (a b : LogicalActivityId) :
    (a.toExternalId = b.toExternalId ↔ a.SameRendered b) ∧
      ((a.toExternalId = b.toExternalId → a = b) ↔
        (a.SameRendered b →
          a.spec.maxInputBytes = b.spec.maxInputBytes ∧ a.spec.options = b.spec.options)) := by
  refine ⟨toExternalId_eq_iff, ?_⟩
  rw [toExternalId_eq_iff, eq_iff]
  tauto

/-- Two activities that differ in their number of attempts. -/
theorem toExternalId_without_options : ∃ a b : LogicalActivityId,
    a.spec.options ≠ b.spec.options ∧ a.toExternalId = b.toExternalId := by
  refine ⟨⟨.filled 0, 0, ⟨⟨"charge", 1, by decide, Nat.one_ne_zero⟩, [], 0, 0, ⟨1, 1000, none, none⟩⟩⟩,
    ⟨.filled 0, 0, ⟨⟨"charge", 1, by decide, Nat.one_ne_zero⟩, [], 0, 0, ⟨3, 1000, none, none⟩⟩⟩,
    by decide, rfl⟩

end LogicalActivityId

end Kuberic.Dex
