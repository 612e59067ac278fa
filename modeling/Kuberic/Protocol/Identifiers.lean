import Kuberic.Lib.Delimited
import Kuberic.Protocol.Validation.Configuration

/-!
# Identifiers bind their content

A configuration id is the digest of a sequence of numbers and strings, and `digest_parts` hashes a
sequence of strings.  Numbers have a fixed width and a string follows its length, so that the bytes can
be read back from the left; members are hashed in replica-id order, so that the order in which they
are listed does not matter.  Two valid configurations have the same id exactly when they have the same
content, unless their bytes collide.

The numbers and lengths of the source are machine words, which those of the model need not be:
`ConfigurationDescriptor.InRange` and `DigestLength` say that they are.
-/

namespace Kuberic

/-! ## Numbers and strings -/

theorem beBytes_succ (width n : Nat) :
    beBytes (width + 1) n = UInt8.ofNat (n / 256 ^ width) :: beBytes width n := by
  simp [beBytes, List.range_succ]

theorem length_beBytes (width n : Nat) : (beBytes width n).length = width := by
  simp [beBytes]

theorem mod_eq_of_beBytes_eq {width n m : Nat} (h : beBytes width n = beBytes width m) :
    n % 256 ^ width = m % 256 ^ width := by
  induction width with
  | zero => simp [Nat.mod_one]
  | succ width ih =>
    rw [beBytes_succ, beBytes_succ, List.cons.injEq] at h
    have hfirst : n / 256 ^ width % 256 = m / 256 ^ width % 256 := by
      simpa using congrArg UInt8.toNat h.1
    rw [Nat.pow_succ, Nat.mod_mul, Nat.mod_mul, ih h.2, hfirst]

theorem delimitsOn_beBytes (width : Nat) : DelimitsOn {n | n < 256 ^ width} (beBytes width) := by
  refine .of_length (fun n _ => length_beBytes width n) fun n hn m hm h => ?_
  have hmod := mod_eq_of_beBytes_eq h
  rwa [Nat.mod_eq_of_lt hn, Nat.mod_eq_of_lt hm] at hmod

/-- The values of an `i64`. -/
def IsI64 (n : Int) : Prop := -2 ^ 63 ≤ n ∧ n < 2 ^ 63

theorem delimitsOn_i64Bytes : DelimitsOn {n | IsI64 n} i64Bytes := by
  rintro a ⟨ha, ha'⟩ b ⟨hb, hb'⟩ rest rest' heq
  have hword : ∀ n : Int, (n % 2 ^ 64).toNat ∈ {n | n < 256 ^ 8} := by
    intro n
    have hlt : (n % 2 ^ 64).toNat < 2 ^ 64 := by omega
    exact hlt.trans_eq (by decide)
  obtain ⟨hab, hrest⟩ := delimitsOn_beBytes 8 (hword a) (hword b) heq
  exact ⟨by omega, hrest⟩

theorem stringBytes_injective : Function.Injective stringBytes := by
  intro s s' h
  exact String.toByteArray_inj.1 (ByteArray.ext (Array.toList_inj.1 h))

/-- The length of the string in bytes is a `u64`. -/
def DigestLength (s : String) : Prop := (stringBytes s).length < 256 ^ 8

theorem delimitsOn_digestString : DelimitsOn {s | DigestLength s} digestString :=
  .of_counted (delimitsOn_beBytes 8) (fun _ hs => hs) stringBytes_injective.injOn

theorem digestString_ne_nil (s : String) : digestString s ≠ [] := by
  intro h
  have hlength := congrArg List.length (List.append_eq_nil_iff.1 h).1
  rw [length_beBytes] at hlength
  cases hlength

theorem digestPartsBytes_inj {parts parts' : List String} (hparts : ∀ s ∈ parts, DigestLength s)
    (hparts' : ∀ s ∈ parts', DigestLength s) (h : digestPartsBytes parts = digestPartsBytes parts') :
    parts = parts' :=
  delimitsOn_digestString.flatMap_inj (fun s _ => digestString_ne_nil s) hparts hparts' h

theorem hexDigit_inj : ∀ n < 16, ∀ m < 16, hexDigit n = hexDigit m → n = m := by
  decide

theorem delimitsOn_hexDigits : DelimitsOn Set.univ
    fun b : UInt8 => [hexDigit (b.toNat / 16), hexDigit (b.toNat % 16)] := by
  refine .of_length (n := 2) (fun _ _ => rfl) fun b _ b' _ heq => ?_
  simp only [List.cons.injEq, and_true] at heq
  have hb := b.toNat_lt
  have hb' := b'.toNat_lt
  have hhigh := hexDigit_inj _ (by omega) _ (by omega) heq.1
  have hlow := hexDigit_inj _ (by omega) _ (by omega) heq.2
  exact UInt8.toNat_inj.1 (by omega)

theorem formatDigest_injective : Function.Injective formatDigest := by
  intro bytes bytes' h
  exact delimitsOn_hexDigits.flatMap_inj (by simp) (fun _ _ => trivial) (fun _ _ => trivial)
    (String.ofList_inj.1 h)

/-! ## Members -/

theorem roleTag_injective : Function.Injective roleTag := by
  intro role role' h
  cases role <;> cases role' <;> first | rfl | cases h

/-- The member fits the types of the source. -/
structure ConfigurationMember.InRange (m : ConfigurationMember) : Prop where
  replicaId : IsI64 m.identity.replicaId
  instanceId : DigestLength m.identity.instanceId
  agentGeneration : DigestLength m.identity.agentGeneration

theorem ConfigurationDescriptor.delimitsOn_memberBytes :
    DelimitsOn {m : ConfigurationMember | m.InRange} memberBytes := by
  intro m hm m' hm' rest rest' heq
  simp only [memberBytes, List.append_assoc] at heq
  obtain ⟨hid, heq⟩ := delimitsOn_i64Bytes hm.replicaId hm'.replicaId heq
  obtain ⟨hinstance, heq⟩ := delimitsOn_digestString hm.instanceId hm'.instanceId heq
  obtain ⟨hgeneration, heq⟩ := delimitsOn_digestString hm.agentGeneration hm'.agentGeneration heq
  rw [List.singleton_append, List.singleton_append, List.cons.injEq] at heq
  have hrole := roleTag_injective heq.1
  obtain ⟨⟨_, _, _⟩, _⟩ := m
  obtain ⟨⟨_, _, _⟩, _⟩ := m'
  simp only at hid hinstance hgeneration hrole
  exact ⟨by rw [hid, hinstance, hgeneration, hrole], heq.2⟩

theorem sortMembers_perm (members : List ConfigurationMember) : (sortMembers members).Perm members :=
  List.perm_insertionSort _ _

theorem sortMembers_pairwise (members : List ConfigurationMember) :
    (sortMembers members).Pairwise fun m n => m.identity.replicaId ≤ n.identity.replicaId := by
  have : IsTrans ConfigurationMember fun m n => m.identity.replicaId ≤ n.identity.replicaId :=
    ⟨fun _ _ _ => le_trans⟩
  have : Std.Total fun m n : ConfigurationMember => m.identity.replicaId ≤ n.identity.replicaId :=
    ⟨fun m n => le_total m.identity.replicaId n.identity.replicaId⟩
  exact List.pairwise_insertionSort _ _

theorem sortMembers_eq_iff {members members' : List ConfigurationMember}
    (hnodup : (members.map (·.identity.replicaId)).Nodup) :
    sortMembers members = sortMembers members' ↔ members.Perm members' := by
  constructor
  · intro h
    exact (sortMembers_perm members).symm.trans (h ▸ sortMembers_perm members')
  · intro hperm
    have hsorted : (sortMembers members).Perm (sortMembers members') :=
      (sortMembers_perm members).trans (hperm.trans (sortMembers_perm members').symm)
    refine hsorted.eq_of_pairwise (fun m n hm hn hle hge => ?_) (sortMembers_pairwise members)
      (sortMembers_pairwise members')
    have hm' : m ∈ members := (sortMembers_perm members).mem_iff.1 hm
    have hn' : n ∈ members := hperm.mem_iff.2 ((sortMembers_perm members').mem_iff.1 hn)
    exact List.inj_on_of_nodup_map hnodup hm' hn' (le_antisymm hle hge)

/-! ## Configurations -/

namespace ConfigurationDescriptor

/-- The numbers and lengths of the configuration fit the types of the source. -/
structure InRange (c : ConfigurationDescriptor) : Prop where
  dataLossNumber : IsI64 c.epoch.dataLossNumber
  configurationNumber : IsI64 c.epoch.configurationNumber
  primaryId : IsI64 c.primaryId
  writeQuorum : c.writeQuorum < 256 ^ 4
  length : c.members.length < 256 ^ 8
  members : ∀ m ∈ c.members, m.InRange

/-- The bytes that are hashed for the id of `c`. -/
def hashedBytes (c : ConfigurationDescriptor) : List UInt8 :=
  idBytes c.epoch c.primaryId c.members c.writeQuorum

/-- The same epoch, primary, write quorum and set of members. -/
structure SameContent (c c' : ConfigurationDescriptor) : Prop where
  epoch : c.epoch = c'.epoch
  primaryId : c.primaryId = c'.primaryId
  writeQuorum : c.writeQuorum = c'.writeQuorum
  members : ∀ m, m ∈ c.members ↔ m ∈ c'.members

variable {c c' : ConfigurationDescriptor}

theorem sortMembers_eq_of_hashedBytes_eq (hc : c.InRange) (hc' : c'.InRange)
    (h : c.hashedBytes = c'.hashedBytes) :
    c.epoch = c'.epoch ∧ c.primaryId = c'.primaryId ∧ c.writeQuorum = c'.writeQuorum ∧
      sortMembers c.members = sortMembers c'.members := by
  simp only [hashedBytes, idBytes, List.append_assoc, List.append_cancel_left_eq] at h
  obtain ⟨hloss, h⟩ := delimitsOn_i64Bytes hc.dataLossNumber hc'.dataLossNumber h
  obtain ⟨hnumber, h⟩ := delimitsOn_i64Bytes hc.configurationNumber hc'.configurationNumber h
  obtain ⟨hprimary, h⟩ := delimitsOn_i64Bytes hc.primaryId hc'.primaryId h
  obtain ⟨hquorum, h⟩ := delimitsOn_beBytes 4 hc.writeQuorum hc'.writeQuorum h
  obtain ⟨hlength, h⟩ := delimitsOn_beBytes 8 hc.length hc'.length h
  have hsame : (sortMembers c.members).length = (sortMembers c'.members).length := by
    rw [(sortMembers_perm _).length_eq, (sortMembers_perm _).length_eq, hlength]
  have hbytes : (sortMembers c.members).flatMap memberBytes ++ [] =
      (sortMembers c'.members).flatMap memberBytes ++ [] := by rw [h]
  have hmembers := delimitsOn_memberBytes.flatMap
    (fun m hm => hc.members m ((sortMembers_perm _).mem_iff.1 hm))
    (fun m hm => hc'.members m ((sortMembers_perm _).mem_iff.1 hm)) hsame hbytes
  exact ⟨Epoch.ext hloss hnumber, hprimary, hquorum, hmembers.1⟩

variable [Sha256]

theorem hashedBytes_eq_iff (hvalid : ValidConfiguration c) (hvalid' : ValidConfiguration c')
    (hc : c.InRange) (hc' : c'.InRange) : c.hashedBytes = c'.hashedBytes ↔ c.SameContent c' := by
  have hperm : sortMembers c.members = sortMembers c'.members ↔
      ∀ m, m ∈ c.members ↔ m ∈ c'.members := by
    rw [sortMembers_eq_iff hvalid.nodup_replicaIds,
      List.perm_ext_iff_of_nodup hvalid.nodup_members hvalid'.nodup_members]
  constructor
  · intro h
    obtain ⟨hepoch, hprimary, hquorum, hsorted⟩ := sortMembers_eq_of_hashedBytes_eq hc hc' h
    exact ⟨hepoch, hprimary, hquorum, hperm.1 hsorted⟩
  · rintro ⟨hepoch, hprimary, hquorum, hmembers⟩
    have hsorted := hperm.2 hmembers
    have hlength : c.members.length = c'.members.length := by
      rw [← (sortMembers_perm c.members).length_eq, hsorted, (sortMembers_perm c'.members).length_eq]
    simp only [hashedBytes, idBytes, hepoch, hprimary, hquorum, hsorted, hlength]

theorem configurationId_eq_iff (hvalid : ValidConfiguration c) (hvalid' : ValidConfiguration c') :
    c.configurationId = c'.configurationId ↔
      Sha256.digest c.hashedBytes = Sha256.digest c'.hashedBytes := by
  rw [hvalid.id_eq, hvalid'.id_eq, expectedId, expectedId, calculateId, calculateId]
  constructor
  · intro h
    exact formatDigest_injective (by simpa [hashedBytes] using h)
  · intro h
    rw [hashedBytes, hashedBytes] at h
    rw [h]

/-- The bytes hashed for two valid configurations are the same exactly when the configurations have
the same content, whatever the order of their members; the bytes hashed for lists of strings are the
same only for the same list; so the ids are the same exactly for the same content, unless the two
byte strings collide. -/
theorem identifiers_bind_content :
    (∀ (c c' : ConfigurationDescriptor) (p p' : Option EffectivePolicy),
      validateConfiguration c p = .ok () → validateConfiguration c' p' = .ok () →
      c.InRange → c'.InRange → (c.hashedBytes = c'.hashedBytes ↔ c.SameContent c')) ∧
    (∀ parts parts' : List String, (∀ s ∈ parts, DigestLength s) → (∀ s ∈ parts', DigestLength s) →
      digestPartsBytes parts = digestPartsBytes parts' → parts = parts') ∧
    ∀ (c c' : ConfigurationDescriptor) (p p' : Option EffectivePolicy),
      validateConfiguration c p = .ok () → validateConfiguration c' p' = .ok () →
      c.InRange → c'.InRange →
      (Sha256.digest c.hashedBytes = Sha256.digest c'.hashedBytes → c.hashedBytes = c'.hashedBytes) →
      (c.configurationId = c'.configurationId ↔ c.SameContent c') := by
  refine ⟨?_, fun _ _ hparts hparts' => digestPartsBytes_inj hparts hparts', ?_⟩
  · intro c c' p p' h h' hc hc'
    exact hashedBytes_eq_iff (validateConfiguration_eq_ok.1 h).1 (validateConfiguration_eq_ok.1 h').1
      hc hc'
  · intro c c' p p' h h' hc hc' hcollision
    have hvalid := (validateConfiguration_eq_ok.1 h).1
    have hvalid' := (validateConfiguration_eq_ok.1 h').1
    rw [configurationId_eq_iff hvalid hvalid', ← hashedBytes_eq_iff hvalid hvalid' hc hc']
    exact ⟨hcollision, fun heq => by rw [heq]⟩

end ConfigurationDescriptor

/-! ## Two orders of the members -/

namespace Reordered

attribute [local instance] checksum

def pair : ConfigurationDescriptor :=
  .new ⟨1, 1⟩ 1 [⟨⟨1, "pod-1", "generation"⟩, .primary⟩,
    ⟨⟨2, "pod-2", "generation"⟩, .activeSecondary⟩] 2

def reversed : ConfigurationDescriptor := { pair with members := pair.members.reverse }

theorem pair_inRange : pair.InRange := by
  have hmembers : ∀ m ∈ pair.members, IsI64 m.identity.replicaId ∧
      DigestLength m.identity.instanceId ∧ DigestLength m.identity.agentGeneration := by
    unfold IsI64 DigestLength
    decide +kernel
  have hone : IsI64 1 := by unfold IsI64; decide
  exact ⟨hone, hone, hone, by decide, by decide +kernel,
    fun m hm => ⟨(hmembers m hm).1, (hmembers m hm).2.1, (hmembers m hm).2.2⟩⟩

theorem identifiers_bind_content_reversed :
    pair.hashedBytes = reversed.hashedBytes ∧ pair.configurationId = reversed.configurationId ∧
      digestPartsBytes ["ab", "c"] ≠ digestPartsBytes ["a", "bc"] := by
  obtain ⟨hbytes, hparts, hid⟩ := ConfigurationDescriptor.identifiers_bind_content
  have hvalid : ∀ c ∈ [pair, reversed], validateConfiguration c none = .ok () := by decide +kernel
  have hsame : pair.SameContent reversed := ⟨rfl, rfl, rfl, fun _ => List.mem_reverse.symm⟩
  have hrange := pair_inRange
  have hrange' : reversed.InRange :=
    ⟨hrange.1, hrange.2, hrange.3, hrange.4, List.length_reverse.trans_lt hrange.5,
      fun m hm => hrange.6 m (List.mem_reverse.1 hm)⟩
  have heq := (hbytes pair reversed none none (hvalid _ (by simp)) (hvalid _ (by simp)) hrange
    hrange').2 hsame
  refine ⟨heq, (hid pair reversed none none (hvalid _ (by simp)) (hvalid _ (by simp)) hrange hrange'
    fun _ => heq).2 hsame, fun hdigest => ?_⟩
  have hlength : ∀ parts ∈ [["ab", "c"], ["a", "bc"]], ∀ s ∈ parts, DigestLength s := by
    unfold DigestLength
    decide +kernel
  exact absurd (hparts _ _ (hlength _ (by simp)) (hlength _ (by simp)) hdigest) (by decide)

end Reordered

end Kuberic
