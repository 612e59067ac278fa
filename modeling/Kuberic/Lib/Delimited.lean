import Mathlib.Data.Set.Function
import Mathlib.Data.List.Basic
import Mathlib.Tactic.SplitIfs

/-!
# Self-delimiting encodings

An encoding delimits itself on a set of values when the encoding of a value of the set, followed by
anything, determines the value and what follows.  Concatenations of such encodings are read back one
after the other.  Encodings of one fixed length delimit themselves, and so do words that are preceded by
their length.  A word without a certain letter is delimited by that letter.
-/

variable {α γ : Type}

/-- The encoding of a value of `s` and whatever follows it are determined together. -/
def DelimitsOn (s : Set α) (f : α → List γ) : Prop :=
  ∀ ⦃a⦄, a ∈ s → ∀ ⦃b⦄, b ∈ s → ∀ ⦃rest rest' : List γ⦄,
    f a ++ rest = f b ++ rest' → a = b ∧ rest = rest'

namespace DelimitsOn

variable {s : Set α} {f : α → List γ}

theorem of_length {n : Nat} (hlength : ∀ a ∈ s, (f a).length = n) (hinj : Set.InjOn f s) :
    DelimitsOn s f := by
  intro a ha b hb rest rest' heq
  obtain ⟨hf, hrest⟩ := List.append_inj heq ((hlength a ha).trans (hlength b hb).symm)
  exact ⟨hinj ha hb hf, hrest⟩

theorem flatMap (h : DelimitsOn s f) {l l' : List α} (hl : ∀ a ∈ l, a ∈ s) (hl' : ∀ a ∈ l', a ∈ s)
    (hlength : l.length = l'.length) {rest rest' : List γ}
    (heq : l.flatMap f ++ rest = l'.flatMap f ++ rest') : l = l' ∧ rest = rest' := by
  induction l generalizing l' with
  | nil =>
    obtain rfl : l' = [] := List.length_eq_zero_iff.1 hlength.symm
    exact ⟨rfl, by simpa using heq⟩
  | cons a l ih =>
    cases l' with
    | nil => cases hlength
    | cons b l' =>
      simp only [List.flatMap_cons, List.append_assoc] at heq
      obtain ⟨hhead, htail⟩ := h (hl a List.mem_cons_self) (hl' b List.mem_cons_self) heq
      obtain ⟨hitems, hrest⟩ := ih (fun c hc => hl c (List.mem_cons_of_mem _ hc))
        (fun c hc => hl' c (List.mem_cons_of_mem _ hc)) (Nat.succ.inj hlength) htail
      exact ⟨by rw [hhead, hitems], hrest⟩

theorem flatMap_inj (h : DelimitsOn s f) (hne : ∀ a ∈ s, f a ≠ []) {l l' : List α}
    (hl : ∀ a ∈ l, a ∈ s) (hl' : ∀ a ∈ l', a ∈ s) (heq : l.flatMap f = l'.flatMap f) : l = l' := by
  induction l generalizing l' with
  | nil =>
    cases l' with
    | nil => rfl
    | cons b l' =>
      have hb := hne b (hl' b List.mem_cons_self)
      exact absurd (List.append_eq_nil_iff.1 heq.symm).1 hb
  | cons a l ih =>
    cases l' with
    | nil => exact absurd (List.append_eq_nil_iff.1 heq).1 (hne a (hl a List.mem_cons_self))
    | cons b l' =>
      rw [List.flatMap_cons, List.flatMap_cons] at heq
      obtain ⟨hhead, htail⟩ := h (hl a List.mem_cons_self) (hl' b List.mem_cons_self) heq
      rw [hhead, ih (fun c hc => hl c (List.mem_cons_of_mem _ hc))
        (fun c hc => hl' c (List.mem_cons_of_mem _ hc)) htail]

/-- Words that are preceded by the encoding of their length. -/
theorem of_counted {count : Nat → List γ} {t : Set Nat} (h : DelimitsOn t count)
    (hcount : ∀ a ∈ s, (f a).length ∈ t) (hinj : Set.InjOn f s) :
    DelimitsOn s fun a => count (f a).length ++ f a := by
  intro a ha b hb rest rest' heq
  simp only [List.append_assoc] at heq
  obtain ⟨hlength, htail⟩ := h (hcount a ha) (hcount b hb) heq
  obtain ⟨hf, hrest⟩ := List.append_inj htail hlength
  exact ⟨hinj ha hb hf, hrest⟩

end DelimitsOn

/-- A word that does not contain the letter `stop` ends where `stop` stands first. -/
theorem append_terminator_inj {stop : γ} {l l' rest rest' : List γ} (hl : stop ∉ l) (hl' : stop ∉ l')
    (heq : l ++ stop :: rest = l' ++ stop :: rest') : l = l' ∧ rest = rest' := by
  induction l generalizing l' with
  | nil =>
    cases l' with
    | nil => simpa using heq
    | cons c l' =>
      rw [List.nil_append, List.cons_append, List.cons.injEq] at heq
      exact absurd (heq.1 ▸ List.mem_cons_self) hl'
  | cons c l ih =>
    cases l' with
    | nil =>
      rw [List.nil_append, List.cons_append, List.cons.injEq] at heq
      exact absurd (heq.1 ▸ List.mem_cons_self) hl
    | cons c' l' =>
      rw [List.cons_append, List.cons_append, List.cons.injEq] at heq
      obtain ⟨hword, hrest⟩ := ih (fun hm => hl (List.mem_cons_of_mem _ hm))
        (fun hm => hl' (List.mem_cons_of_mem _ hm)) heq.2
      exact ⟨by rw [heq.1, hword], hrest⟩
