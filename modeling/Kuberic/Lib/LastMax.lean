import Mathlib.Data.List.Induction
import Mathlib.Order.Lattice

/-!
# The last maximum of a list

`lastMax key l` is the element of `l` with the greatest key, and the last one of those with the same
key.
-/

namespace List

universe u v

variable {α : Type u} {κ : Type v} [LinearOrder κ]

/-- The element of greatest key; of several, the last one. -/
def lastMax (key : α → κ) (l : List α) : Option α :=
  l.foldl (fun best a => match best with
    | none => some a
    | some b => if key b ≤ key a then some a else some b) none

variable {key : α → κ} {l : List α} {a : α}

theorem lastMax_concat (l : List α) (a : α) : lastMax key (l ++ [a]) =
    some (match lastMax key l with
      | none => a
      | some b => if key b ≤ key a then a else b) := by
  simp only [lastMax, foldl_append, foldl_cons, foldl_nil]
  cases foldl _ none l with
  | none => rfl
  | some b =>
    dsimp only
    split_ifs <;> rfl

theorem mem_of_lastMax (h : lastMax key l = some a) : a ∈ l := by
  induction l using reverseRecOn generalizing a with
  | nil => cases h
  | append_singleton l b ih =>
    rw [lastMax_concat, Option.some.injEq] at h
    rw [mem_append, mem_singleton]
    cases hl : lastMax key l with
    | none => exact Or.inr (by simpa [hl] using h.symm)
    | some c =>
      simp only [hl] at h
      split_ifs at h
      · exact Or.inr h.symm
      · exact Or.inl (ih (h ▸ hl))

theorem lastMax_isSome (key : α → κ) (hne : l ≠ []) : ∃ a, lastMax key l = some a := by
  induction l using reverseRecOn with
  | nil => exact absurd rfl hne
  | append_singleton l b _ => exact ⟨_, lastMax_concat l b⟩

theorem key_le_lastMax (h : lastMax key l = some a) {b : α} (hb : b ∈ l) : key b ≤ key a := by
  induction l using reverseRecOn generalizing a with
  | nil => cases hb
  | append_singleton l c ih =>
    rw [lastMax_concat, Option.some.injEq] at h
    cases hl : lastMax key l with
    | none =>
      have hnil : l = [] := by
        by_contra hne
        obtain ⟨d, hd⟩ := lastMax_isSome key hne
        rw [hl] at hd
        cases hd
      simp only [hl] at h
      subst hnil h
      rw [nil_append, mem_singleton] at hb
      exact hb ▸ le_rfl
    | some d =>
      simp only [hl] at h
      rcases mem_append.1 hb with hb | hb
      · have hbd : key b ≤ key d := ih hl hb
        split_ifs at h with hdc
        · exact h ▸ hbd.trans hdc
        · exact h ▸ hbd
      · rw [mem_singleton] at hb
        subst hb
        split_ifs at h with hdc
        · exact h ▸ le_rfl
        · exact h ▸ (not_le.1 hdc).le

end List
