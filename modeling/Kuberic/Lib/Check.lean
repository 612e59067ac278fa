import Mathlib.Data.List.Basic
import Mathlib.Data.List.Nodup
import Mathlib.Tactic.SplitIfs

/-!
# Checks

A check is a computation `Except ε Unit`: it succeeds without a value or fails with an error.  A validator is a
sequence of checks, and the lemmas below say what its success means: `rejectIf` succeeds when its
condition fails, a sequence succeeds when both parts do, and a loop over a list succeeds when every
element passes.
-/

namespace Check

variable {ε α κ : Type}

/-- Fail with `e` if `c` holds. -/
def rejectIf (c : Prop) [Decidable c] (e : ε) : Except ε Unit := if c then .error e else .ok ()

/-- The value of an option, or the error `e`. -/
def demand (o : Option α) (e : ε) : Except ε α := match o with
  | some a => .ok a
  | none => .error e

/-- Check the value of an option, if there is one. -/
def onSome (o : Option α) (f : α → Except ε Unit) : Except ε Unit := match o with
  | some a => f a
  | none => .ok ()

/-- Check every element of a list in turn. -/
def each (f : α → Except ε Unit) : List α → Except ε Unit
  | [] => .ok ()
  | a :: l => do
    f a
    each f l

/-- Check every element of a list in turn, together with the keys of the elements before it. -/
def eachAfter (key : α → κ) (f : List κ → α → Except ε Unit) : List κ → List α → Except ε Unit
  | _, [] => .ok ()
  | seen, a :: l => do
    f seen a
    eachAfter key f (key a :: seen) l

@[simp] theorem rejectIf_eq_ok {c : Prop} [Decidable c] {e : ε} :
    rejectIf c e = .ok () ↔ ¬c := by
  unfold rejectIf
  split_ifs with h <;> simp [h]

@[simp] theorem seq_eq_ok {x y : Except ε Unit} :
    (x >>= fun _ => y) = .ok () ↔ x = .ok () ∧ y = .ok () := by
  cases x <;> simp [bind, Except.bind]

theorem then_eq_ok {x : Except ε Unit} {y : Except ε α} {a : α} :
    (x >>= fun _ => y) = .ok a ↔ x = .ok () ∧ y = .ok a := by
  cases x <;> simp [bind, Except.bind]

theorem bind_eq_ok {β : Type} {x : Except ε α} {f : α → Except ε β} {b : β} :
    (x >>= f) = .ok b ↔ ∃ a, x = .ok a ∧ f a = .ok b := by
  cases x <;> simp [bind, Except.bind]

@[simp] theorem demand_bind_eq_ok {β : Type} {o : Option α} {e : ε} {f : α → Except ε β} {b : β} :
    (demand o e >>= f) = .ok b ↔ ∃ a, o = some a ∧ f a = .ok b := by
  cases o <;> simp [demand, bind, Except.bind]

@[simp] theorem onSome_eq_ok {o : Option α} {f : α → Except ε Unit} :
    onSome o f = .ok () ↔ ∀ a, o = some a → f a = .ok () := by
  cases o <;> simp [onSome]

@[simp] theorem each_eq_ok {f : α → Except ε Unit} {l : List α} :
    each f l = .ok () ↔ ∀ a ∈ l, f a = .ok () := by
  induction l with
  | nil => simp [each]
  | cons a l ih => simp [each, ih]

theorem nodup_of_eachAfter {key : α → κ} {f : List κ → α → Except ε Unit}
    (hf : ∀ seen a, f seen a = .ok () → key a ∉ seen) {seen : List κ} {l : List α}
    (h : eachAfter key f seen l = .ok ()) :
    (l.map key).Nodup ∧ ∀ a ∈ l, key a ∉ seen := by
  induction l generalizing seen with
  | nil => simp
  | cons a l ih =>
    simp only [eachAfter, seq_eq_ok] at h
    obtain ⟨hnodup, hseen⟩ := ih h.2
    refine ⟨?_, ?_⟩
    · rw [List.map_cons, List.nodup_cons]
      refine ⟨?_, hnodup⟩
      intro hmem
      obtain ⟨b, hb, hkey⟩ := List.mem_map.1 hmem
      exact hseen b hb (hkey ▸ List.mem_cons_self)
    · intro b hb
      rcases List.mem_cons.1 hb with rfl | hb
      · exact hf seen b h.1
      · exact fun hm => hseen b hb (List.mem_cons_of_mem _ hm)

theorem eachAfter_fresh_eq_ok [∀ (k : κ) (l : List κ), Decidable (k ∈ l)] {key : α → κ}
    {e : α → ε} {seen : List κ} {l : List α} :
    eachAfter key (fun seen a => rejectIf (key a ∈ seen) (e a)) seen l = .ok () ↔
      (l.map key).Nodup ∧ ∀ a ∈ l, key a ∉ seen := by
  refine ⟨nodup_of_eachAfter fun seen a h => by simpa using h, ?_⟩
  induction l generalizing seen with
  | nil => simp [eachAfter]
  | cons a l ih =>
    rintro ⟨hnodup, hseen⟩
    rw [List.map_cons, List.nodup_cons] at hnodup
    simp only [eachAfter, seq_eq_ok, rejectIf_eq_ok]
    refine ⟨hseen a List.mem_cons_self, ih ⟨hnodup.2, ?_⟩⟩
    intro b hb hmem
    rcases List.mem_cons.1 hmem with heq | hmem
    · exact hnodup.1 (heq ▸ List.mem_map_of_mem hb)
    · exact hseen b (List.mem_cons_of_mem _ hb) hmem

theorem of_eachAfter {key : α → κ} {f : List κ → α → Except ε Unit} {seen : List κ} {l : List α}
    (h : eachAfter key f seen l = .ok ()) : ∀ a ∈ l, ∃ seen', f seen' a = .ok () := by
  induction l generalizing seen with
  | nil => simp
  | cons a l ih =>
    simp only [eachAfter, seq_eq_ok] at h
    intro b hb
    rcases List.mem_cons.1 hb with rfl | hb
    · exact ⟨seen, h.1⟩
    · exact ih h.2 b hb

end Check
