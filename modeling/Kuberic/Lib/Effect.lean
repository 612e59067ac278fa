import Mathlib.Tactic.SplitIfs

/-!
# Computations that fail part-way

An `Effect σ ε α` runs on a state `σ` and returns a value or an error; an error keeps what has been
done before it.  `Triple P x Q E` is its pre- and postcondition judgment, with one postcondition for
success and one for failure, and `Along R x` says that every run of `x` moves the state along the
relation `R`.
-/

/-- A computation on a state `σ` that may fail; a failure keeps what has been done so far. -/
structure Effect (σ ε α : Type) where
  run : σ → Except ε α × σ

namespace Effect

variable {σ ε α β : Type}

instance : Monad (Effect σ ε) where
  pure a := ⟨fun s => (.ok a, s)⟩
  bind x f := ⟨fun s => match x.run s with
    | (.ok a, s') => (f a).run s'
    | (.error e, s') => (.error e, s')⟩

/-- The current state. -/
def observe : Effect σ ε σ := ⟨fun s => (.ok s, s)⟩

def fail (e : ε) : Effect σ ε α := ⟨fun s => (.error e, s)⟩

def update (f : σ → σ) : Effect σ ε Unit := ⟨fun s => (.ok (), f s)⟩

/-- Fail with `e` unless `c` holds. -/
def require (c : Prop) [Decidable c] (e : ε) : Effect σ ε Unit := if c then pure () else fail e

theorem require_congr {c c' : Prop} [Decidable c] [Decidable c'] (h : c ↔ c') (e : ε) :
    (require c e : Effect σ ε Unit) = require c' e := by
  simp only [require, h]

/-- Run `x` if `c` holds. -/
def onlyIf (c : Prop) [Decidable c] (x : Effect σ ε Unit) : Effect σ ε Unit :=
  if c then x else pure ()

/-- The value of an option, or the error `e`. -/
def demand (o : Option α) (e : ε) : Effect σ ε α := match o with
  | some a => pure a
  | none => fail e

/-- The value of a computed result. -/
def ofExcept (r : Except ε α) : Effect σ ε α := ⟨fun s => (r, s)⟩

/-- Run a state-passing function on the part of the state that `get` and `set` name. -/
def zoom {τ : Type} (get : σ → τ) (set : σ → τ → σ) (f : τ → Except ε α × τ) : Effect σ ε α :=
  ⟨fun s => ((f (get s)).1, set s (f (get s)).2)⟩

/-- Run `x`, and apply `f` to the state if it fails. -/
def onFailure (x : Effect σ ε α) (f : σ → σ) : Effect σ ε α := ⟨fun s => match x.run s with
  | (.ok a, s') => (.ok a, s')
  | (.error e, s') => (.error e, f s')⟩

theorem run_bind (x : Effect σ ε α) (f : α → Effect σ ε β) (s : σ) :
    (x >>= f).run s = match x.run s with
      | (.ok a, s') => (f a).run s'
      | (.error e, s') => (.error e, s') := rfl

variable {x : Effect σ ε α} {f : α → Effect σ ε β}

theorem run_bind_ok {s s' : σ} {a : α} (h : x.run s = (.ok a, s')) :
    (x >>= f).run s = (f a).run s' := by
  rw [run_bind, h]

theorem run_bind_error {s s' : σ} {e : ε} (h : x.run s = (.error e, s')) :
    (x >>= f).run s = (.error e, s') := by
  rw [run_bind, h]

theorem eq_of_run {y : Effect σ ε α} (h : ∀ s, x.run s = y.run s) : x = y :=
  congrArg mk (funext h)

theorem bind_bind {γ : Type} (x : Effect σ ε α) (f : α → Effect σ ε β) (g : β → Effect σ ε γ) :
    x >>= f >>= g = x >>= fun a => f a >>= g := by
  refine eq_of_run fun s => ?_
  match hr : x.run s with
  | (.ok a, s') =>
    rw [run_bind, run_bind_ok hr, run_bind_ok hr]
    rfl
  | (.error e, s') => rw [run_bind, run_bind_error hr, run_bind_error hr]

theorem run_pure (a : α) (s : σ) : (pure a : Effect σ ε α).run s = (.ok a, s) := rfl

/-! ## Pre- and postconditions -/

/-- What a run of a computation that started well ends in: `Q a` if it returned `a`, `E` if it
failed. -/
def Post (Q : α → σ → Prop) (E : σ → Prop) : Except ε α × σ → Prop
  | (.ok a, s) => Q a s
  | (.error _, s) => E s

/-- From a state with `P`, the computation ends in a state with `Q a` if it returns `a`, and in one
with `E` if it fails. -/
def Triple (P : σ → Prop) (x : Effect σ ε α) (Q : α → σ → Prop) (E : σ → Prop) : Prop :=
  ∀ s, P s → Post Q E (x.run s)

variable {I : σ → Prop}

section Triple

variable {P P' : σ → Prop} {x : Effect σ ε α} {Q Q' : α → σ → Prop} {E E' : σ → Prop}

theorem Post.mono {r : Except ε α × σ} (h : Post Q E r) (hq : ∀ a s, Q a s → Q' a s)
    (he : ∀ s, E s → E' s) : Post Q' E' r := by
  match r, h with
  | (.ok a, s), h => exact hq a s h
  | (.error _, s), h => exact he s h

theorem Post.and {r : Except ε α × σ} (h : Post Q E r) (h' : Post Q' E' r) :
    Post (fun a s => Q a s ∧ Q' a s) (fun s => E s ∧ E' s) r := by
  match r, h, h' with
  | (.ok _, _), h, h' | (.error _, _), h, h' => exact ⟨h, h'⟩

theorem post_const : ∀ {r : Except ε α × σ}, Post (fun _ => I) I r ↔ I r.2
  | (.ok _, _) | (.error _, _) => Iff.rfl

theorem Triple.weaken (h : Triple P x Q E) (hp : ∀ s, P' s → P s) (hq : ∀ a s, Q a s → Q' a s)
    (he : ∀ s, E s → E' s) : Triple P' x Q' E' :=
  fun s hs => (h s (hp s hs)).mono hq he

theorem Triple.pre (h : Triple P x Q E) (hp : ∀ s, P' s → P s) : Triple P' x Q E :=
  fun s hs => h s (hp s hs)

theorem Triple.post (h : Triple P x Q E) (hq : ∀ a s, Q a s → Q' a s) (he : ∀ s, E s → E' s) :
    Triple P x Q' E' :=
  h.weaken (fun _ hs => hs) hq he

theorem Triple.error (h : Triple P x Q E) (he : ∀ s, E s → E' s) : Triple P x Q E' :=
  h.post (fun _ _ hs => hs) he

theorem Triple.and (h : Triple P x Q E) (h' : Triple P x Q' E') :
    Triple P x (fun a s => Q a s ∧ Q' a s) fun s => E s ∧ E' s :=
  fun s hs => (h s hs).and (h' s hs)

theorem Triple.holds (h : Triple P x Q E) (hq : ∀ a s, Q a s → I s) (he : ∀ s, E s → I s) (s : σ)
    (hs : P s) : I (x.run s).2 :=
  post_const.1 ((h s hs).mono hq he)

theorem Triple.keeps (h : Triple P x (fun _ => I) I) (s : σ) (hs : P s) : I (x.run s).2 :=
  post_const.1 (h s hs)

theorem post_of_triple {s : σ} (h : Triple (· = s) x Q E) : Post Q E (x.run s) := h s rfl

theorem run_of_triple {s : σ} (h : Triple (· = s) x (fun _ => I) I) : I (x.run s).2 :=
  h.keeps s rfl

theorem triple_of_run (h : ∀ s, P s → I (x.run s).2) : Triple P x (fun _ => I) I :=
  fun s hs => post_const.2 (h s hs)

theorem triple_pure {a : α} (h : ∀ s, P s → Q a s) : Triple P (pure a : Effect σ ε α) Q E :=
  fun s hs => h s hs

theorem triple_fail {e : ε} (h : ∀ s, P s → E s) : Triple P (fail e : Effect σ ε α) Q E :=
  fun s hs => h s hs

theorem triple_update {f : σ → σ} {Q : Unit → σ → Prop} (h : ∀ s, P s → Q () (f s)) :
    Triple P (update f : Effect σ ε Unit) Q E :=
  fun s hs => h s hs

theorem Triple.bind {R : α → σ → Prop} {Q : β → σ → Prop} (hx : Triple P x R E)
    (hf : ∀ a, Triple (R a) (f a) Q E) : Triple P (x >>= f) Q E := by
  intro s hs
  have h := hx s hs
  match hr : x.run s, h with
  | (.ok a, s'), h =>
    rw [run_bind_ok hr]
    exact hf a s' h
  | (.error e, s'), h =>
    rw [run_bind_error hr]
    exact h

theorem triple_observe_bind {f : σ → Effect σ ε α}
    (h : ∀ s₀, P s₀ → Triple (fun s => s = s₀) (f s₀) Q E) : Triple P (observe >>= f) Q E :=
  fun s hs => h s hs s rfl

theorem triple_update_bind {f : σ → σ} {g : Unit → Effect σ ε α} (hf : ∀ s, P s → I (f s))
    (hg : Triple I (g ()) Q E) : Triple P (update f >>= g) Q E :=
  fun s hs => hg (f s) (hf s hs)

theorem triple_onFailure {f : σ → σ} {F : σ → Prop} (h : Triple P x Q F)
    (hf : ∀ s, F s → E (f s)) : Triple P (onFailure x f) Q E := by
  intro s hs
  have hx := h s hs
  unfold onFailure
  match hr : x.run s, hx with
  | (.ok a, s'), hx =>
    simp only [hr]
    exact hx
  | (.error e, s'), hx =>
    simp only [hr]
    exact hf s' hx

theorem triple_zoom {τ : Type} {get : σ → τ} {set : σ → τ → σ} {f : τ → Except ε α × τ} {t : σ} :
    Triple (· = t) (zoom get set f)
      (fun a s => (f (get t)).1 = .ok a ∧ s = set t (f (get t)).2)
      (fun s => s = set t (f (get t)).2) := by
  rintro s rfl
  unfold zoom
  match hr : (f (get s)).1 with
  | .ok a =>
    simp only [hr]
    exact ⟨rfl, rfl⟩
  | .error e =>
    simp only [hr]
    exact rfl

theorem triple_zoom_ok {τ : Type} {get : σ → τ} {set : σ → τ → σ} {f : τ → Except ε α × τ}
    (h : ∀ s, P s → ∃ a t, f (get s) = (.ok a, t) ∧ Q a (set s t)) :
    Triple P (zoom get set f) Q E := by
  intro s hs
  obtain ⟨a, t, hf, hq⟩ := h s hs
  simp only [zoom, hf]
  exact hq

/-- The computation leaves the state `s₀` alone, and what it returns there satisfies `F`. -/
def Checks (s₀ : σ) (x : Effect σ ε α) (F : α → Prop) : Prop :=
  Triple (· = s₀) x (fun a s => s = s₀ ∧ F a) (· = s₀)

variable {s₀ : σ}

theorem Checks.bind {y : Effect σ ε β} {f : β → Effect σ ε α} {F : β → Prop} (hy : Checks s₀ y F)
    (herr : E s₀) (hf : ∀ b, F b → Triple (· = s₀) (f b) Q E) : Triple (· = s₀) (y >>= f) Q E := by
  refine Triple.bind (R := fun b s => s = s₀ ∧ F b) (hy.error ?_) ?_
  · rintro s rfl
    exact herr
  · rintro b s ⟨hs, hb⟩
    exact hf b hb s hs

theorem checks_pure {a : α} {F : α → Prop} (h : F a) :
    Checks s₀ (pure a : Effect σ ε α) F := triple_pure fun _ hs => ⟨hs, h⟩

theorem checks_require {c : Prop} [Decidable c] {e : ε} : Checks s₀ (require c e) fun _ => c := by
  by_cases hc : c
  · rw [require, if_pos hc]
    exact triple_pure fun _ hs => ⟨hs, hc⟩
  · rw [require, if_neg hc]
    exact triple_fail fun _ hs => hs

theorem checks_demand {o : Option α} {e : ε} : Checks s₀ (demand o e) fun a => o = some a := by
  cases o with
  | none => exact triple_fail fun _ hs => hs
  | some a => exact triple_pure fun _ hs => ⟨hs, rfl⟩

theorem checks_ofExcept {r : Except ε α} : Checks s₀ (ofExcept r) fun a => r = .ok a := by
  cases r with
  | error e => exact fun _ hs => hs
  | ok a => exact fun _ hs => ⟨hs, rfl⟩

theorem checks_observe : Checks s₀ (observe : Effect σ ε σ) fun s => s = s₀ :=
  fun _ hs => ⟨hs, hs⟩

end Triple

/-! ## Moving along a relation -/

/-- Every run of the computation, failed or not, relates the state it starts in to the one it ends
in. -/
def Along (R : σ → σ → Prop) (x : Effect σ ε α) : Prop := ∀ s, R s (x.run s).2

variable {R : σ → σ → Prop}

theorem along_update {f : σ → σ} (h : ∀ s, R s (f s)) :
    Along R (update f : Effect σ ε Unit) := h

theorem along_zoom {τ : Type} {get : σ → τ} {set : σ → τ → σ} {f : τ → Except ε α × τ}
    (h : ∀ s, R s (set s (f (get s)).2)) : Along R (zoom get set f) := h

theorem Along.triple (hx : Along R x) (s₀ : σ) : Triple (· = s₀) x (fun _ => R s₀) (R s₀) :=
  triple_of_run fun s hs => hs ▸ hx s

theorem along_of_triple (h : ∀ s, Triple (· = s) x (fun _ => R s) (R s)) :
    Along R x := fun s => run_of_triple (h s)

theorem Along.mono {R' : σ → σ → Prop} (hx : Along R x) (h : ∀ {s t}, R s t → R' s t) :
    Along R' x := fun s => h (hx s)

/-- A relation that holds along a computation as soon as it holds along its steps. -/
structure Stepwise (R : σ → σ → Prop) : Prop where
  refl : ∀ s, R s s
  trans : ∀ {s t u}, R s t → R t u → R s u

namespace Stepwise

variable {R : σ → σ → Prop} (hR : Stepwise R)

include hR

theorem pure (a : α) : Along R (Pure.pure a : Effect σ ε α) := fun s => hR.refl s

theorem fail (e : ε) : Along R (Effect.fail e : Effect σ ε α) := fun s => hR.refl s

theorem observe : Along R (Effect.observe : Effect σ ε σ) := fun s => hR.refl s

theorem reads (hx : Along (fun s t => t = s) x) : Along R x := hx.mono fun h => h ▸ hR.refl _

theorem ofExcept (r : Except ε α) : Along R (Effect.ofExcept r : Effect σ ε α) :=
  fun s => hR.refl s

theorem require (c : Prop) [Decidable c] (e : ε) :
    Along R (Effect.require c e : Effect σ ε Unit) := by
  intro s
  unfold Effect.require
  split_ifs <;> exact hR.refl s

theorem onlyIf (c : Prop) [Decidable c] {x : Effect σ ε Unit} (hx : Along R x) :
    Along R (Effect.onlyIf c x) := by
  unfold Effect.onlyIf
  split_ifs
  · exact hx
  · exact hR.pure _

theorem demand (o : Option α) (e : ε) : Along R (Effect.demand o e : Effect σ ε α) := by
  intro s
  cases o <;> exact hR.refl s

theorem bind (hx : Along R x) (hf : ∀ a, Along R (f a)) : Along R (x >>= f) :=
  along_of_triple fun s => (hx.triple s).bind fun a => triple_of_run fun t ht =>
    hR.trans ht (hf a t)

/-- A computation that moves along `R` where `I` holds keeps the state related to where one came
from, and keeps `I` if `R` does. -/
theorem triple_of (hx : ∀ s, I s → R s (x.run s).2) (hI : ∀ {s t}, R s t → I s → I t) (s₀ : σ) :
    Triple (fun s => R s₀ s ∧ I s) x (fun _ s => R s₀ s ∧ I s) (R s₀) := by
  rintro s ⟨hs, hi⟩
  have h : Post (fun _ => R s) (R s) (x.run s) := post_const.2 (hx s hi)
  exact h.mono (fun _ _ ht => ⟨hR.trans hs ht, hI ht hi⟩) fun _ ht => hR.trans hs ht

theorem triple (hx : Along R x) (hI : ∀ {s t}, R s t → I s → I t) (s₀ : σ) :
    Triple (fun s => R s₀ s ∧ I s) x (fun _ s => R s₀ s ∧ I s) (R s₀) :=
  hR.triple_of (fun s _ => hx s) hI s₀

end Stepwise

theorem stepwise_eq : Stepwise fun s t : σ => t = s where
  refl _ := rfl
  trans h h' := h'.trans h

theorem stepwise_same {τ : Type} (part : σ → τ) : Stepwise fun s t : σ => part t = part s where
  refl _ := rfl
  trans h h' := h'.trans h

theorem run_bind_congr {g : α → Effect σ ε β} {s : σ} (hx : Along (fun s t => t = s) x)
    (h : ∀ a, (f a).run s = (g a).run s) : (x >>= f).run s = (x >>= g).run s := by
  have hs := hx s
  match hr : x.run s with
  | (.ok a, s') =>
    rw [hr] at hs
    rw [run_bind_ok hr, run_bind_ok hr, show s' = s from hs, h a]
  | (.error e, s') => rw [run_bind_error hr, run_bind_error hr]

theorem reads_of_checks {F : σ → α → Prop} (h : ∀ s, Checks s x (F s)) :
    Along (fun s t => t = s) x :=
  fun s => (h s).holds (fun _ _ h => h.1) (fun _ h => h) s rfl

theorem Along.checks (hx : Along (fun s t => t = s) x) (s₀ : σ) : Checks s₀ x fun _ => True :=
  (hx.triple s₀).post (fun _ _ h => ⟨h, trivial⟩) fun _ h => h

end Effect
