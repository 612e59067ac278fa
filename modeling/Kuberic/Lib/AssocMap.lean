import Mathlib.Data.List.Sort
import Mathlib.Data.List.Nodup
import Mathlib.Data.List.Perm.Basic

/-!
# Finite maps with decidable keys

A finite map is an association list without duplicate keys; the invariant is a field, so every
operation keeps it.  `get?` is the only observation that the lemmas below speak about: each
operation has one equation for it.  Over ordered keys, `sortedKeys` lists the keys in ascending
order, which is the iteration order of an ordered map.
-/

universe u v

/-- A finite map, as an association list with distinct keys. -/
structure AssocMap (κ : Type u) (β : Type v) where
  entries : List (κ × β)
  nodup : (entries.map Prod.fst).Nodup

namespace AssocMap

variable {κ : Type u} {β : Type v}

def empty : AssocMap κ β := ⟨[], List.nodup_nil⟩

instance : EmptyCollection (AssocMap κ β) := ⟨empty⟩

instance : Inhabited (AssocMap κ β) := ⟨∅⟩

def keys (m : AssocMap κ β) : List κ := m.entries.map Prod.fst

def values (m : AssocMap κ β) : List β := m.entries.map Prod.snd

def isEmpty (m : AssocMap κ β) : Bool := m.entries.isEmpty

/-- Keep the entries whose key and value satisfy `p`. -/
def retain (p : κ → β → Bool) (m : AssocMap κ β) : AssocMap κ β where
  entries := m.entries.filter fun e => p e.1 e.2
  nodup := m.nodup.sublist (List.filter_sublist.map _)

/-- Replace every value by its image under `f`. -/
def mapValues {γ : Type v} (f : β → γ) (m : AssocMap κ β) : AssocMap κ γ where
  entries := m.entries.map fun e => (e.1, f e.2)
  nodup := by
    rw [List.map_map]
    exact m.nodup

/-- Replace every value by its image under `f` and its key. -/
def mapEntries {γ : Type v} (f : κ → β → γ) (m : AssocMap κ β) : AssocMap κ γ where
  entries := m.entries.map fun e => (e.1, f e.1 e.2)
  nodup := by
    rw [List.map_map]
    exact m.nodup

@[simp] theorem retain_true (m : AssocMap κ β) : (m.retain fun _ _ => true) = m := by
  obtain ⟨l, hl⟩ := m
  simp [retain]

variable {m : AssocMap κ β}

theorem retain_eq_retain_iff {p q : κ → β → Bool} :
    m.retain p = m.retain q ↔ ∀ e ∈ m.entries, p e.1 e.2 = q e.1 e.2 := by
  constructor
  · intro h e he
    have hmem : e ∈ (m.retain p).entries ↔ e ∈ (m.retain q).entries := by rw [h]
    simp only [retain, List.mem_filter, he, true_and] at hmem
    exact Bool.eq_iff_iff.2 hmem
  · intro h
    obtain ⟨l, hl⟩ := m
    simp only [retain, mk.injEq]
    exact List.filter_congr h

variable {k : κ}

section Lookup

variable [DecidableEq κ]

/-- The value stored for a key. -/
def get? (m : AssocMap κ β) (k : κ) : Option β :=
  (m.entries.find? fun e => e.1 = k).map Prod.snd

def contains (m : AssocMap κ β) (k : κ) : Bool := (m.get? k).isSome

def erase (m : AssocMap κ β) (k : κ) : AssocMap κ β := m.retain fun k' _ => k' ≠ k

def insert (m : AssocMap κ β) (k : κ) (v : β) : AssocMap κ β where
  entries := (k, v) :: (m.erase k).entries
  nodup := by
    rw [List.map_cons, List.nodup_cons]
    refine ⟨?_, (m.erase k).nodup⟩
    simp [erase, retain]

/-- Insert `v`, or replace the present value `old` by `f old`. -/
def upsert (m : AssocMap κ β) (k : κ) (v : β) (f : β → β) : AssocMap κ β :=
  m.insert k ((m.get? k).elim v f)

theorem get?_eq_some_iff (m : AssocMap κ β) (k : κ) (v : β) :
    m.get? k = some v ↔ (k, v) ∈ m.entries := by
  obtain ⟨l, hl⟩ := m
  simp only [get?]
  induction l with
  | nil => simp
  | cons e l ih =>
    obtain ⟨k', v'⟩ := e
    rw [List.map_cons, List.nodup_cons] at hl
    by_cases h : k' = k
    · subst h
      have hmem : (k', v) ∉ l := fun hm => hl.1 (List.mem_map.2 ⟨_, hm, rfl⟩)
      simp [hmem, eq_comm]
    · simp [h, ih hl.2, Ne.symm h]

@[simp] theorem get?_empty (k : κ) : (∅ : AssocMap κ β).get? k = none := rfl

@[simp] theorem get?_retain (m : AssocMap κ β) (p : κ → β → Bool) (k : κ) :
    (m.retain p).get? k = (m.get? k).filter (p k) := by
  ext v
  rw [get?_eq_some_iff, Option.filter_eq_some_iff, get?_eq_some_iff]
  simp [retain]

@[simp] theorem get?_erase_self (m : AssocMap κ β) (k : κ) : (m.erase k).get? k = none := by
  simp [erase]

@[simp] theorem get?_erase_of_ne (m : AssocMap κ β) {k' : κ} (h : k' ≠ k) :
    (m.erase k).get? k' = m.get? k' := by
  rw [erase, get?_retain]
  cases m.get? k' <;> simp [Option.filter, h]

@[simp] theorem get?_insert_self (m : AssocMap κ β) (k : κ) (v : β) :
    (m.insert k v).get? k = some v := by
  simp [insert, get?]

@[simp] theorem get?_insert_of_ne (m : AssocMap κ β) {k' : κ} (v : β) (h : k' ≠ k) :
    (m.insert k v).get? k' = m.get? k' := by
  rw [← get?_erase_of_ne m h]
  simp [insert, get?, Ne.symm h]

theorem get?_insert (m : AssocMap κ β) (k k' : κ) (v : β) :
    (m.insert k v).get? k' = if k' = k then some v else m.get? k' := by
  split_ifs with h
  · rw [h, get?_insert_self]
  · exact get?_insert_of_ne m v h

theorem get?_upsert (m : AssocMap κ β) (k k' : κ) (v : β) (f : β → β) :
    (m.upsert k v f).get? k' = if k' = k then some ((m.get? k).elim v f) else m.get? k' :=
  get?_insert m k k' _

end Lookup

theorem mem_keys_iff [DecidableEq κ] (m : AssocMap κ β) (k : κ) :
    k ∈ m.keys ↔ ∃ v, m.get? k = some v := by
  simp [keys, get?_eq_some_iff]

theorem mem_values_iff [DecidableEq κ] (m : AssocMap κ β) (v : β) :
    v ∈ m.values ↔ ∃ k, m.get? k = some v := by
  simp [values, get?_eq_some_iff]

theorem mem_values_of_erase [DecidableEq κ] {v : β} (h : v ∈ (m.erase k).values) : v ∈ m.values :=
  (List.filter_sublist.map _).subset h

theorem mem_values_of_eraseAll [DecidableEq κ] {ks : List κ} {v : β}
    (h : v ∈ (ks.foldl (fun m k => m.erase k) m).values) : v ∈ m.values := by
  induction ks generalizing m with
  | nil => exact h
  | cons k ks ih => exact mem_values_of_erase (ih h)

theorem get?_eraseAll_of_notMem [DecidableEq κ] {ks : List κ} (h : k ∉ ks) :
    ∀ m : AssocMap κ β, (ks.foldl (fun m k => m.erase k) m).get? k = m.get? k := by
  induction ks with
  | nil => exact fun _ => rfl
  | cons k' ks ih =>
    intro m
    rw [List.mem_cons, not_or] at h
    rw [List.foldl_cons, ih h.2, get?_erase_of_ne m h.1]

theorem get?_erase_eq_some [DecidableEq κ] {k' : κ} {v : β} :
    (m.erase k').get? k = some v ↔ k ≠ k' ∧ m.get? k = some v := by
  by_cases hk : k = k'
  · simp [hk]
  · rw [get?_erase_of_ne m hk]
    simp [hk]

theorem get?_of_erase [DecidableEq κ] {k' : κ} {v : β} (h : (m.erase k').get? k = some v) :
    m.get? k = some v :=
  (get?_erase_eq_some.1 h).2

theorem get?_of_eraseAll [DecidableEq κ] {ks : List κ} {v : β} :
    ∀ {m : AssocMap κ β}, (ks.foldl (fun m k => m.erase k) m).get? k = some v →
      m.get? k = some v := by
  induction ks with
  | nil => exact fun h => h
  | cons k' ks ih => exact fun h => get?_of_erase (ih h)

theorem eq_empty_of_isEmpty (h : m.isEmpty = true) : m = ∅ := by
  obtain ⟨l, hl⟩ := m
  simp only [isEmpty, List.isEmpty_iff] at h
  subst h
  rfl

section Order

variable [LinearOrder κ]

/-- The keys in ascending order. -/
def sortedKeys (m : AssocMap κ β) : List κ := m.keys.insertionSort (· ≤ ·)

/-- The values in ascending order of their keys. -/
def sortedValues (m : AssocMap κ β) : List β := m.sortedKeys.filterMap m.get?

/-- The entries in ascending order of their keys. -/
def ascending (m : AssocMap κ β) : List (κ × β) :=
  m.entries.insertionSort fun a b => a.1 ≤ b.1

theorem mem_ascending (m : AssocMap κ β) (k : κ) (v : β) :
    (k, v) ∈ m.ascending ↔ m.get? k = some v := by
  rw [get?_eq_some_iff]
  exact (List.perm_insertionSort _ _).mem_iff

theorem mem_sortedKeys (m : AssocMap κ β) (k : κ) : k ∈ m.sortedKeys ↔ k ∈ m.keys :=
  (List.perm_insertionSort _ _).mem_iff

theorem mem_sortedValues_of_get? {v : β} (h : m.get? k = some v) : v ∈ m.sortedValues :=
  List.mem_filterMap.2 ⟨k, (mem_sortedKeys m k).2 ((mem_keys_iff m k).2 (by simp [h])), h⟩

theorem sortedValues_eq_nil (m : AssocMap κ β) : m.sortedValues = [] ↔ m.entries = [] := by
  constructor
  · intro h
    rw [List.eq_nil_iff_forall_not_mem]
    rintro ⟨k, v⟩ hkv
    have hmem := mem_sortedValues_of_get? ((get?_eq_some_iff m k v).2 hkv)
    rw [h] at hmem
    cases hmem
  · intro h
    simp [sortedValues, sortedKeys, keys, h]

theorem mem_takeWhile_sortedKeys (m : AssocMap κ β) (b k : κ) :
    k ∈ m.sortedKeys.takeWhile (fun x => x ≤ b) ↔ k ∈ m.keys ∧ k ≤ b := by
  rw [← mem_sortedKeys]
  have hs : m.sortedKeys.Pairwise (· ≤ ·) := List.pairwise_insertionSort _ _
  generalize m.sortedKeys = l at hs ⊢
  induction l with
  | nil => simp
  | cons a l ih =>
    rw [List.pairwise_cons] at hs
    by_cases ha : a ≤ b
    · simp only [List.takeWhile_cons, ha, decide_true, if_true, List.mem_cons, ih hs.2]
      constructor
      · rintro (rfl | ⟨h, hb⟩)
        · exact ⟨Or.inl rfl, ha⟩
        · exact ⟨Or.inr h, hb⟩
      · rintro ⟨rfl | h, hb⟩
        · exact Or.inl rfl
        · exact Or.inr ⟨h, hb⟩
    · have hn : ¬ ((k = a ∨ k ∈ l) ∧ k ≤ b) := by
        rintro ⟨rfl | h, hb⟩
        · exact ha hb
        · exact ha ((hs.1 k h).trans hb)
      simpa [List.takeWhile_cons, ha] using hn

end Order

end AssocMap
