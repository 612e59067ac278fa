import Mathlib.Tactic.SplitIfs
import Mathlib.Data.List.GetD
import Kuberic.Replicator.Configuration

/-!
# The durable state of the application

The application behind a replica implements `DurableState`; the engine relies on the contract that
`LawfulDurableState` states.  Progress is durable and never shrinks, an operation is appended at the
next LSN or not at all, a commit leaves the operations alone, and a verified operation is the one
stored at its LSN.  `LawfulCopyState` is the contract of the hooks that install a copy.  `LogStorage`
is the plainest application that keeps the first one.
-/

namespace Kuberic

structure DurableApplicationProgress where
  appliedLsn : Int
  committedLsn : Int
  deriving DecidableEq

/-- The storage hooks of the default replication engine. -/
class DurableState (σ : Type) where
  durableProgress : σ → DurableApplicationProgress
  apply : σ → Operation → Result DurableApplicationProgress × σ
  verifyApplied : σ → Operation → Bool
  commit : σ → Int → Result DurableApplicationProgress × σ
  getReplicationOperations : σ → Int → Int → Result (List Operation)

/-- The hooks that stage and install a copy. -/
class CopyState (σ : Type) where
  applyCopyChunk : σ → OperationId → Nat → Bytes → Result Unit × σ
  verifyCopyChunk : σ → OperationId → Nat → Bytes → Bool
  finishCopy : σ → OperationId → Int → Int → Result DurableApplicationProgress × σ

namespace DurableState

variable {σ : Type} [DurableState σ]

def appliedLsn (s : σ) : Int := (durableProgress s).appliedLsn

def committedLsn (s : σ) : Int := (durableProgress s).committedLsn

end DurableState

open DurableState

/-- The contract of the storage hooks, in terms of the data stored at each LSN. -/
class LawfulDurableState (σ : Type) [DurableState σ] where
  /-- The data of the operation applied at an LSN. -/
  operationAt : σ → Int → Option Bytes
  /-- An operation is appended at the next LSN or not at all, also when the call fails. -/
  apply_append : ∀ (s : σ) (op : Operation), let s' := (apply s op).2
    (∀ l ≤ appliedLsn s, operationAt s' l = operationAt s l) ∧
      (durableProgress s' = durableProgress s ∨
        (op.lsn = appliedLsn s + 1 ∧ appliedLsn s' = op.lsn ∧
          operationAt s' op.lsn = some op.data ∧
          committedLsn s' = max (committedLsn s) op.committedLsn))
  /-- A successful call has stored the operation and returns the progress it left. -/
  apply_ok : ∀ (s : σ) (op : Operation) {ack : DurableApplicationProgress},
    (apply s op).1 = .ok ack → let s' := (apply s op).2
    ack = durableProgress s' ∧ appliedLsn s' = op.lsn ∧ operationAt s' op.lsn = some op.data
  verifyApplied_true : ∀ (s : σ) (op : Operation), verifyApplied s op = true →
    op.lsn ≤ appliedLsn s ∧ operationAt s op.lsn = some op.data
  /-- A commit moves the committed LSN only. -/
  commit_keeps : ∀ (s : σ) (c : Int), let s' := (commit s c).2
    appliedLsn s' = appliedLsn s ∧ operationAt s' = operationAt s ∧
      (committedLsn s' = committedLsn s ∨
        (c ≤ appliedLsn s ∧ committedLsn s' = max (committedLsn s) c))
  commit_ok : ∀ (s : σ) (c : Int) {ack : DurableApplicationProgress}, (commit s c).1 = .ok ack →
    ack = durableProgress (commit s c).2 ∧ committedLsn (commit s c).2 = max (committedLsn s) c
  getReplicationOperations_mem : ∀ (s : σ) {fromLsn toLsn : Int} {ops : List Operation},
    getReplicationOperations s fromLsn toLsn = .ok ops → ∀ op ∈ ops,
      op.lsn ≤ appliedLsn s ∧ operationAt s op.lsn = some op.data ∧ op.committedLsn ≤ op.lsn

export LawfulDurableState (operationAt)

/-- The contract of the copy hooks, in terms of the chunks that a storage has of each build, staged or
installed.  A completed copy may take the applied LSN and the operations back. -/
class LawfulCopyState (σ : Type) [DurableState σ] [CopyState σ] where
  copied : σ → OperationId → Nat → Option Bytes
  installed : σ → OperationId → Prop
  /-- A chunk is stored in its own place or not at all, also when the call fails. -/
  applyCopyChunk_stages : ∀ (s : σ) (b : OperationId) (n : Nat) (data : Bytes),
    let s' := (CopyState.applyCopyChunk s b n data).2
    (installed s' b ↔ installed s b) ∧ (∀ n' ≠ n, copied s' b n' = copied s b n') ∧
      (copied s' b n = copied s b n ∨ copied s' b n = some data)
  applyCopyChunk_ok : ∀ (s : σ) (b : OperationId) (n : Nat) (data : Bytes), ¬installed s b →
    (CopyState.applyCopyChunk s b n data).1 = .ok () →
      copied (CopyState.applyCopyChunk s b n data).2 b n = some data
  /-- An exact retry changes nothing. -/
  applyCopyChunk_again : ∀ (s : σ) (b : OperationId) (n : Nat) (data : Bytes), ¬installed s b →
    copied s b n = some data → (CopyState.applyCopyChunk s b n data).2 = s
  finishCopy_keeps : ∀ (s : σ) (b : OperationId) (upTo committed : Int),
    let s' := (CopyState.finishCopy s b upTo committed).2
    copied s' b = copied s b ∧ (installed s b → installed s' b)
  /-- A completed copy is installed, and an immediate retry changes nothing. -/
  finishCopy_ok : ∀ (s : σ) (b : OperationId) (upTo committed : Int)
    {ack : DurableApplicationProgress},
    (CopyState.finishCopy s b upTo committed).1 = .ok ack →
      let s' := (CopyState.finishCopy s b upTo committed).2
      ack = durableProgress s' ∧ installed s' b ∧
        (CopyState.finishCopy s' b upTo committed).2 = s'
  apply_copied : ∀ (s : σ) (op : Operation),
    copied (apply s op).2 = copied s ∧ installed (apply s op).2 = installed s

export LawfulCopyState (copied installed)

/-! ## Growing storage -/

section Grows

variable {σ : Type} [DurableState σ] [LawfulDurableState σ]

/-- The second storage keeps every operation of the first one. -/
structure Grows (s s' : σ) : Prop where
  applied : appliedLsn s ≤ appliedLsn s'
  operations : ∀ l ≤ appliedLsn s, operationAt s' l = operationAt s l

theorem Grows.refl (s : σ) : Grows s s := ⟨le_refl _, fun _ _ => rfl⟩

theorem Grows.trans {s s' s'' : σ} (h : Grows s s') (h' : Grows s' s'') : Grows s s'' where
  applied := h.applied.trans h'.applied
  operations l hl := (h'.operations l (hl.trans h.applied)).trans (h.operations l hl)

theorem grows_apply (s : σ) (op : Operation) : Grows s (apply s op).2 := by
  obtain ⟨hops, hprogress | ⟨hlsn, happlied, -⟩⟩ := LawfulDurableState.apply_append s op
  · refine ⟨?_, hops⟩
    rw [appliedLsn, appliedLsn, hprogress]
  · refine ⟨?_, hops⟩
    omega

theorem grows_commit (s : σ) (c : Int) : Grows s (commit s c).2 := by
  obtain ⟨happlied, hops, -⟩ := LawfulDurableState.commit_keeps s c
  exact ⟨happlied.ge, fun l _ => by rw [hops]⟩

/-- The storage holds the operation at its LSN. -/
def Stored (s : σ) (lsn : Int) (data : Bytes) : Prop :=
  lsn ≤ appliedLsn s ∧ operationAt s lsn = some data

theorem Stored.grows {s s' : σ} {lsn : Int} {data : Bytes} (h : Stored s lsn data)
    (hg : Grows s s') : Stored s' lsn data :=
  ⟨h.1.trans hg.applied, (hg.operations lsn h.1).trans h.2⟩

/-- Up to the LSN `v`, the storage holds the operations of the primary's storage. -/
def Covers (s primary : σ) (v : Int) : Prop :=
  ∀ l, 1 ≤ l → l ≤ v →
    l ≤ appliedLsn s ∧ l ≤ appliedLsn primary ∧ operationAt s l = operationAt primary l

namespace Covers

variable {s s' primary primary' : σ} {v w : Int}

theorem mono (h : Covers s primary v) (hle : w ≤ v) : Covers s primary w :=
  fun l h1 hl => h l h1 (hl.trans hle)

theorem of_nonpos (h : v ≤ 0) : Covers s primary v := fun l h1 hl => by omega

theorem of_le_applied (h : v ≤ appliedLsn s) : Covers s s v :=
  fun _ _ hl => ⟨hl.trans h, hl.trans h, rfl⟩

theorem grows (h : Covers s primary v) (hs : Grows s s') (hp : Grows primary primary') :
    Covers s' primary' v := by
  intro l h1 hl
  obtain ⟨ha, hpa, heq⟩ := h l h1 hl
  refine ⟨ha.trans hs.applied, hpa.trans hp.applied, ?_⟩
  rw [hs.operations l ha, hp.operations l hpa, heq]

theorem succ {data : Bytes} (h : Covers s primary v) (hs : Stored s (v + 1) data)
    (hp : Stored primary (v + 1) data) : Covers s primary (v + 1) := by
  intro l h1 hl
  by_cases hv : l ≤ v
  · exact h l h1 hv
  · obtain rfl : l = v + 1 := by omega
    exact ⟨hs.1, hp.1, hs.2.trans hp.2.symm⟩

end Covers

end Grows

/-! ## A log as storage -/

/-- The operations in LSN order, from LSN 1. -/
structure LogStorage where
  operations : List Bytes
  committed : Int
  deriving DecidableEq

namespace LogStorage

def progress (s : LogStorage) : DurableApplicationProgress := ⟨s.operations.length, s.committed⟩

/-- The data at an LSN. -/
def dataAt (s : LogStorage) (lsn : Int) : Option Bytes :=
  if 1 ≤ lsn then s.operations[(lsn - 1).toNat]? else none

instance : DurableState LogStorage where
  durableProgress := progress
  apply s op :=
    if op.lsn = s.operations.length + 1 then
      let s' : LogStorage := ⟨s.operations ++ [op.data], max s.committed op.committedLsn⟩
      (.ok s'.progress, s')
    else (.error (.application "test application observed a replication gap"), s)
  verifyApplied s op := s.dataAt op.lsn = some op.data
  commit s c :=
    if c > s.operations.length then (.error (.application "commit exceeds applied progress"), s)
    else
      let s' : LogStorage := { s with committed := max s.committed c }
      (.ok s'.progress, s')
  getReplicationOperations s fromLsn toLsn := .ok <|
    (List.range s.operations.length).filterMap fun i : Nat =>
      if fromLsn ≤ i + 1 ∧ (i : Int) + 1 ≤ toLsn then
        some ⟨i + 1, 0, s.operations.getD i []⟩
      else none

theorem dataAt_append (s : LogStorage) (data : Bytes) {lsn : Int} (h : lsn ≤ s.operations.length)
    (c : Int) : dataAt ⟨s.operations ++ [data], c⟩ lsn = s.dataAt lsn := by
  unfold dataAt
  split_ifs with h1
  · rw [List.getElem?_append_left (by omega)]
  · rfl

theorem dataAt_new (s : LogStorage) (data : Bytes) (c : Int) :
    dataAt ⟨s.operations ++ [data], c⟩ (s.operations.length + 1) = some data := by
  unfold dataAt
  rw [if_pos (by omega)]
  simp

theorem le_of_dataAt {s : LogStorage} {lsn : Int} {data : Bytes} (h : s.dataAt lsn = some data) :
    lsn ≤ s.operations.length := by
  unfold dataAt at h
  split_ifs at h with h1
  obtain ⟨hlt, -⟩ := List.getElem?_eq_some_iff.1 h
  omega

instance : LawfulDurableState LogStorage where
  operationAt := dataAt
  apply_append s op := by
    simp only [DurableState.apply]
    split_ifs with h
    · refine ⟨fun l hl => dataAt_append s op.data hl _, .inr ⟨h, ?_, ?_, rfl⟩⟩
      · simp [appliedLsn, durableProgress, progress, h]
      · rw [h]
        exact dataAt_new s op.data _
    · exact ⟨fun _ _ => rfl, .inl rfl⟩
  apply_ok s op ack h := by
    simp only [DurableState.apply] at h ⊢
    split_ifs at h ⊢ with hlsn
    · refine ⟨(Except.ok.inj h).symm, ?_, ?_⟩
      · simp [appliedLsn, durableProgress, progress, hlsn]
      · rw [hlsn]
        exact dataAt_new s op.data _
  verifyApplied_true s op h := by
    have hdata : s.dataAt op.lsn = some op.data := of_decide_eq_true h
    exact ⟨le_of_dataAt hdata, hdata⟩
  commit_keeps s c := by
    simp only [DurableState.commit]
    split_ifs with h
    · exact ⟨rfl, rfl, .inl rfl⟩
    · exact ⟨rfl, rfl, .inr ⟨not_lt.1 h, rfl⟩⟩
  commit_ok s c ack h := by
    simp only [DurableState.commit] at h ⊢
    split_ifs at h ⊢ with hc
    · exact ⟨(Except.ok.inj h).symm, rfl⟩
  getReplicationOperations_mem s fromLsn toLsn ops h op hop := by
    obtain rfl := Except.ok.inj h
    obtain ⟨i, hi, hsome⟩ := List.mem_filterMap.1 hop
    rw [List.mem_range] at hi
    split_ifs at hsome with hrange
    obtain rfl := Option.some.inj hsome
    refine ⟨?_, ?_, ?_⟩
    · simp only [appliedLsn, durableProgress, progress]
      omega
    · simp only [dataAt]
      rw [if_pos (by omega)]
      simp [hi]
    · simp only
      omega

end LogStorage

end Kuberic
