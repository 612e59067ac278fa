import Kuberic.Runtime.Cluster
import Kuberic.Runtime.Frame

/-!
# Interrupted local writes

A local write is journalled before it is stored, and its journal entry is only resolved by this
replica's own commits.  The write can be resumed as long as the storage holds its operation, or can
take it next: `Resumable`.

The journal keeps that up by itself.  There is never more than one unresolved write, because an open
engine knows the unresolved writes of its journal and refuses any other one.  The storage does not:
under the authority of another primary it takes that primary's operation at the LSN of the write.
-/

namespace Kuberic

open Effect DurableState

variable {σ : Type}

/-! ## Journal and local writes -/

/-- An entry of the journal that is not committed. -/
def Unresolved (journal : AssocMap OperationId DurableLocalWrite) (id : OperationId)
    (w : DurableLocalWrite) : Prop := journal.get? id = some w ∧ w.phase ≠ .committed

/-- No entry of the journal under this ID is unresolved. -/
def Resolved (journal : AssocMap OperationId DurableLocalWrite) (id : OperationId) : Prop :=
  ∀ w, journal.get? id = some w → w.phase = .committed

/-- What an engine knows of its local writes. -/
structure LocalWriteState (σ : Type) where
  isOpen : Bool
  storage : σ
  journal : AssocMap OperationId DurableLocalWrite
  localWrites : AssocMap OperationId DurableLocalWrite

def Engine.localWriteState (e : Engine σ) : LocalWriteState σ :=
  ⟨e.isOpen, e.storage, e.journal, e.localWrites⟩

def SameWrites (e e' : Engine σ) : Prop := e'.localWriteState = e.localWriteState

/-- Entries stand under their own IDs. -/
structure Keyed (c : LocalWriteState σ) : Prop where
  keyed : ∀ id w, c.journal.get? id = some w → w.operationId = id
  localKeyed : ∀ id w, c.localWrites.get? id = some w → w.operationId = id

section Maps

variable {c : LocalWriteState σ} {id id' : OperationId} {w w' : DurableLocalWrite}
  {journal localWrites : AssocMap OperationId DurableLocalWrite} {e : Engine σ}

theorem unresolved_insert : Unresolved (journal.insert id w) id' w' ↔
      (id' = id ∧ w' = w ∧ w.phase ≠ .committed) ∨ (id' ≠ id ∧ Unresolved journal id' w') := by
  unfold Unresolved
  rw [AssocMap.get?_insert]
  split_ifs with h
  · simp only [h, Option.some.injEq, true_and, ne_eq, not_true_eq_false, false_and, or_false]
    constructor
    · rintro ⟨rfl, hphase⟩
      exact ⟨rfl, hphase⟩
    · rintro ⟨rfl, hphase⟩
      exact ⟨rfl, hphase⟩
  · simp [h]

theorem Resolved.insert (hphase : w.phase = .committed) (h : id ≠ w.operationId → Resolved journal id) :
    Resolved (journal.insert w.operationId w) id := by
  intro v hv
  rw [AssocMap.get?_insert] at hv
  split_ifs at hv with hid
  · rw [← Option.some.inj hv]
    exact hphase
  · exact h hid v hv

theorem key_insert (h : ∀ id w, journal.get? id = some w → w.operationId = id) (hid : w.operationId = id) :
    ∀ id' w', (journal.insert id w).get? id' = some w' → w'.operationId = id' := by
  intro id' w' hw
  rw [AssocMap.get?_insert] at hw
  split_ifs at hw with hsame
  · rw [hsame, ← hid, Option.some.inj hw]
  · exact h id' w' hw

theorem Keyed.record (h : Keyed c) : Keyed { c with journal := c.journal.insert w.operationId w } :=
  ⟨key_insert h.keyed rfl, h.localKeyed⟩

theorem Keyed.know (h : Keyed c) (hid : w.operationId = id) :
    Keyed { c with localWrites := c.localWrites.insert id w } :=
  ⟨h.keyed, key_insert h.localKeyed hid⟩

theorem Keyed.forget (h : Keyed c)
    (hsub : ∀ id w, localWrites.get? id = some w → c.localWrites.get? id = some w) :
    Keyed { c with localWrites := localWrites } :=
  ⟨h.keyed, fun id w hw => h.localKeyed id w (hsub id w hw)⟩

/-- A write that is known stays known. -/
theorem isSome_insert (h : (localWrites.get? id').isSome) :
    ((localWrites.insert id w).get? id').isSome := by
  rw [AssocMap.get?_insert]
  split_ifs
  · rfl
  · exact h

theorem stepwise_sameWrites : Stepwise (SameWrites : Engine σ → Engine σ → Prop) :=
  stepwise_same Engine.localWriteState

theorem sameWrites_verifyLocalWriteProgress (lsn : Int) :
    Along SameWrites (verifyLocalWriteProgress lsn : EngineM σ Unit) :=
  same_verifyLocalWriteProgress Engine.localWriteState (fun _ _ _ _ => rfl) lsn

theorem triple_recordLocalWrite (fault : Option RuntimeError) (write : DurableLocalWrite) :
    Triple (· = e) (recordLocalWrite fault write)
      (fun _ s => s = { e with journal := e.journal.insert write.operationId write }) (· = e) := by
  cases fault with
  | some error => exact fun s hs => hs
  | none => exact fun s hs => by rw [hs]; rfl

/-- What every record keeps is kept, and the writes are resolved at the end. -/
theorem triple_recordLocalWrites {I : Engine σ → Prop} (writes : List DurableLocalWrite)
    (hwrites : ∀ w ∈ writes, w.phase = .committed ∧
      ∀ e, I e → I { e with journal := e.journal.insert w.operationId w }) :
    ∀ (faults : Faults) (done : OperationId → Prop),
      Triple (fun e => I e ∧ ∀ id, done id → Resolved e.journal id) (recordLocalWrites faults writes)
        (fun _ e => I e ∧
          ∀ id, (done id ∨ id ∈ writes.map (·.operationId)) → Resolved e.journal id) I := by
  induction writes with
  | nil => exact fun _ _ => triple_pure fun e h => ⟨h.1, fun id hid =>
      h.2 id (hid.resolve_right (by simp))⟩
  | cons write rest ih =>
    intro faults done
    obtain ⟨hphase, hrecord⟩ := hwrites write List.mem_cons_self
    refine Triple.bind (R := fun _ e => I e ∧
      ∀ id, (done id ∨ id = write.operationId) → Resolved e.journal id) ?_ fun _ => ?_
    · rintro e ⟨h, hdone⟩
      refine (triple_recordLocalWrite (faults 0) write e rfl).mono ?_ (fun _ hs => hs ▸ h)
      rintro - _ rfl
      refine ⟨hrecord e h, fun id hid => .insert hphase fun hne => ?_⟩
      exact hdone id (hid.resolve_right hne)
    · refine (ih (fun w hw => hwrites w (List.mem_cons_of_mem _ hw)) _ _).post
        (fun _ e h => ⟨h.1, fun id hid => h.2 id ?_⟩) fun _ h => h
      simp only [List.map_cons, List.mem_cons] at hid
      tauto

/-- The commit of what is ready: the storage commits, the local writes up to there are recorded as
committed, and the engine drops them. -/
theorem triple_finalizeReadyCommitLocked [DurableState σ] {I Q : Engine σ → Prop} (hI : I e) (hQ : Q e)
    (hcommit : ∀ lsn, I { e with storage := (commit e.storage lsn).2 })
    (hrecord : ∀ s id w, I s → e.localWrites.get? id = some w → I { s with
      journal := s.journal.insert w.operationId { w with phase := .committed } })
    (hlog : ∀ s log, I s → I { s with log := log })
    (hforget : ∀ s (ids : List OperationId) committed, I s → (∀ id ∈ ids, Resolved s.journal id) →
      Q { s with localWrites := ids.foldl (fun w k => w.erase k) s.localWrites, committedLsn := committed })
    (faults : Faults) :
    Triple (· = e) (finalizeReadyCommitLocked faults) (fun _ => Q) I := by
  refine checks_observe.bind hI ?_
  rintro e rfl
  cases e.log.quorum.readyCommitLsn with
  | none => exact triple_pure fun _ h => h ▸ hQ
  | some readyLsn =>
    refine Triple.bind (triple_zoom.post (fun _ _ h => h.2) fun _ hs => hs ▸ hcommit readyLsn)
      fun progress => ?_
    refine checks_require.bind (hcommit _) fun _ _ => checks_observe.bind (hcommit _) ?_
    rintro _ rfl
    simp only
    generalize hwrites : (e.localWrites.values.filter _).map _ = writes
    refine Triple.bind ((triple_recordLocalWrites writes ?_ faults fun _ => False).pre ?_) fun _ => ?_
    · rw [← hwrites]
      intro w hw
      obtain ⟨w₀, hw₀, rfl⟩ := List.mem_map.1 hw
      obtain ⟨id, hid⟩ := (AssocMap.mem_values_iff _ _).1 (List.mem_filter.1 hw₀).1
      exact ⟨rfl, fun s hs => hrecord s id w₀ hs hid⟩
    · rintro _ rfl
      exact ⟨hcommit _, fun _ h => h.elim⟩
    refine Triple.bind (R := fun _ s => I s ∧
      ∀ id ∈ writes.map (·.operationId), Resolved s.journal id) ?_ fun _ => triple_update fun s hs => ?_
    · refine (triple_of_run (I := fun s => I s ∧
        ∀ id ∈ writes.map (·.operationId), Resolved s.journal id) ?_).error fun _ h => h.1
      exact fun s hs => ⟨hlog s _ hs.1, fun id hid => hs.2 id (.inr hid)⟩
    · rw [show writes.foldl (fun w write => w.erase write.operationId) s.localWrites =
        (writes.map (·.operationId)).foldl (fun w k => w.erase k) s.localWrites from
          List.foldl_map.symm]
      exact hforget s _ _ hs.1 hs.2

end Maps

/-! ## The order of the journal -/

variable [DurableState σ] [LawfulDurableState σ]

/-- The storage holds the operation of the write, or can take it next. -/
def DurableLocalWrite.Resumable (w : DurableLocalWrite) (s : σ) : Prop :=
  Stored s w.lsn w.data ∨ w.lsn = appliedLsn s + 1

structure JournalInv (c : LocalWriteState σ) : Prop extends Keyed c where
  resumable : ∀ id w, Unresolved c.journal id w → w.Resumable c.storage
  single : ∀ id w id' w', Unresolved c.journal id w → Unresolved c.journal id' w' → id = id'
  /-- An open engine knows the unresolved writes of its journal. -/
  known : c.isOpen = true → ∀ id w, Unresolved c.journal id w → (c.localWrites.get? id).isSome

section State

variable {c : LocalWriteState σ} {id : OperationId} {w : DurableLocalWrite}

theorem DurableLocalWrite.Resumable.commit {s : σ} (h : w.Resumable s) (lsn : Int) :
    w.Resumable (commit s lsn).2 := by
  obtain hstored | hnext := h
  · exact .inl (hstored.grows (grows_commit s lsn))
  · refine .inr ?_
    rw [(LawfulDurableState.commit_keeps s lsn).1]
    exact hnext

theorem DurableLocalWrite.Resumable.apply {s : σ} (h : w.Resumable s) {op : Operation}
    (hop : op.lsn = w.lsn → op.data = w.data) : w.Resumable (DurableState.apply s op).2 := by
  obtain hstored | hnext := h
  · exact .inl (hstored.grows (grows_apply s op))
  · obtain ⟨-, hsame | ⟨hlsn, happlied, hdata, -⟩⟩ := LawfulDurableState.apply_append s op
    · refine .inr ?_
      rw [show appliedLsn (DurableState.apply s op).2 = appliedLsn s from
        congrArg DurableApplicationProgress.appliedLsn hsame]
      exact hnext
    · have hmeet : op.lsn = w.lsn := hlsn.trans hnext.symm
      refine .inl ⟨?_, ?_⟩
      · rw [← hmeet, happlied]
      · rw [← hmeet, hdata, hop hmeet]

theorem JournalInv.commit (h : JournalInv c) (lsn : Int) :
    JournalInv { c with storage := (DurableState.commit c.storage lsn).2 } :=
  ⟨⟨h.keyed, h.localKeyed⟩, fun id w hw => (h.resumable id w hw).commit lsn, h.single, h.known⟩

theorem JournalInv.apply (h : JournalInv c) {op : Operation}
    (hop : ∀ id w, Unresolved c.journal id w → op.lsn = w.lsn → op.data = w.data) :
    JournalInv { c with storage := (DurableState.apply c.storage op).2 } :=
  ⟨⟨h.keyed, h.localKeyed⟩, fun id w hw => (h.resumable id w hw).apply (hop id w hw), h.single,
    h.known⟩

theorem JournalInv.record (h : JournalInv c) (hresumable : w.phase ≠ .committed → w.Resumable c.storage)
    (hsingle : w.phase ≠ .committed → ∀ id v, Unresolved c.journal id v → id = w.operationId)
    (hknown : w.phase ≠ .committed → c.isOpen = true → (c.localWrites.get? w.operationId).isSome) :
    JournalInv { c with journal := c.journal.insert w.operationId w } := by
  refine ⟨h.toKeyed.record, fun id v hv => ?_, fun id v id' v' hv hv' => ?_, fun hopen id v hv => ?_⟩
  · obtain ⟨-, rfl, hphase⟩ | ⟨-, hold⟩ := unresolved_insert.1 hv
    · exact hresumable hphase
    · exact h.resumable id v hold
  · obtain ⟨rfl, rfl, hphase⟩ | ⟨hne, hold⟩ := unresolved_insert.1 hv
    · obtain ⟨rfl, -, -⟩ | ⟨-, hold'⟩ := unresolved_insert.1 hv'
      · rfl
      · exact (hsingle hphase id' v' hold').symm
    · obtain ⟨rfl, -, hphase⟩ | ⟨-, hold'⟩ := unresolved_insert.1 hv'
      · exact hsingle hphase id v hold
      · exact h.single id v id' v' hold hold'
  · obtain ⟨rfl, -, hphase⟩ | ⟨-, hold⟩ := unresolved_insert.1 hv
    · exact hknown hphase hopen
    · exact h.known hopen id v hold

theorem JournalInv.resolve (h : JournalInv c) (hphase : w.phase = .committed) :
    JournalInv { c with journal := c.journal.insert w.operationId w } :=
  h.record (fun hne => absurd hphase hne) (fun hne => absurd hphase hne)
    fun hne => absurd hphase hne

theorem JournalInv.know (h : JournalInv c) (hid : w.operationId = id) :
    JournalInv { c with localWrites := c.localWrites.insert id w } :=
  ⟨h.toKeyed.know hid, h.resumable, h.single, fun hopen id w hw =>
    isSome_insert (h.known hopen id w hw)⟩

theorem JournalInv.forget (h : JournalInv c) {localWrites : AssocMap OperationId DurableLocalWrite}
    (hsub : ∀ id w, localWrites.get? id = some w → c.localWrites.get? id = some w)
    (hkeep : ∀ id w, Unresolved c.journal id w → localWrites.get? id = c.localWrites.get? id) :
    JournalInv { c with localWrites := localWrites } :=
  ⟨h.toKeyed.forget hsub, h.resumable, h.single, fun hopen id w hw =>
    hkeep id w hw ▸ h.known hopen id w hw⟩

end State

/-! ## Commits -/

/-- The journal of the engine is in order. -/
def Journalled (e : Engine σ) : Prop := JournalInv e.localWriteState

section Commits

variable {e e' : Engine σ}

theorem SameWrites.journalled (h : SameWrites e e') (hj : Journalled e) : Journalled e' := by
  unfold Journalled
  rw [show e'.localWriteState = e.localWriteState from h]
  exact hj

theorem Journalled.triple {α : Type} {x : EngineM σ α} (hx : Along SameWrites x)
    {I : LocalWriteState σ → Prop} :
    Triple (fun e => Journalled e ∧ I e.localWriteState) x
      (fun _ e => Journalled e ∧ I e.localWriteState) Journalled := by
  have hsame : ∀ e, Journalled e ∧ I e.localWriteState →
      Journalled (x.run e).2 ∧ I (x.run e).2.localWriteState := fun e h =>
    ⟨SameWrites.journalled (hx e) h.1, show I (x.run e).2.localWriteState from (hx e).symm ▸ h.2⟩
  exact (triple_of_run hsame).error fun _ h => h.1

theorem journalled_commitStorage (lsn : Int) (hj : Journalled e) :
    Journalled ((commitStorage lsn).run e).2 := JournalInv.commit hj lsn

theorem journalled_finalizeReadyCommitLocked (faults : Faults)
    (hj : Journalled e) : Journalled ((finalizeReadyCommitLocked faults).run e).2 := by
  refine run_of_triple (triple_finalizeReadyCommitLocked hj hj (fun lsn => JournalInv.commit hj lsn)
    (fun s _ w hs _ => ?_) (fun _ _ hs => hs) (fun s ids _ hs hresolved => ?_) faults)
  · exact JournalInv.resolve (w := { w with phase := .committed }) hs rfl
  · refine JournalInv.forget (c := s.localWriteState) hs (fun id w hw => ?_) fun id w hw => ?_
    · exact AssocMap.get?_of_eraseAll hw
    · exact AssocMap.get?_eraseAll_of_notMem (fun hid => hw.2 (hresolved id hid w hw.1)) _

end Commits

/-! ## Writes -/

section Writes

variable {e : Engine σ} {write : ClientWrite} {durable : DurableLocalWrite}

/-- The log counts as far as the storage: the write that it has reserved, or else its next one, comes
right behind the stored operations. -/
structure LogMeetsStorage (e : Engine σ) : Prop where
  reserved : ∀ p, e.log.pendingLocalWrite = some p → p.lsn = appliedLsn e.storage + 1
  free : e.log.pendingLocalWrite = none → e.log.nextLsn = appliedLsn e.storage

omit [LawfulDurableState σ] in
theorem LogMeetsStorage.reserveWrite (h : LogMeetsStorage e) {lsn : Int}
    (hok : (e.log.reserveWrite write).1 = .ok lsn) : lsn = appliedLsn e.storage + 1 := by
  unfold ReplicationLog.reserveWrite at hok
  split at hok
  · cases hok
  split_ifs at hok
  split at hok
  · next p hp =>
    split_ifs at hok
    exact Except.ok.inj hok ▸ h.reserved p hp
  · next hnone =>
    rw [← Except.ok.inj hok, h.free hnone]

/-- The journal holds the write as `durable`. -/
def Holds (write : ClientWrite) (durable : DurableLocalWrite) (c : LocalWriteState σ) : Prop :=
  c.isOpen = true ∧ c.journal.get? write.operationId = some durable ∧ durable.data = write.data

/-- An open engine with no other write in its map has no other unresolved write in its journal. -/
theorem JournalInv.only {c : LocalWriteState σ} (h : JournalInv c) (hopen : c.isOpen = true)
    (hnone : (c.localWrites.sortedValues.find? fun p => p.operationId != write.operationId) = none)
    {id : OperationId} {w : DurableLocalWrite} (hw : Unresolved c.journal id w) :
    id = write.operationId := by
  obtain ⟨w', hw'⟩ := Option.isSome_iff_exists.1 (h.known hopen id w hw)
  have hall := List.find?_eq_none.1 hnone w' (AssocMap.mem_sortedValues_of_get? hw')
  rw [← h.localKeyed id w' hw']
  simpa using hall

theorem triple_reserveLocalWrite (hj : Journalled e) (hopen : e.isOpen = true)
    (hnone : (e.localWrites.sortedValues.find? fun p => p.operationId != write.operationId) = none)
    (hnext : e.journal.get? write.operationId = none → LogMeetsStorage e)
    (fault : Option RuntimeError) (recovering : Bool) :
    Triple (· = e) (reserveLocalWrite fault write recovering)
      (fun durable s => Journalled s ∧ Holds write durable s.localWriteState) Journalled := by
  refine checks_observe.bind hj ?_
  rintro e rfl
  cases hexisting : e.journal.get? write.operationId with
  | some existing =>
    refine checks_require.bind hj fun _ hdata => triple_pure ?_
    rintro _ rfl
    exact ⟨hj, hopen, hexisting, hdata⟩
  | none =>
    refine checks_require.bind hj fun _ _ => ?_
    refine Triple.bind (R := fun lsn s => lsn = appliedLsn e.storage + 1 ∧ SameWrites e s) ?_
      fun lsn => ?_
    · refine triple_zoom.post ?_ ?_
      · rintro lsn _ ⟨hok, rfl⟩
        exact ⟨(hnext hexisting).reserveWrite hok, rfl⟩
      · rintro _ rfl
        exact SameWrites.journalled (e := e) rfl hj
    intro s hs
    have hjs := SameWrites.journalled hs.2 hj
    have hjournal : s.journal = e.journal := congrArg LocalWriteState.journal hs.2
    have hstorage : s.storage = e.storage := congrArg LocalWriteState.storage hs.2
    refine post_of_triple ?_
    refine Triple.bind ((triple_recordLocalWrite fault _).error fun _ h => h ▸ hjs) fun _ => ?_
    refine triple_update_bind (I := fun t => Journalled t ∧
      Holds write ⟨write.operationId, lsn, e.log.quorum.committedLsn, write.data, .reserved⟩
        t.localWriteState) ?_ (triple_pure fun _ h => h)
    rintro _ rfl
    -- the map is extended before the journal is read again, so the order does not matter
    have hknow := JournalInv.know (w := ⟨write.operationId, lsn, e.log.quorum.committedLsn,
      write.data, .reserved⟩) hjs rfl
    refine ⟨hknow.record (fun _ => .inr ?_) (fun _ id w hw => ?_) fun _ _ => ?_, ?_,
      AssocMap.get?_insert_self _ _ _, rfl⟩
    · exact hs.1.trans (by rw [← hstorage]; rfl)
    · exact JournalInv.only hj hopen hnone (show Unresolved e.journal id w from hjournal ▸ hw)
    · simp
    · exact (congrArg LocalWriteState.isOpen hs.2).trans hopen

theorem triple_restoreCommitted_journalled (operation : Operation)
    (progress : DurableApplicationProgress) :
    Triple (fun e : Engine σ => Journalled e ∧ Resolved e.journal write.operationId)
      (restoreCommitted operation write.operationId progress) (fun _ => Journalled) Journalled := by
  refine Triple.bind ((Journalled.triple (x := onLog fun log => log.restoreCommittedWrite operation)
    (I := fun c => Resolved c.journal write.operationId) (along_zoom fun _ => rfl))) fun _ => ?_
  refine triple_update_bind (I := Journalled) (fun s hs => ?_) (triple_pure fun _ h => h)
  refine JournalInv.forget (c := s.localWriteState) hs.1 (fun id w hw => ?_) fun id w hw => ?_
  · exact AssocMap.get?_of_erase hw
  · exact AssocMap.get?_erase_of_ne _ fun hid => hw.2 (hs.2 w (hid ▸ hw.1))

theorem triple_applyLocalWrite_journalled (hphase : durable.phase ≠ .committed) (committed : Int) :
    Triple (fun e : Engine σ => Journalled e ∧ Holds write durable e.localWriteState)
      (applyLocalWrite ⟨durable.lsn, committed, write.data⟩)
      (fun _ e => Journalled e ∧ Holds write durable e.localWriteState ∧
        Stored e.storage durable.lsn durable.data) Journalled := by
  refine triple_observe_bind fun e he => ?_
  obtain ⟨hj, hopen, hentry, hdata⟩ := he
  simp only
  split_ifs with hle
  · refine checks_require.bind hj fun _ hverified => triple_pure ?_
    rintro _ rfl
    refine ⟨hj, ⟨hopen, hentry, hdata⟩, ?_⟩
    rw [hdata]
    exact LawfulDurableState.verifyApplied_true _ _ hverified
  · have happly : ∀ s, s = e →
        Journalled ((applyStorage ⟨durable.lsn, committed, write.data⟩).run s).2 := by
      rintro _ rfl
      refine JournalInv.apply hj fun id w hw _ => ?_
      have hid := hj.single id w write.operationId durable hw ⟨hentry, hphase⟩
      have hsame : w = durable := Option.some.inj (hw.1.symm.trans (hid ▸ hentry))
      exact hsame ▸ hdata.symm
    refine checks_require.bind hj fun _ _ => ?_
    refine triple_zoom.post ?_ fun s hs => hs ▸ happly e rfl
    rintro ack _ ⟨hok, rfl⟩
    refine ⟨happly e rfl, ⟨hopen, hentry, hdata⟩, ?_⟩
    obtain ⟨-, happlied, hstored⟩ := LawfulDurableState.apply_ok e.storage _ hok
    rw [hdata]
    exact ⟨happlied.ge, hstored⟩

theorem triple_registerLocalWrite_journalled (hphase : durable.phase ≠ .committed)
    (fault : Option RuntimeError) (operation : Operation) (ack : DurableApplicationProgress) :
    Triple (fun e : Engine σ => Journalled e ∧ Holds write durable e.localWriteState ∧
        Stored e.storage durable.lsn durable.data)
      (registerLocalWrite fault write durable operation ack) (fun _ => Journalled) Journalled := by
  intro e he
  obtain ⟨hj, ⟨hopen, hentry, hdata⟩, hstored⟩ := he
  have hid : durable.operationId = write.operationId := hj.keyed _ _ hentry
  refine post_of_triple ?_
  refine Triple.bind ((triple_recordLocalWrite fault _).error fun _ h => h ▸ hj) fun _ => ?_
  refine triple_update_bind (I := fun s => Journalled s ∧ True) ?_ ?_
  · rintro _ rfl
    have hrecord : JournalInv { e.localWriteState with
        journal := e.journal.insert durable.operationId { durable with phase := .registered } } := by
      refine JournalInv.record (w := { durable with phase := .registered }) hj
        (fun _ => .inl hstored) (fun _ id w hw => ?_) fun _ _ => ?_
      · rw [hj.single id w write.operationId durable hw ⟨hentry, hphase⟩]
        exact hid.symm
      · exact hid ▸ hj.known hopen _ durable ⟨hentry, hphase⟩
    exact ⟨hrecord.know (w := { durable with phase := .registered }) hid, trivial⟩
  · refine Triple.bind (Journalled.triple (I := fun _ => True) ?_) fun _ => ?_
    · unfold restoreReservation
      split_ifs
      · exact along_zoom fun _ => rfl
      · exact stepwise_sameWrites.pure _
    · refine Triple.bind (Journalled.triple (x := onLog fun log =>
        log.ensureLocalWriteRegistered operation) (I := fun _ => True) (along_zoom fun _ => rfl))
        fun _ => triple_pure fun _ h => h.1

theorem triple_completeReservation_journalled (faults : Faults) :
    Triple (fun e : Engine σ => Journalled e ∧ Holds write durable e.localWriteState)
      (completeReservation faults write durable) (fun _ => Journalled) Journalled := by
  refine triple_observe_bind fun e he => ?_
  obtain ⟨hj, hheld⟩ := he
  simp only
  split_ifs with hphase
  · refine checks_ofExcept.bind hj fun _ _ => ?_
    refine Triple.bind ((Journalled.triple (I := fun c => Resolved c.journal write.operationId)
      (sameWrites_verifyLocalWriteProgress durable.lsn)).pre ?_)
      fun _ => (triple_restoreCommitted_journalled _ _).bind fun _ => triple_pure fun _ h => h
    rintro _ rfl
    refine ⟨hj, fun w hw => ?_⟩
    obtain rfl := Option.some.inj (hw.symm.trans hheld.2.1)
    exact hphase
  · refine Triple.bind ((triple_applyLocalWrite_journalled hphase _).pre fun _ h => h ▸ ⟨hj, hheld⟩)
      fun ack => ?_
    have hI := fun (x : EngineM σ Unit) (hx : Along SameWrites x) =>
      Journalled.triple hx (I := fun c => Holds write durable c ∧
        Stored c.storage durable.lsn durable.data)
    refine Triple.bind (hI _ (stepwise_sameWrites.ofExcept _)) fun _ => ?_
    refine Triple.bind (hI _ (sameWrites_verifyLocalWriteProgress _)) fun _ => ?_
    split_ifs with hcommitted
    · refine Triple.bind (R := fun _ s => Journalled s ∧ Resolved s.journal write.operationId) ?_
        fun _ => (triple_restoreCommitted_journalled _ _).bind fun _ => triple_pure fun _ h => h
      rintro s ⟨hjs, ⟨-, hentry, -⟩, -⟩
      refine (triple_recordLocalWrite (faults 1) _ s rfl).mono ?_ fun _ h => h ▸ hjs
      rintro - _ rfl
      have hid : durable.operationId = write.operationId := hjs.keyed _ _ hentry
      exact ⟨JournalInv.resolve hjs rfl, .insert rfl fun hne => absurd hid.symm hne⟩
    · exact (triple_registerLocalWrite_journalled hphase (faults 2) _ ack).bind fun _ =>
        triple_pure fun _ h => h

theorem triple_beginReservation (hj : Journalled e)
    (hnext : e.journal.get? write.operationId = none → LogMeetsStorage e)
    (fault : Option RuntimeError) (recovering : Bool) :
    Triple (· = e) (beginReservation fault write recovering)
      (fun durable s => Journalled s ∧ Holds write durable s.localWriteState) Journalled :=
  triple_beginReservation_of hj fun hopen hnone =>
    triple_reserveLocalWrite hj hopen hnone hnext fault recovering

theorem triple_beginWriteLocked_journalled (hj : Journalled e)
    (hnext : e.journal.get? write.operationId = none → LogMeetsStorage e)
    (faults : Faults) (recovering : Bool) :
    Triple (· = e) (beginWriteLocked faults write recovering) (fun _ => Journalled) Journalled := by
  refine ((triple_beginReservation hj hnext (faults 0) recovering).bind fun _ =>
    triple_completeReservation_journalled faults).bind fun r => ?_
  match r with
  | .inl resolved => exact triple_pure fun _ h => h
  | .inr registered =>
    refine (triple_of_run fun s hs => journalled_finalizeReadyCommitLocked _ hs).bind fun _ => ?_
    exact triple_update_bind (I := Journalled) (fun _ h => h) (triple_pure fun _ h => h)

end Writes

/-! ## Runs -/

/-- No data is lost, the log counts as far as the storage when a new write comes, and the service takes
no other operation at the LSN of an unresolved write. -/
def KeepsResumable (e : Engine σ) : EngineAction σ → Prop
  | .dataLoss .. => False
  | .write _ w _ | .interruptWrite w => e.journal.get? w.operationId = none → LogMeetsStorage e
  | .deliver .service => ∀ entry rest, e.stream = entry :: rest →
      ∀ id w, Unresolved e.journal id w → entry.2.lsn = w.lsn → entry.2.data = w.data
  | _ => True

/-- A step of the functions that are left out, such as a copy from another replica: the storage does
not go back, and as far as it gets it has the operations of the unresolved writes. -/
structure CopyAgrees (e e' : Engine σ) : Prop where
  isOpen : e'.isOpen = true → e.isOpen = true
  journal : e'.journal = e.journal
  localWrites : e'.localWrites = e.localWrites
  forward : appliedLsn e.storage ≤ appliedLsn e'.storage
  stores : ∀ id w, Unresolved e.journal id w → w.lsn ≤ appliedLsn e'.storage →
    operationAt e'.storage w.lsn = some w.data

section Runs

variable {e e' : Engine σ}

theorem CopyAgrees.resumable (h : CopyAgrees e e') {id : OperationId} {w : DurableLocalWrite}
    (hw : Unresolved e.journal id w) (hr : w.Resumable e.storage) : w.Resumable e'.storage := by
  have hle : w.lsn ≤ appliedLsn e.storage + 1 := hr.elim (fun hs => hs.1.trans (by omega)) le_of_eq
  have hforward := h.forward
  rcases le_or_gt w.lsn (appliedLsn e'.storage) with hreached | hnext
  · exact .inl ⟨hreached, h.stores id w hw hreached⟩
  · exact .inr (by omega)

theorem Journalled.restarted (hj : Journalled e) : Journalled e.restarted :=
  ⟨⟨hj.keyed, fun _ _ hw => by cases hw⟩, hj.resumable, hj.single, fun hopen => by cases hopen⟩

theorem Journalled.open (hj : Journalled e) (committed : Int) :
    Journalled ((openReplicator committed).run e).2 := by
  have hR := stepwise_sameWrites (σ := σ)
  have hopen : Triple (fun e => Journalled e ∧ True) (openReplicator committed : EngineM σ Unit)
      (fun _ => Journalled) Journalled := by
    refine Triple.bind (Journalled.triple (I := fun _ => True) ?_) fun _ => triple_update ?_
    · refine hR.bind (hR.reads reads_checkAborted) fun _ => hR.bind hR.observe fun _ => ?_
      exact hR.bind (hR.require _ _) fun _ => along_zoom fun _ => rfl
    · rintro s ⟨hs, -⟩
      refine ⟨⟨hs.keyed, fun id w hw => ?_⟩, hs.resumable, hs.single, fun _ id w hw => ?_⟩
      · have hw' : (s.journal.retain fun _ write => write.phase != .committed).get? id = some w := hw
        rw [AssocMap.get?_retain] at hw'
        exact hs.keyed id w (Option.filter_eq_some_iff.1 hw').1
      · show ((s.journal.retain fun _ write => write.phase != .committed).get? id).isSome
        rw [AssocMap.get?_retain, show s.journal.get? id = some w from hw.1]
        simp [hw.2]
  exact hopen.keeps e ⟨hj, trivial⟩

theorem Journalled.memberAction (hj : Journalled e) {action : MemberAction}
    (hkeeps : KeepsResumable e (.deliver action)) : Journalled (action.run e).2 := by
  have hsame : ∀ {s : Engine σ}, SameWrites e s → Journalled s := fun h => h.journalled hj
  cases action with
  | receive item =>
    refine triple_receiveReplication.holds (I := Journalled) ?_ (fun _ h => h ▸ hj) e rfl
    rintro - _ ⟨-, a, progress, -, ⟨-, rfl⟩ | ⟨-, rfl⟩⟩ <;> exact hsame rfl
  | service =>
    simp only [MemberAction.run, run_serviceApply]
    cases hstream : e.stream with
    | nil => exact hj
    | cons entry rest => exact JournalInv.apply hj (hkeeps entry rest hstream)
  | verify =>
    refine triple_verifyDelivery.holds (I := Journalled) ?_ ?_ e rfl
    · rintro - _ ⟨d, ack, _, -, -, -, ⟨rfl, -⟩ | ⟨rfl, -⟩, rfl⟩
      · exact hsame rfl
      · exact JournalInv.commit hj _
    · rintro _ ⟨_, rfl | ⟨c, rfl⟩, rfl⟩
      · exact hsame rfl
      · exact JournalInv.commit hj _
  | confirm =>
    refine triple_confirmDelivery.holds (I := Journalled) ?_ (fun _ h => hsame (h ▸ rfl)) e rfl
    rintro - _ ⟨d, ack, -, -, -, -, rfl⟩
    exact hsame rfl
  | record =>
    refine triple_recordDelivery.holds (I := Journalled) ?_ ?_ e rfl
    · rintro - _ ⟨d, ack, -, -, rfl⟩
      exact hsame rfl
    · rintro _ (rfl | ⟨d, ack, -, -, rfl⟩) <;> exact hsame rfl
  | publish =>
    refine triple_publishDelivery.holds (I := Journalled) ?_ ?_ e rfl
    · rintro - _ ⟨d, ack, -, -, -, rfl⟩
      exact hsame rfl
    · rintro _ (rfl | ⟨d, ack, -, -, rfl⟩) <;> exact hsame rfl
  | cancel => exact hsame rfl

theorem Journalled.serve (hj : Journalled e) {action : PrimaryAction}
    (hw : action.isWrite = false) : Journalled (action.run e).2 :=
  action.run_keeps hw (fun _ _ => hj) (fun _ _ _ _ => hj)
    fun faults => journalled_finalizeReadyCommitLocked faults hj

theorem Journalled.settle (hj : Journalled e) : Journalled (settlePrimaryPrefix.run e).2 := by
  refine run_of_triple ?_
  refine checks_lockDelivery.bind hj fun _ _ => checks_checkAborted.bind hj fun _ _ => ?_
  refine checks_observe.bind hj ?_
  rintro e rfl
  refine checks_require.bind hj fun _ _ => checks_ofExcept.bind hj fun _ _ => ?_
  refine checks_require.bind hj fun _ _ => ?_
  refine (triple_of_run fun s hs => journalled_commitStorage _ (hs ▸ hj)).bind fun _ => ?_
  refine Triple.bind (R := fun _ => Journalled) (triple_of_run fun s hs => ?_) fun _ =>
    triple_update fun _ h => h
  exact SameWrites.journalled (stepwise_sameWrites.require _ _ s) hs

theorem Journalled.run (hj : Journalled e) {action : EngineAction σ}
    (hkeeps : KeepsResumable e action) : Journalled (action.run e) := by
  have hdata : ∀ {s : Engine σ} {d : EngineData σ}, s.data = d →
      (⟨d.isOpen, d.storage, d.journal, d.localWrites⟩ : LocalWriteState σ) = e.localWriteState →
      Journalled s := fun h hd => SameWrites.journalled ((congrArg (fun d : EngineData σ =>
        (⟨d.isOpen, d.storage, d.journal, d.localWrites⟩ : LocalWriteState σ)) h).trans hd) hj
  cases action with
  | deliver action => exact hj.memberAction hkeeps
  | write faults w recovering =>
    have hlocked := triple_beginWriteLocked_journalled hj hkeeps faults recovering
    exact localWrite_keeps hj hlocked
  | interruptWrite w =>
    exact ((triple_beginReservation hj hkeeps none false).holds (fun _ _ h => h.1) (fun _ h => h) e
      rfl : Journalled _).restarted
  | dataLoss storage progress => exact hkeeps.elim
  | restart => exact hj.restarted
  | openReplicator committed => exact hj.open committed
  | settlePrefix => exact hj.settle
  | serve action =>
    simp only [EngineAction.run]
    split_ifs with hw
    · exact hj
    · exact hj.serve (Bool.not_eq_true _ ▸ hw)
  | changeRole epoch role => exact hdata (quiet_controlChangeRole epoch role e).data rfl
  | updateEpoch epoch => exact hdata (quiet_controlUpdateEpoch epoch e).data rfl
  | setAccess read w => exact hdata (quiet_setAccess read w e).data rfl
  | admitAuthority c => exact hdata (sameData_admitDurably c e).data rfl
  | prepare c hostGeneration =>
    refine (triple_prepared c hostGeneration false).holds (I := Journalled) ?_ (fun _ h => h ▸ hj) e rfl
    rintro - s ⟨-, p, -, -, -, h⟩
    exact hdata h rfl
  | commit p =>
    refine (triple_installed p).holds (I := Journalled) ?_ (fun _ h => hdata h.1 rfl) e rfl
    rintro - s ⟨q, -, -, h⟩
    exact hdata h rfl
  | cancelWork =>
    obtain hsame | ⟨-, h⟩ := run_cancelConfigurationWork e
    · simp only [EngineAction.run, hsame]
      exact hj
    · exact hdata h rfl
  | dropPreparation p =>
    obtain hsame | ⟨q, -, h⟩ := dropPreparation_cases e p
    · simp only [EngineAction.run, hsame]
      exact hj
    · exact hdata h rfl
  | authorizePrefix safeLsn =>
    refine (triple_authorized safeLsn).holds (I := Journalled) ?_ (fun _ h => h ▸ hj) e rfl
    rintro - _ ⟨r, v, -, -, -, rfl⟩
    exact SameWrites.journalled (e := e) rfl hj
  | restore removal hostGeneration =>
    obtain hsame | ⟨t, ⟨-, p, -, -, -, ht⟩, hsame | ⟨q, -, -, hinstalled⟩⟩ :=
      run_restoreAuthority e removal hostGeneration
    · exact hdata hsame.data rfl
    · exact hdata (hsame.trans ht) rfl
    · rw [ht] at hinstalled
      exact hdata hinstalled rfl

theorem Journalled.step (hs : Engine.Step KeepsResumable CopyAgrees e e') (hj : Journalled e) :
    Journalled e' := by
  cases hs with
  | act action hkeeps => exact hj.run hkeeps
  | elsewhere h =>
    have hunresolved : ∀ {id w}, Unresolved e'.journal id w → Unresolved e.journal id w := by
      rw [h.journal]
      exact fun h => h
    refine ⟨⟨?_, ?_⟩, fun id w hw => ?_, fun id w id' w' hw hw' => ?_, fun ho id w hw => ?_⟩
    · rw [show e'.localWriteState.journal = e.journal from h.journal]
      exact hj.keyed
    · rw [show e'.localWriteState.localWrites = e.localWrites from h.localWrites]
      exact hj.localKeyed
    · exact h.resumable (hunresolved hw) (hj.resumable id w (hunresolved hw))
    · exact hj.single id w id' w' (hunresolved hw) (hunresolved hw')
    · rw [show e'.localWriteState.localWrites = e.localWrites from h.localWrites]
      exact hj.known (h.isOpen ho) id w (hunresolved hw)

theorem journalled_of_run {identity : ReplicaIdentity} {storage : σ}
    (hrun : Engine.Run KeepsResumable CopyAgrees (Engine.new identity storage) e) : Journalled e := by
  induction hrun with
  | refl =>
    exact ⟨⟨(fun _ _ hw => by cases hw), fun _ _ hw => by cases hw⟩, (fun _ _ hw => by cases hw.1),
      (fun _ _ _ _ hw => by cases hw.1), fun hopen => by cases hopen⟩
  | tail _ hs ih => exact ih.step hs

end Runs

/-! ## A write that another primary overwrites -/

namespace TwoReplicas

/-- The first replica, as it admits a configuration of both. -/
def configured (id : ConfigurationId) (number : Nat) (primary secondary : ReplicaIdentity) :
    ManagedReplicaConfiguration :=
  { authority primaryIdentity with
    currentConfiguration := ⟨id, ⟨0, number⟩, primary.replicaId,
      [⟨primary, .primary⟩, ⟨secondary, .activeSecondary⟩], 2⟩ }

def installs (a : ManagedReplicaConfiguration) (generation : Nat) (role : ReplicaRole) :
    List (EngineAction LogStorage) :=
  [.prepare a 0, .admitAuthority a, .commit ⟨a, generation, 0⟩, .changeRole a.epoch role,
    .updateEpoch a.epoch]

def interruptedWrite : ClientWrite := ⟨"w", [7]⟩

/-- The replica is the primary and stops when its first write is journalled. -/
def interrupted : List (EngineAction LogStorage) :=
  .openReplicator 0 :: installs (configured "c" 1 primaryIdentity secondaryIdentity) 1 .primary ++
    [.settlePrefix, .setAccess .granted .granted, .interruptWrite interruptedWrite]

/-- The new process follows the other replica and receives its first operation. -/
def followed : List (EngineAction LogStorage) :=
  [.openReplicator 0, .restore ⟨none, none⟩ 0] ++
    installs (configured "d" 2 secondaryIdentity primaryIdentity) 2 .activeSecondary ++
    [.deliver (.receive ⟨secondaryIdentity, primaryIdentity, ⟨0, 2⟩, none, "d", 1, 0, [8]⟩),
      .deliver .service, .deliver .confirm, .deliver .record, .deliver .publish]

/-- The replica is elected again. -/
def reelected : Engine LogStorage :=
  EngineAction.runAll (.new primaryIdentity ⟨[], 0⟩) (interrupted ++ followed ++
    installs (configured "e" 3 primaryIdentity secondaryIdentity) 6 .primary)

/-- The write of the journal that the run leaves. -/
def reservedWrite : DurableLocalWrite := ⟨"w", 1, 0, [7], .reserved⟩

end TwoReplicas

end Kuberic
