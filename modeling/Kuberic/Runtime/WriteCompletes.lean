import Kuberic.Replicator.Completions
import Kuberic.Replicator.Registration
import Kuberic.Runtime.Frame

/-!
# Writes that are not stopped

A local write is reserved, applied, verified and registered, and what is then ready is committed.
Each of these steps can fail, and a failure after the write is verified leaves a verified LSN that is
never published.  `WriteCompletes` is a condition on the faults of the journal and on the engine before
the write under which it fails, if at all, before it is verified.
-/

namespace Kuberic

open Effect DurableState

variable {σ : Type} [DurableState σ]

/-- The log takes the write at this LSN. -/
structure LogTakes (log : ReplicationLog) (write : ClientWrite) (lsn : Int) : Prop where
  isOpen : log.isOpen = true
  role : log.role = .primary
  epoch : log.authority.map (·.currentConfiguration.epoch) = some log.epoch
  reservation : ∀ p, log.pendingLocalWrite = some p → p = ⟨write.operationId, lsn, write.data⟩

/-- Nothing stops the write once it is verified: the journal has no fault after the reservation, the
storage commits what it has applied, and the log takes back a write that the journal holds. -/
structure WriteCompletes (e : Engine σ) (faults : Faults) (write : ClientWrite) :
    Prop where
  journal : ∀ i, faults (i + 1) = none
  commits : ∀ s, (s = e.storage ∨ ∃ op, s = (apply e.storage op).2) → ∀ c ≤ appliedLsn s,
    ∃ progress, (commit s c).1 = .ok progress
  pending : ∀ l ∈ e.log.quorum.pending.keys, l ≤ appliedLsn e.storage
  log : ∀ d, e.journal.get? write.operationId = some d → LogTakes e.log write d.lsn

section Completes

variable {e : Engine σ} {w : ClientWrite} {faults : Faults}

/-- The write has its LSN in the log of a write that started in `e`. -/
structure Taken (e : Engine σ) (w : ClientWrite) (lsn : Int) (s : Engine σ) : Prop where
  takes : LogTakes s.log w lsn
  authority : s.log.quorum.authority = s.log.authority
  pending : s.log.quorum.pending = e.log.quorum.pending

/-- Nothing is verified yet. -/
structure Unverified (e : Engine σ) (w : ClientWrite) (lsn : Int) (storage : σ) (s : Engine σ) : Prop
    extends Taken e w lsn s where
  progress : s.replicationProgress = e.replicationProgress
  storage : s.storage = storage

/-- What is ready can be committed. -/
structure Committable (s : Engine σ) : Prop where
  pending : ∀ l ∈ s.log.quorum.pending.keys, l ≤ appliedLsn s.storage
  committed : committedLsn s.storage ≤ appliedLsn s.storage
  commits : ∀ c ≤ appliedLsn s.storage, ∃ progress, (commit s.storage c).1 = .ok progress

variable {log : ReplicationLog}

omit [DurableState σ] in
theorem LogTakes.of_reserveWrite {lsn : Int} (hok : (log.reserveWrite w).1 = .ok lsn) :
    LogTakes (log.reserveWrite w).2 w lsn ∧
      (log.reserveWrite w).2.quorum = log.quorum ∧
      (log.reserveWrite w).2.authority = log.authority := by
  unfold ReplicationLog.reserveWrite at hok ⊢
  split at hok
  · cases hok
  next a ha =>
    split_ifs at hok ⊢ with hopen hepoch hrole hprimary
    have hserves : log.isOpen = true ∧ log.role = .primary ∧
        log.authority.map (·.currentConfiguration.epoch) = some log.epoch := by
      simp_all
    split at hok
    next p hp =>
      split_ifs at hok with hsame
      obtain rfl := Except.ok.inj hok
      rw [if_pos hsame]
      refine ⟨⟨hserves.1, hserves.2.1, hserves.2.2, fun q hq => ?_⟩, rfl, rfl⟩
      obtain rfl := Option.some.inj (hp.symm.trans hq)
      rw [← hsame.1, ← hsame.2]
    next hp =>
      obtain rfl := Except.ok.inj hok
      refine ⟨⟨hserves.1, hserves.2.1, hserves.2.2, fun q hq => ?_⟩, rfl, rfl⟩
      exact (Option.some.inj hq).symm

theorem triple_beginReservation_unverified (h : WriteCompletes e faults w)
    (hlog : e.log.quorum.authority = e.log.authority) (recovering : Bool) :
    Triple (· = e) (beginReservation (faults 0) w recovering)
      (fun d => Unverified e w d.lsn e.storage)
      (fun s => s.replicationProgress = e.replicationProgress) := by
  refine triple_beginReservation_of rfl fun _ _ => checks_observe.bind rfl ?_
  rintro e rfl
  match hjournal : e.journal.get? w.operationId with
  | some existing =>
    refine checks_require.bind rfl fun _ _ => triple_pure ?_
    rintro _ rfl
    exact ⟨⟨h.log existing hjournal, hlog, rfl⟩, rfl, rfl⟩
  | none =>
    refine checks_require.bind rfl fun _ _ => ?_
    refine Triple.bind (R := fun lsn => Unverified e w lsn e.storage) ?_ fun lsn => ?_
    · refine triple_zoom.post ?_ fun _ hs => hs ▸ rfl
      rintro lsn _ ⟨hok, rfl⟩
      obtain ⟨htakes, hquorum, hauthority⟩ := LogTakes.of_reserveWrite hok
      refine ⟨⟨htakes, ?_, congrArg QuorumTracker.pending hquorum⟩, rfl, rfl⟩
      exact (congrArg QuorumTracker.authority hquorum).trans (hlog.trans hauthority.symm)
    refine Triple.bind (R := fun _ => Unverified e w lsn e.storage) ?_ fun _ => ?_
    · intro s hs
      cases faults 0 with
      | none => exact ⟨⟨hs.takes, hs.authority, hs.pending⟩, hs.progress, hs.storage⟩
      | some error => exact hs.progress
    · refine triple_update_bind (I := Unverified e w lsn e.storage) (fun s hs => ?_)
        (triple_pure fun _ h => h)
      exact ⟨⟨hs.takes, hs.authority, hs.pending⟩, hs.progress, hs.storage⟩

variable {operation : Operation}

omit [DurableState σ] in
theorem LogTakes.not_conflicts (h : LogTakes log w operation.lsn) (hdata : operation.data = w.data) :
    ¬ log.conflictsWithReservation operation = true := by
  unfold ReplicationLog.conflictsWithReservation
  cases hp : log.pendingLocalWrite with
  | none => simp
  | some p => simp [h.reservation p hp, hdata]

omit [DurableState σ] in
theorem LogTakes.restoreCommittedWrite (h : LogTakes log w operation.lsn)
    (hdata : operation.data = w.data) (hq : log.quorum.authority = log.authority) :
    ∃ log', log.restoreCommittedWrite operation = (.ok (), log') := by
  obtain ⟨a, ha, -⟩ := Option.map_eq_some_iff.1 h.epoch
  rw [ha] at hq
  simp only [ReplicationLog.restoreCommittedWrite, if_neg (h.not_conflicts hdata),
    QuorumTracker.recordLocalProgress, hq]
  exact ⟨_, rfl⟩

omit [DurableState σ] in
theorem LogTakes.restoreWriteReservation {lsn : Int} (h : LogTakes log w lsn) :
    ∃ log', log.restoreWriteReservation w lsn = (.ok (), log') ∧
      LogTakes log' w lsn ∧ log'.quorum = log.quorum ∧ log'.authority = log.authority := by
  unfold ReplicationLog.restoreWriteReservation
  cases hp : log.pendingLocalWrite with
  | none =>
    refine ⟨_, rfl, ⟨h.isOpen, h.role, h.epoch, fun q hq => ?_⟩, rfl, rfl⟩
    exact (Option.some.inj hq).symm
  | some p =>
    obtain rfl := h.reservation p hp
    exact ⟨log, if_pos ⟨rfl, rfl, rfl⟩, h, rfl, rfl⟩

omit [DurableState σ] in
theorem LogTakes.ensureLocalWriteRegistered (h : LogTakes log w operation.lsn)
    (hdata : operation.data = w.data) (hq : log.quorum.authority = log.authority) :
    ∃ prepared log' a, log.ensureLocalWriteRegistered operation = (.ok prepared, log') ∧
      Registration log log' operation prepared a := by
  refine (ensureLocalWriteRegistered_cases log operation hq).resolve_left ?_
  rintro ⟨error, herror⟩
  obtain ⟨a, ha, -⟩ := Option.map_eq_some_iff.1 h.epoch
  have hepoch := h.epoch
  rw [ha] at hq hepoch
  have hserves : ¬ (!log.isOpen ∨ log.role ≠ .primary) := by simp [h.isOpen, h.role]
  simp only [ReplicationLog.ensureLocalWriteRegistered, if_neg hserves, ha, if_neg (not_not.2 hepoch),
    if_neg (h.not_conflicts hdata), QuorumTracker.recordLocalProgress, hq,
    ReplicationLog.completionFor, QuorumTracker.registerWrite, QuorumTracker.raiseProgress,
    ReplicationLog.replicationItems] at herror
  split_ifs at herror <;> simp at herror

omit [DurableState σ] in
theorem triple_verifyLocalWriteProgress_taken {lsn : Int} {storage : σ} :
    Triple (Unverified e w lsn storage) (verifyLocalWriteProgress lsn : EngineM σ Unit)
      (fun _ s => Taken e w lsn s ∧ s.storage = storage)
      (fun s => s.replicationProgress = e.replicationProgress) := by
  refine triple_observe_bind fun s h => checks_demand.bind h.progress fun progress _ => ?_
  split_ifs
  · refine (triple_recordReplicationProgress.error fun _ hs => hs ▸ h.progress).bind fun _ =>
      triple_update ?_
    rintro _ rfl
    refine ⟨⟨⟨h.takes.isOpen, h.takes.role, h.takes.epoch, h.takes.reservation⟩, ?_, ?_⟩, h.storage⟩
    · exact (QuorumTracker.recordVerifiedLocalProgress_keeps _ lsn).1.trans h.authority
    · refine Eq.trans ?_ h.pending
      show (s.log.quorum.recordVerifiedLocalProgress lsn).pending = _
      unfold QuorumTracker.recordVerifiedLocalProgress
      split <;> rfl
  · exact triple_pure fun _ hs => hs ▸ ⟨h.toTaken, h.storage⟩

omit [DurableState σ] in
theorem triple_restoreCommitted_ok {progress : DurableApplicationProgress}
    (hdata : operation.data = w.data) :
    Triple (Taken e w operation.lsn) (restoreCommitted operation w.operationId progress)
      (fun _ (_ : Engine σ) => True) (fun _ => False) := by
  refine Triple.bind (R := fun _ _ => True) (triple_zoom_ok fun s hs => ?_) fun _ => ?_
  · obtain ⟨log', hok⟩ := hs.takes.restoreCommittedWrite hdata hs.authority
    exact ⟨(), log', hok, trivial⟩
  · exact triple_update_bind (I := fun _ => True) (fun _ _ => trivial) (triple_pure fun _ h => h)

omit [DurableState σ] in
theorem triple_registerLocalWrite_ok {durable : DurableLocalWrite}
    {ack : DurableApplicationProgress} {storage : σ} (hlsn : operation.lsn = durable.lsn)
    (hdata : operation.data = w.data) :
    Triple (fun s => Taken e w durable.lsn s ∧ s.storage = storage)
      (registerLocalWrite none w durable operation ack)
      (fun _ s => s.storage = storage ∧ ∀ l ∈ s.log.quorum.pending.keys,
        l = operation.lsn ∨ l ∈ e.log.quorum.pending.keys) (fun _ => False) := by
  refine Triple.bind (R := fun _ s => Taken e w durable.lsn s ∧ s.storage = storage)
    (fun s hs => ⟨⟨hs.1.takes, hs.1.authority, hs.1.pending⟩, hs.2⟩) fun _ => ?_
  refine triple_update_bind (I := fun s => Taken e w durable.lsn s ∧ s.storage = storage)
    (fun s hs => ⟨⟨hs.1.takes, hs.1.authority, hs.1.pending⟩, hs.2⟩) ?_
  refine Triple.bind (R := fun _ s => Taken e w durable.lsn s ∧ s.storage = storage) ?_ fun _ => ?_
  · unfold restoreReservation
    split_ifs
    · refine triple_zoom_ok fun s ⟨hs, hstorage⟩ => ?_
      obtain ⟨log', hok, htakes, hquorum, hauthority⟩ := hs.takes.restoreWriteReservation
      have hpending := (congrArg QuorumTracker.pending hquorum).trans hs.pending
      refine ⟨(), log', hok, ⟨htakes, ?_, hpending⟩, hstorage⟩
      exact (congrArg QuorumTracker.authority hquorum).trans (hs.authority.trans hauthority.symm)
    · exact triple_pure fun _ h => h
  refine Triple.bind (R := fun _ s => s.storage = storage ∧ ∀ l ∈ s.log.quorum.pending.keys,
    l = operation.lsn ∨ l ∈ e.log.quorum.pending.keys) ?_ fun _ => triple_pure fun _ h => h
  refine triple_zoom_ok fun s ⟨hs, hstorage⟩ => ?_
  rw [← hlsn] at hs
  obtain ⟨prepared, log', a, hok, hreg⟩ :=
    hs.takes.ensureLocalWriteRegistered hdata hs.authority
  refine ⟨prepared, log', hok, hstorage, fun l (hl : l ∈ log'.quorum.pending.keys) => ?_⟩
  rw [← hs.pending]
  rcases hreg.channels with ⟨-, hpending, -⟩ | ⟨-, hpending, -⟩
  · exact .inr (hpending ▸ hl)
  · rw [hpending, AssocMap.mem_keys_iff, AssocMap.get?_upsert] at hl
    split_ifs at hl with heq
    · exact .inl heq
    · exact .inr ((AssocMap.mem_keys_iff _ _).2 hl)

omit [DurableState σ] in
theorem triple_recordLocalWrites_ok (log : ReplicationLog) (writes : List DurableLocalWrite) :
    ∀ {faults : Faults}, (∀ i, faults i = none) →
      Triple (fun s => s.log = log) (recordLocalWrites faults writes : EngineM σ Unit)
        (fun _ s => s.log = log) (fun _ => False) := by
  induction writes with
  | nil => exact fun _ => triple_pure fun _ h => h
  | cons write rest ih =>
    refine fun {faults} hfaults => Triple.bind (R := fun _ s => s.log = log) ?_ fun _ =>
      ih fun i => hfaults (i + 1)
    rw [recordLocalWrite, hfaults 0]
    exact fun _ hs => hs

variable [LawfulDurableState σ]

theorem Committable.triple_finalize (hfaults : ∀ i, faults i = none) :
    Triple Committable (finalizeReadyCommitLocked faults : EngineM σ Unit) (fun _ _ => True)
      (fun _ => False) := by
  refine triple_observe_bind fun e he => ?_
  match hready : e.log.quorum.readyCommitLsn with
  | none => exact triple_pure fun _ _ => trivial
  | some ready =>
    have hle : ready ≤ appliedLsn e.storage := by
      obtain ⟨a, -, hmax⟩ := Option.bind_eq_some_iff.1 hready
      exact he.pending ready (List.mem_filter.1 (List.max?_mem hmax)).1
    obtain ⟨progress, hok⟩ := he.commits ready hle
    obtain ⟨hprogress, hcommitted⟩ := LawfulDurableState.commit_ok e.storage ready hok
    have happlied := (LawfulDurableState.commit_keeps e.storage ready).1
    have hsound : ready ≤ progress.committedLsn ∧ progress.committedLsn ≤ progress.appliedLsn := by
      have hbase := he.committed
      rw [hprogress]
      unfold appliedLsn committedLsn at *
      omega
    refine Triple.bind (R := fun p s => p = progress ∧ s.log = e.log) (triple_zoom_ok ?_) fun p => ?_
    · rintro _ rfl
      exact ⟨progress, _, Prod.ext hok rfl, rfl, rfl⟩
    refine Triple.bind (R := fun _ s => s.log = e.log) ?_ fun _ => ?_
    · rintro s ⟨rfl, hlog⟩
      rw [Effect.require, if_pos hsound]
      exact hlog
    refine triple_observe_bind fun e₁ he₁ => ?_
    refine Triple.bind ((triple_recordLocalWrites_ok e.log _ hfaults).pre (fun _ h => h ▸ he₁)) fun _ => ?_
    refine Triple.bind (R := fun _ _ => True) (triple_zoom_ok fun s hs => ?_) fun _ =>
      triple_update fun _ _ => trivial
    refine ⟨(), (s.log.finalizeCommit ready).2, Prod.ext ?_ rfl, trivial⟩
    simp [hs, ReplicationLog.finalizeCommit, QuorumTracker.finalizeCommit, hready]

theorem triple_applyLocalWrite_unverified {lsn : Int} (operation : Operation) :
    Triple (Unverified e w lsn e.storage) (applyLocalWrite operation)
      (fun ack s => Unverified e w lsn s.storage s ∧ ack = durableProgress s.storage ∧
        (s.storage = e.storage ∨ ∃ op, s.storage = (apply e.storage op).2))
      (fun s => s.replicationProgress = e.replicationProgress) := by
  refine triple_observe_bind fun s hs => ?_
  simp only
  split_ifs
  · refine checks_require.bind hs.progress fun _ _ => triple_pure ?_
    rintro _ rfl
    exact ⟨⟨hs.toTaken, hs.progress, rfl⟩, rfl, .inl hs.storage⟩
  · refine checks_require.bind hs.progress fun _ _ => triple_zoom.post ?_ ?_
    · rintro ack _ ⟨hok, rfl⟩
      refine ⟨⟨⟨hs.takes, hs.authority, hs.pending⟩, hs.progress, rfl⟩, ?_, .inr ⟨operation, ?_⟩⟩
      · exact (LawfulDurableState.apply_ok s.storage operation hok).1
      · show (apply s.storage operation).2 = _
        rw [hs.storage]
    · rintro _ rfl
      exact hs.progress

/-- Once the write has its LSN, it fails only before it is verified. -/
theorem triple_completeReservation_ok (h : WriteCompletes e faults w) (durable : DurableLocalWrite) :
    Triple (Unverified e w durable.lsn e.storage) (completeReservation faults w durable)
      (fun r s => ∀ registered, r = .inr registered → Committable s)
      (fun s => s.replicationProgress = e.replicationProgress) := by
  have hrestore : ∀ progress : DurableApplicationProgress,
      Triple (fun s => Taken e w durable.lsn s)
        (restoreCommitted ⟨durable.lsn, durable.committedLsn, w.data⟩ w.operationId progress)
        (fun _ (_ : Engine σ) => True) (fun s => s.replicationProgress = e.replicationProgress) :=
    fun progress => (triple_restoreCommitted_ok rfl).weaken (fun _ h => h) (fun _ _ h => h)
      fun _ h => h.elim
  refine triple_observe_bind fun s hs => ?_
  simp only
  split_ifs
  · refine checks_ofExcept.bind hs.progress fun _ _ => ?_
    refine Triple.bind (triple_verifyLocalWriteProgress_taken.weaken (fun _ h => h ▸ hs)
      (fun _ _ h => h.1) fun _ h => h) fun _ => (hrestore _).bind fun _ => triple_pure ?_
    rintro _ - _ ⟨⟩
  · refine (triple_applyLocalWrite_unverified _).pre (fun _ h => h ▸ hs) |>.bind fun ack => ?_
    rintro s₁ ⟨hs₁, hack, hgrown⟩
    refine post_of_triple ?_
    refine checks_ofExcept.bind hs₁.progress fun _ hvalid => ?_
    have hack₁ : ack.appliedLsn = max durable.lsn (appliedLsn e.storage) ∧
        ack.committedLsn ≤ ack.appliedLsn := by
      unfold validateDurableAck at hvalid
      split_ifs at hvalid with hbad
      rw [hs.storage] at hbad
      exact ⟨by simp only [appliedLsn]; omega, by omega⟩
    refine Triple.bind (R := fun _ s => Taken e w durable.lsn s ∧ s.storage = s₁.storage)
      (triple_verifyLocalWriteProgress_taken.pre ?_) fun _ => ?_
    · rintro _ rfl
      exact hs₁
    split_ifs
    · refine Triple.bind (R := fun _ s => Taken e w durable.lsn s) ?_ fun _ =>
        (hrestore _).bind fun _ => triple_pure ?_
      · rw [recordLocalWrite, h.journal 0]
        exact fun s hs => ⟨hs.1.takes, hs.1.authority, hs.1.pending⟩
      · rintro _ - _ ⟨⟩
    · rw [h.journal 1]
      refine Triple.bind ((triple_registerLocalWrite_ok rfl rfl).error fun _ h => h.elim)
        fun registered => triple_pure ?_
      rintro s₂ ⟨hstorage, hpending⟩ _ -
      refine ⟨fun l hl => ?_, ?_, fun c hc => ?_⟩
      · have hle : ack.appliedLsn = appliedLsn s₂.storage := by rw [hack, hstorage, appliedLsn]
        rw [← hle, hack₁.1]
        rcases hpending l hl with rfl | hl
        · exact le_max_left _ _
        · exact (h.pending l hl).trans (le_max_right _ _)
      · rw [hstorage, committedLsn, appliedLsn, ← hack]
        exact hack₁.2
      · rw [hstorage] at hc ⊢
        exact h.commits _ hgrown c hc

theorem triple_beginWriteLocked_unverified (h : WriteCompletes e faults w)
    (hlog : e.log.quorum.authority = e.log.authority) (recovering : Bool) :
    Triple (· = e) (beginWriteLocked faults w recovering) (fun _ _ => True)
      (fun s => s.replicationProgress = e.replicationProgress) := by
  unfold beginWriteLocked
  refine ((triple_beginReservation_unverified h hlog recovering).bind
    (triple_completeReservation_ok h)).bind fun r => ?_
  cases r with
  | inl resolved => exact triple_pure fun _ _ => trivial
  | inr registered =>
    refine Triple.bind ((Committable.triple_finalize fun i => h.journal (i + 2)).weaken
      (fun _ hs => hs registered rfl) (fun _ _ h => h) fun _ h => h.elim) fun _ => ?_
    exact triple_update_bind (I := fun _ => True) (fun _ _ => trivial) (triple_pure fun _ h => h)

end Completes

end Kuberic
