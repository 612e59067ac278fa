import Mathlib.Data.List.Induction
import Kuberic.Replicator.Registration

/-!
# Write completions are resolved once and never rebound

A run of the replication log is a list of operations.  `LogRun.registered` collects the completions
that `ensureLocalWriteRegistered` has handed out, each with its LSN and the authority under which it
was registered.  `HistoryInv` relates them to the channels: a completion that has not been resolved
waits at its own LSN, under the authority in force, which is the one it was registered under.
-/

namespace Kuberic

open QuorumTracker

/-! ## What the tracker keeps -/

namespace QuorumTracker

variable (t : QuorumTracker)

theorem acknowledge_keeps (ack : ReplicationAck) : (t.acknowledge ack).2.authority = t.authority ∧
    (t.acknowledge ack).2.committedLsn = t.committedLsn := by
  unfold acknowledge
  split
  · exact ⟨rfl, rfl⟩
  · split <;> exact ⟨rfl, rfl⟩

theorem recordLocalProgress_keeps (lsn : Int) :
    (t.recordLocalProgress lsn).2.authority = t.authority ∧
      (t.recordLocalProgress lsn).2.committedLsn = t.committedLsn := by
  unfold recordLocalProgress
  split <;> exact ⟨rfl, rfl⟩

theorem recordVerifiedLocalProgress_keeps (lsn : Int) :
    (t.recordVerifiedLocalProgress lsn).authority = t.authority ∧
      (t.recordVerifiedLocalProgress lsn).committedLsn = t.committedLsn := by
  unfold recordVerifiedLocalProgress
  split <;> exact ⟨rfl, rfl⟩

theorem registerPeerSession_keeps (identity : ReplicaIdentity) (session : ProcessSessionId) :
    (t.registerPeerSession identity session).2.authority = t.authority ∧
      (t.registerPeerSession identity session).2.committedLsn = t.committedLsn := by
  unfold registerPeerSession
  split
  · exact ⟨rfl, rfl⟩
  · split_ifs <;> exact ⟨rfl, rfl⟩

theorem supersede_committedLsn (a : ManagedReplicaConfiguration) :
    (t.supersede a).committedLsn = t.committedLsn := by
  simp only [supersede]
  split_ifs <;> rfl

end QuorumTracker

/-! ## Runs -/

/-- A completion that has been handed out. -/
structure Registered where
  completion : CompletionId
  lsn : Int
  authority : ManagedReplicaConfiguration

/-- The completions that an operation hands out. -/
def LogOp.registered (log : ReplicationLog) : LogOp → List Registered
  | .ensureLocalWriteRegistered operation =>
    match (log.ensureLocalWriteRegistered operation).1, log.authority with
    | .ok prepared, some a => [⟨prepared.completion, prepared.lsn, a⟩]
    | _, _ => []
  | _ => []

structure LogRun where
  log : ReplicationLog
  registered : List Registered

namespace LogRun

def step (r : LogRun) (op : LogOp) : LogRun := ⟨op.apply r.log, r.registered ++ op.registered r.log⟩

/-- The run of the operations `ops` on the log of a fresh engine. -/
def run (localIdentity : ReplicaIdentity) (ops : List LogOp) : LogRun :=
  ops.foldl step ⟨.new localIdentity, []⟩

/-- What has been sent on the completions. -/
def sent (r : LogRun) : List (CompletionId × Result Int) := r.log.quorum.channels.sent

end LogRun

/-! ## The history invariant -/

structure HistoryInv (r : LogRun) : Prop where
  channels : ChannelInv r.log.quorum
  authority : r.log.quorum.authority = r.log.authority
  waiting : ∀ {id lsn}, id ∈ r.log.quorum.waitingAt lsn → ∃ a, r.log.authority = some a ∧
    a.currentConfiguration.epoch = r.log.epoch ∧ r.log.role = .primary ∧
    ⟨id, lsn, a⟩ ∈ r.registered
  registered : ∀ {c}, c ∈ r.registered →
    c.completion ∈ r.log.quorum.sentIds ∨ c.completion ∈ r.log.quorum.waitingAt c.lsn
  created : ∀ {c}, c ∈ r.registered → c.completion < r.log.quorum.channels.created
  nodup : (r.registered.map (·.completion)).Nodup
  sentOk : ∀ {id lsn}, (id, .ok lsn) ∈ r.sent → ∃ c ∈ r.registered, c.completion = id ∧ c.lsn = lsn

theorem historyInv_new (localIdentity : ReplicaIdentity) :
    HistoryInv ⟨.new localIdentity, []⟩ where
  channels := channelInv_empty
  authority := rfl
  waiting h := absurd h List.not_mem_nil
  registered h := absurd h List.not_mem_nil
  created h := absurd h List.not_mem_nil
  nodup := List.nodup_nil
  sentOk h := absurd h List.not_mem_nil

/-! ## What an operation keeps -/

variable {op : LogOp} {id : CompletionId}

namespace LogOp

variable {log : ReplicationLog}

/-- The operation makes `c` the committed LSN: `c` is ready to commit in both configurations of the
authority in force, or is restored as already committed, or is what a data-loss reset starts from. -/
def Establishes (log : ReplicationLog) (op : LogOp) (c : Int) : Prop :=
  (op = .finalizeCommit c ∧ ∃ a, log.authority = some a ∧
      clientCommitReady a log.quorum.progress c = true) ∨
    op = .restoreCommittedPrefix c ∨
    (∃ operation, op = .restoreCommittedWrite operation ∧ operation.lsn = c) ∨
    ∃ currentProgress, op = .resetProgressAfterDataLoss currentProgress c

/-- What an operation keeps that is neither a registration nor a change of authority, epoch or
role. -/
structure Keeps (log : ReplicationLog) (op : LogOp) (log' : ReplicationLog) : Prop where
  authority : log'.authority = log.authority
  quorumAuthority : log'.quorum.authority = log.quorum.authority
  epoch : log'.epoch = log.epoch
  role : log'.role = log.role
  committedLsn : log'.quorum.committedLsn = log.quorum.committedLsn ∨
    op.Establishes log log'.quorum.committedLsn

theorem Keeps.refl (log : ReplicationLog) (op : LogOp) : Keeps log op log :=
  ⟨rfl, rfl, rfl, rfl, .inl rfl⟩

/-- The operations that can move the authority, the epoch or the role. -/
def Moves : LogOp → Prop
  | changeRole _ _ | updateEpoch _ | admitPreparedAuthority _ _ _ | close | abort => True
  | _ => False

theorem Keeps.of_quorum {quorum : QuorumTracker}
    (h : quorum.authority = log.quorum.authority ∧ quorum.committedLsn = log.quorum.committedLsn) :
    Keeps log op { log with quorum := quorum } := ⟨rfl, h.1, rfl, rfl, .inl h.2⟩

theorem max_committedLsn {c : Int} (h : op.Establishes log c) :
    max log.quorum.committedLsn c = log.quorum.committedLsn ∨
      op.Establishes log (max log.quorum.committedLsn c) := by
  obtain hle | hle := le_total c log.quorum.committedLsn
  · exact .inl (max_eq_left hle)
  · rw [max_eq_right hle]
    exact .inr h

theorem apply_keeps (op : LogOp) (hq : log.quorum.authority = log.authority)
    (hreg : ¬ op.IsRegistration) (h : ¬ op.Moves) : Keeps log op (op.apply log) := by
  cases op with
  | openLog =>
    simp only [apply, ReplicationLog.openLog]
    split_ifs
    · exact .refl log _
    · exact ⟨rfl, rfl, rfl, rfl, .inl rfl⟩
  | reserveWrite write =>
    simp only [apply, ReplicationLog.reserveWrite]
    split
    · exact .refl log _
    · split_ifs
      · exact .refl log _
      · exact .refl log _
      · exact .refl log _
      · exact .refl log _
      · split
        · split_ifs <;> exact .refl log _
        · exact ⟨rfl, rfl, rfl, rfl, .inl rfl⟩
  | restoreWriteReservation write lsn =>
    simp only [apply, ReplicationLog.restoreWriteReservation]
    split
    · split_ifs <;> exact .refl log _
    · exact ⟨rfl, rfl, rfl, rfl, .inl rfl⟩
  | acknowledge ack =>
    simp only [apply, ReplicationLog.acknowledge]
    split_ifs
    · exact .refl log _
    · exact .of_quorum (acknowledge_keeps _ _)
  | acknowledgeInSession ack session =>
    simp only [apply, ReplicationLog.acknowledgeInSession, QuorumTracker.acknowledgeInSession]
    split_ifs
    · exact .refl log _
    · exact .refl log _
    · exact .of_quorum (acknowledge_keeps _ _)
  | recordLocalProgress lsn =>
    have hk := recordLocalProgress_keeps log.quorum lsn
    exact ⟨rfl, hk.1, rfl, rfl, .inl hk.2⟩
  | recordVerifiedLocalProgress lsn => exact .of_quorum (recordVerifiedLocalProgress_keeps _ _)
  | registerPeerSession identity session => exact .of_quorum (registerPeerSession_keeps _ _ _)
  | finalizeCommit committedLsn =>
    simp only [apply, ReplicationLog.finalizeCommit, QuorumTracker.finalizeCommit]
    cases hr : log.quorum.readyCommitLsn with
    | none => exact .refl log _
    | some ready =>
      by_cases hc : committedLsn > ready
      · simp only [hc, if_true]
        exact .refl log _
      · simp only [hc, if_false]
        have hready := clientCommitReady_of_le_ready hr (not_lt.1 hc)
        rw [hq] at hready
        exact ⟨rfl, rfl, rfl, rfl, max_committedLsn (.inl ⟨rfl, hready⟩)⟩
  | restoreCommittedPrefix committedLsn =>
    exact ⟨rfl, rfl, rfl, rfl, max_committedLsn (.inr (.inl rfl))⟩
  | restoreCommittedWrite operation =>
    simp only [apply, ReplicationLog.restoreCommittedWrite, QuorumTracker.recordLocalProgress]
    split_ifs
    · exact .refl log _
    · cases log.quorum.authority with
      | none => exact ⟨rfl, rfl, rfl, rfl, .inl rfl⟩
      | some a =>
        exact ⟨rfl, rfl, rfl, rfl, max_committedLsn (.inr (.inr (.inl ⟨operation, rfl, rfl⟩)))⟩
  | recordPreparedBuildHandoffProgress identity lsn => exact .of_quorum ⟨rfl, rfl⟩
  | fenceClientWrites => exact .of_quorum ⟨rfl, rfl⟩
  | resetProgressAfterDataLoss currentProgress committedLsn =>
    exact ⟨rfl, rfl, rfl, rfl, .inr (.inr (.inr (.inr ⟨currentProgress, rfl⟩)))⟩
  | ensureLocalWriteRegistered operation => exact absurd trivial hreg
  | changeRole epoch role => exact absurd trivial h
  | updateEpoch epoch => exact absurd trivial h
  | admitPreparedAuthority a localProgress preserve => exact absurd trivial h
  | close => exact absurd trivial h
  | abort => exact absurd trivial h

theorem changeRole_cases (log : ReplicationLog) (epoch : Epoch) (role : ReplicaRole) :
    (log.changeRole epoch role).2 = log ∨
      (log.isOpen = true ∧ log.epoch ≤ epoch ∧
        (log.changeRole epoch role).2.authority = log.authority ∧
        (log.changeRole epoch role).2.quorum.authority = log.quorum.authority ∧
        (log.changeRole epoch role).2.quorum.committedLsn = log.quorum.committedLsn ∧
        (log.changeRole epoch role).2.epoch = epoch ∧
        (log.changeRole epoch role).2.role = role) := by
  unfold ReplicationLog.changeRole
  by_cases hopen : log.isOpen = true
  · rcases lt_trichotomy epoch log.epoch with h | rfl | h
    · simp only [hopen, ReplicationLog.updateEpoch_of_lt h]
      exact .inl rfl
    · simp only [hopen, ReplicationLog.updateEpoch_self]
      right
      by_cases hrole : role = .primary <;> simp [hrole, ReplicationLog.fenceClientWrites,
        QuorumTracker.failPending, QuorumTracker.drainPending, QuorumTracker.release]
    · simp only [hopen, ReplicationLog.updateEpoch_of_gt h]
      right
      by_cases hrole : role = .primary <;> simp [hrole, h.le, ReplicationLog.fenceClientWrites,
        QuorumTracker.failPending, QuorumTracker.drainPending, QuorumTracker.release]
  · simp [hopen]

theorem quorumAuthority_apply (op : LogOp) (hreg : ¬ op.IsRegistration)
    (hq : log.quorum.authority = log.authority) :
    (op.apply log).quorum.authority = (op.apply log).authority := by
  by_cases h : op.Moves
  · cases op with
    | changeRole epoch role =>
      obtain same | ⟨-, -, ha, hqa, -⟩ := changeRole_cases log epoch role
      · simpa only [apply, same] using hq
      · simp only [apply, ha, hqa, hq]
    | updateEpoch epoch =>
      simp only [apply, ReplicationLog.updateEpoch]
      split_ifs <;> exact hq
    | admitPreparedAuthority a localProgress preserve => rfl
    | close => exact hq
    | abort => exact hq
    | _ => exact absurd h id
  · have keep := apply_keeps op hq hreg h
    rw [keep.quorumAuthority, keep.authority, hq]

/-- An operation keeps the committed LSN, or establishes the new one. -/
theorem committedLsn_apply (hq : log.quorum.authority = log.authority) (op : LogOp) :
    (op.apply log).quorum.committedLsn = log.quorum.committedLsn ∨
      op.Establishes log (op.apply log).quorum.committedLsn := by
  by_cases hreg : op.IsRegistration
  · left
    obtain ⟨operation, rfl⟩ := hreg.eq
    obtain ⟨e, he⟩ | ⟨prepared, log', a, he, reg⟩ :=
      ensureLocalWriteRegistered_cases log operation hq
    · simp only [apply, he]
    · simp only [apply, he, reg.committedLsn_after]
  by_cases h : op.Moves
  · left
    cases op with
    | changeRole epoch role =>
      obtain same | ⟨-, -, -, -, hc, -⟩ := changeRole_cases log epoch role
      · simp only [apply, same]
      · exact hc
    | updateEpoch epoch =>
      simp only [apply, ReplicationLog.updateEpoch]
      split_ifs <;> rfl
    | admitPreparedAuthority a localProgress preserve =>
      simp only [apply, ReplicationLog.admitPreparedAuthority,
        ReplicationLog.configurePrevalidated, QuorumTracker.configurePrevalidated,
        supersede_committedLsn]
      split_ifs <;> rfl
    | close => rfl
    | abort => rfl
    | _ => exact absurd h id
  · exact (apply_keeps op hq hreg h).committedLsn

/-- The operation completes the writes at or below `c`: either `c` does not exceed what is ready to
commit, or it is restored as already committed. -/
def Completes (log : ReplicationLog) (op : LogOp) (c : Int) : Prop :=
  (op = .finalizeCommit c ∧ ∃ ready, log.quorum.readyCommitLsn = some ready ∧ c ≤ ready) ∨
    op = .restoreCommittedPrefix c ∨
    ∃ operation, op = .restoreCommittedWrite operation ∧ operation.lsn = c

/-- An operation releases nothing, fails every sender, or completes those up to some LSN. -/
theorem release_cases (log : ReplicationLog) (op : LogOp) :
    op.release log = .nothing ∨ (∃ error, op.release log = .fail log error) ∨
      ∃ c, op.release log = .complete log c ∧ op.Completes log c := by
  cases op with
  | finalizeCommit committedLsn =>
    cases hr : log.quorum.readyCommitLsn with
    | none => exact .inl (by simp only [release, hr])
    | some ready =>
      by_cases hc : committedLsn > ready
      · exact .inl (by simp only [release, hr, hc, if_true])
      · exact .inr <| .inr ⟨committedLsn, by simp only [release, hr, hc, if_false],
          .inl ⟨rfl, ready, hr, not_lt.1 hc⟩⟩
  | restoreCommittedPrefix committedLsn =>
    exact .inr <| .inr ⟨committedLsn, rfl, .inr (.inl rfl)⟩
  | restoreCommittedWrite operation =>
    simp only [release]
    split_ifs
    · exact .inl rfl
    · exact .inr <| .inr ⟨operation.lsn, rfl, .inr (.inr ⟨operation, rfl, rfl⟩)⟩
  | changeRole epoch role =>
    simp only [release]
    split_ifs
    · exact .inr <| .inl ⟨_, rfl⟩
    · exact .inl rfl
  | updateEpoch epoch =>
    simp only [release]
    split_ifs
    · exact .inr <| .inl ⟨_, rfl⟩
    · exact .inl rfl
  | admitPreparedAuthority a localProgress preserve =>
    simp only [release]
    split_ifs
    · exact .inr <| .inl ⟨_, rfl⟩
    · exact .inr <| .inl ⟨_, rfl⟩
    · exact .inl rfl
  | fenceClientWrites => exact .inr <| .inl ⟨_, rfl⟩
  | close => exact .inr <| .inl ⟨_, rfl⟩
  | abort => exact .inr <| .inl ⟨_, rfl⟩
  | resetProgressAfterDataLoss currentProgress committedLsn => exact .inr <| .inl ⟨_, rfl⟩
  | _ => exact .inl rfl

theorem release_nodup (log : ReplicationLog) (op : LogOp) : (op.release log).lsns.Nodup := by
  have hall := sortedKeys_nodup log.quorum
  obtain h | ⟨error, h⟩ | ⟨c, h, -⟩ := release_cases log op
  · rw [h]
    exact List.nodup_nil
  · rw [h]
    exact hall
  · rw [h]
    exact hall.sublist (List.takeWhile_sublist _)

theorem release_value_ok {lsn l : Int} (h : (op.release log).value lsn = .ok l) : l = lsn := by
  obtain hr | ⟨error, hr⟩ | ⟨c, hr, -⟩ := release_cases log op
  · rw [hr] at h
    exact (Except.ok.inj h).symm
  · rw [hr] at h
    cases h
  · rw [hr] at h
    exact (Except.ok.inj h).symm

/-- A sender still waits after the operation only if the operation did not release it. -/
theorem mem_waitingAt_apply (hreg : ¬ op.IsRegistration) {lsn : Int} :
    id ∈ (op.apply log).quorum.waitingAt lsn ↔
      lsn ∉ (op.release log).lsns ∧ id ∈ log.quorum.waitingAt lsn := by
  rw [(apply_release log op hreg).waitingAt, waitingAt_release]
  split_ifs with h <;> simp [h]

theorem mem_sent_apply (hreg : ¬ op.IsRegistration) {p : CompletionId × Result Int} :
    p ∈ (op.apply log).quorum.channels.sent ↔
      p ∈ log.quorum.channels.sent ∨ ∃ lsn ∈ (op.release log).lsns,
        p.1 ∈ log.quorum.waitingAt lsn ∧ p.2 = (op.release log).value lsn := by
  rw [(apply_release log op hreg).2, mem_sent_release]

theorem mem_sentIds_apply (hreg : ¬ op.IsRegistration) :
    id ∈ (op.apply log).quorum.sentIds ↔ id ∈ log.quorum.sentIds ∨
      ∃ lsn ∈ (op.release log).lsns, id ∈ log.quorum.waitingAt lsn := by
  rw [sentIds, (apply_release log op hreg).2, ← sentIds, sentIds_release, List.mem_append,
    List.mem_flatMap]

theorem created_apply (hreg : ¬ op.IsRegistration) :
    (op.apply log).quorum.channels.created = log.quorum.channels.created := by
  rw [(apply_release log op hreg).2]
  rfl

theorem not_mem_waitingAt_of_fail (hreg : ¬ op.IsRegistration) {error : RuntimeError}
    (hf : op.release log = .fail log error) {lsn : Int} :
    id ∉ (op.apply log).quorum.waitingAt lsn := by
  intro h
  obtain ⟨hn, hw⟩ := (mem_waitingAt_apply hreg).1 h
  rw [hf] at hn
  exact hn ((AssocMap.mem_sortedKeys _ _).2 (mem_keys_of_mem_waitingAt hw))

end LogOp

/-! ## What fences the waiting writes -/

/-- The operation changes the authority or the epoch, loses the primary role, closes or aborts the
log, or resets its progress after data loss. -/
def LogOp.Fences (log : ReplicationLog) (op : LogOp) : Prop :=
  (op.apply log).authority ≠ log.authority ∨ (op.apply log).epoch ≠ log.epoch ∨
    (log.role = .primary ∧ (op.apply log).role ≠ .primary) ∨ op = .close ∨ op = .abort ∨
    ∃ currentProgress committedLsn, op = .resetProgressAfterDataLoss currentProgress committedLsn

variable {a : ManagedReplicaConfiguration}

/-- An operation that fences fails every waiting sender, as long as those that wait were registered
by a primary under the authority in force and at its epoch. -/
theorem LogOp.Fences.release {log : ReplicationLog} (hreg : ¬ op.IsRegistration)
    (hq : log.quorum.authority = log.authority) (hf : op.Fences log) (ha : log.authority = some a)
    (he : a.currentConfiguration.epoch = log.epoch) (hrole : log.role = .primary) :
    ∃ error, op.release log = .fail log error := by
  cases op with
  | close => exact ⟨_, rfl⟩
  | abort => exact ⟨_, rfl⟩
  | resetProgressAfterDataLoss currentProgress committedLsn => exact ⟨_, rfl⟩
  | changeRole epoch role =>
    refine ⟨fenced, if_pos ?_⟩
    obtain same | ⟨hopen, hle, hauth, -, -, hepoch, hr⟩ := changeRole_cases log epoch role
    · simp [Fences, apply, same] at hf
    · simp only [Fences, apply, hauth, hepoch, hr, hrole, reduceCtorEq, exists_false, or_false,
        ne_eq, not_true_eq_false, false_or, true_and] at hf
      exact ⟨hopen, hle, hf⟩
  | updateEpoch epoch =>
    refine ⟨fenced, if_pos ?_⟩
    rcases lt_trichotomy epoch log.epoch with h | rfl | h
    · simp [Fences, apply, ReplicationLog.updateEpoch_of_lt h] at hf
    · simp [Fences, apply, ReplicationLog.updateEpoch_self] at hf
    · exact h
  | admitPreparedAuthority b localProgress preserve =>
    simp only [LogOp.release]
    split_ifs with h₁ h₂
    · exact ⟨_, rfl⟩
    · exact ⟨_, rfl⟩
    · -- the admitted authority is the one in force, so nothing moved
      obtain rfl : a = b := by simpa [hq, ha] using h₂
      cases preserve <;> simp [Fences, apply, ReplicationLog.admitPreparedAuthority,
        ReplicationLog.configurePrevalidated, ha, he] at hf
  | _ =>
    have keep := apply_keeps _ hq hreg id
    simp [Fences, keep.authority, keep.epoch, keep.role] at hf

/-! ## The invariant holds in every run -/

namespace HistoryInv

variable {r : LogRun}

/-- Unless it fences, an operation keeps the authority, the epoch and the role under which the
waiting writes were registered. -/
theorem step_of_not_registration (inv : HistoryInv r) (hreg : ¬ op.IsRegistration) :
    HistoryInv (r.step op) := by
  have hregistered : (r.step op).registered = r.registered := by
    cases op with
    | ensureLocalWriteRegistered operation => exact absurd trivial hreg
    | _ => exact List.append_nil _
  constructor
  · exact (inv.channels.release (LogOp.release_nodup _ op) _).congr (LogOp.apply_release _ op hreg)
  · exact LogOp.quorumAuthority_apply op hreg inv.authority
  · intro id lsn hw
    obtain ⟨-, hold⟩ := (LogOp.mem_waitingAt_apply hreg).1 hw
    obtain ⟨a, ha, he, hrole, hmem⟩ := inv.waiting hold
    have hstay : ¬ op.Fences r.log := by
      intro hf
      obtain ⟨error, hfail⟩ := hf.release hreg inv.authority ha he hrole
      exact LogOp.not_mem_waitingAt_of_fail hreg hfail hw
    simp only [LogOp.Fences, not_or, not_and, not_not] at hstay
    refine ⟨a, hstay.1.trans ha, he.trans hstay.2.1.symm, hstay.2.2.1 hrole, ?_⟩
    rwa [hregistered]
  · intro c hc
    rw [hregistered] at hc
    obtain hsent | hwait := inv.registered hc
    · exact .inl ((LogOp.mem_sentIds_apply hreg).2 (.inl hsent))
    · by_cases hrel : c.lsn ∈ (op.release r.log).lsns
      · exact .inl ((LogOp.mem_sentIds_apply hreg).2 (.inr ⟨c.lsn, hrel, hwait⟩))
      · exact .inr ((LogOp.mem_waitingAt_apply hreg).2 ⟨hrel, hwait⟩)
  · intro c hc
    rw [hregistered] at hc
    rw [LogRun.step, LogOp.created_apply hreg]
    exact inv.created hc
  · rw [hregistered]
    exact inv.nodup
  · intro id lsn hs
    rw [hregistered]
    obtain hold | ⟨lsn', -, hw, hv⟩ := (LogOp.mem_sent_apply hreg).1 hs
    · exact inv.sentOk hold
    · obtain ⟨a, -, -, -, hmem⟩ := inv.waiting hw
      obtain rfl := LogOp.release_value_ok hv.symm
      exact ⟨_, hmem, rfl, rfl⟩

theorem step_registration_cases (inv : HistoryInv r) (operation : Operation) :
    r.step (.ensureLocalWriteRegistered operation) = r ∨ ∃ prepared log' a,
      Registration r.log log' operation prepared a ∧
        r.step (.ensureLocalWriteRegistered operation) =
          ⟨log', r.registered ++ [⟨r.log.quorum.channels.created, operation.lsn, a⟩]⟩ := by
  obtain ⟨e, he⟩ | ⟨prepared, log', a, he, reg⟩ :=
    ensureLocalWriteRegistered_cases r.log operation inv.authority
  · left
    simp only [LogRun.step, LogOp.apply, LogOp.registered, he, List.append_nil]
  · right
    refine ⟨prepared, log', a, reg, ?_⟩
    simp only [LogRun.step, LogOp.apply, LogOp.registered, he, reg.authority, reg.completion,
      reg.lsn]

end HistoryInv

namespace HistoryInv

variable {r : LogRun}

theorem of_registration (inv : HistoryInv r) {log' : ReplicationLog} {operation : Operation}
    {prepared : PreparedWrite} (reg : Registration r.log log' operation prepared a) :
    HistoryInv ⟨log', r.registered ++ [⟨r.log.quorum.channels.created, operation.lsn, a⟩]⟩ where
  channels := reg.channelInv inv.channels
  authority := by
    rw [reg.quorumAuthority_after, inv.authority, reg.authority_after]
  waiting := by
    intro id lsn h
    have hkeep : log'.authority = some a ∧ a.currentConfiguration.epoch = log'.epoch ∧
        log'.role = .primary :=
      ⟨reg.authority_after.trans reg.authority, reg.epoch.trans reg.epoch_after.symm,
        reg.role_after.trans reg.role⟩
    refine ⟨a, hkeep.1, hkeep.2.1, hkeep.2.2, List.mem_append.2 ?_⟩
    obtain h | ⟨rfl, rfl, -⟩ := reg.mem_waitingAt.1 h
    · obtain ⟨b, hb, -, -, hmem⟩ := inv.waiting h
      obtain rfl : a = b := Option.some.inj (reg.authority.symm.trans hb)
      exact .inl hmem
    · exact .inr (List.mem_singleton.2 rfl)
  registered := by
    intro c hc
    obtain hc | hc := List.mem_append.1 hc
    · exact (inv.registered hc).imp (fun h => reg.mem_sentIds.2 (.inl h))
        fun h => reg.mem_waitingAt.2 (.inl h)
    · obtain rfl := List.mem_singleton.1 hc
      obtain h | h := le_or_gt operation.lsn r.log.quorum.committedLsn
      · exact .inl (reg.mem_sentIds.2 (.inr ⟨rfl, h⟩))
      · exact .inr (reg.mem_waitingAt.2 (.inr ⟨rfl, rfl, h⟩))
  created := by
    intro c hc
    rw [reg.created_after]
    obtain hc | hc := List.mem_append.1 hc
    · exact (inv.created hc).trans (Nat.lt_succ_self _)
    · obtain rfl := List.mem_singleton.1 hc
      exact Nat.lt_succ_self _
  nodup := by
    rw [List.map_append]
    refine inv.nodup.append (List.nodup_singleton _) (List.disjoint_singleton.2 fun h => ?_)
    obtain ⟨c, hc, he⟩ := List.mem_map.1 h
    exact (he ▸ inv.created hc).false
  sentOk := by
    intro id lsn h
    obtain h | ⟨h, -⟩ := reg.mem_sent.1 h
    · obtain ⟨c, hc, he⟩ := inv.sentOk h
      exact ⟨c, List.mem_append_left _ hc, he⟩
    · obtain ⟨rfl, hl⟩ := Prod.mk.inj h
      exact ⟨_, List.mem_append_right _ (List.mem_singleton.2 rfl), rfl, (Except.ok.inj hl).symm⟩

theorem step (inv : HistoryInv r) (op : LogOp) : HistoryInv (r.step op) := by
  cases op with
  | ensureLocalWriteRegistered operation =>
    obtain h | ⟨prepared, log', a, reg, h⟩ := inv.step_registration_cases operation
    · rw [h]
      exact inv
    · rw [h]
      exact inv.of_registration reg
  | _ => exact inv.step_of_not_registration id

theorem foldl (inv : HistoryInv r) (ops : List LogOp) : HistoryInv (ops.foldl LogRun.step r) := by
  induction ops generalizing r with
  | nil => exact inv
  | cons op ops ih => exact ih (inv.step op)

theorem run (localIdentity : ReplicaIdentity) (ops : List LogOp) :
    HistoryInv (LogRun.run localIdentity ops) := (historyInv_new localIdentity).foldl ops

end HistoryInv

/-! ## Every completion of every run -/

namespace LogRun

/-- The committed LSN of the run of `ops` is the initial one, or some operation of the run
established it. -/
def CommittedOrigin (localIdentity : ReplicaIdentity) (ops : List LogOp) (c : Int) : Prop :=
  c = 0 ∨ ∃ before op after, ops = before ++ op :: after ∧
    op.Establishes (run localIdentity before).log c

theorem run_concat (localIdentity : ReplicaIdentity) (ops : List LogOp) (op : LogOp) :
    run localIdentity (ops ++ [op]) = (run localIdentity ops).step op :=
  List.foldl_concat _ _ _ _

theorem committedOrigin (localIdentity : ReplicaIdentity) (ops : List LogOp) :
    CommittedOrigin localIdentity ops (run localIdentity ops).log.quorum.committedLsn := by
  induction ops using List.reverseRecOn with
  | nil => exact .inl rfl
  | append_singleton ops op ih =>
    rw [run_concat]
    obtain same | new := LogOp.committedLsn_apply (HistoryInv.run localIdentity ops).authority op
    · rw [step, same]
      obtain h | ⟨before, op', after, rfl, h⟩ := ih
      · exact .inl h
      · exact .inr ⟨before, op', after ++ [op], by simp, h⟩
    · exact .inr ⟨ops, op, [], rfl, new⟩

end LogRun

/-- Why a completion of LSN `l` registered under `a` may be resolved with success by `op`. -/
def LogOp.Justifies (localIdentity : ReplicaIdentity) (ops : List LogOp) (op : LogOp)
    (a : ManagedReplicaConfiguration) (l : Int) : Prop :=
  let log := (LogRun.run localIdentity ops).log
  (∃ c, op = .finalizeCommit c ∧ l ≤ c ∧ clientCommitReady a log.quorum.progress c = true) ∨
    (∃ c, op = .restoreCommittedPrefix c ∧ l ≤ c) ∨
    (∃ operation, op = .restoreCommittedWrite operation ∧ l ≤ operation.lsn) ∨
    ∃ operation, op = .ensureLocalWriteRegistered operation ∧ operation.lsn = l ∧
      l ≤ log.quorum.committedLsn ∧
      LogRun.CommittedOrigin localIdentity ops log.quorum.committedLsn

theorem LogOp.justifies_of_released {localIdentity : ReplicaIdentity} {ops : List LogOp} {l : Int}
    (hw : l ∈ (op.release (LogRun.run localIdentity ops).log).lsns)
    (hv : (op.release (LogRun.run localIdentity ops).log).value l = .ok l)
    (ha : (LogRun.run localIdentity ops).log.authority = some a) :
    op.Justifies localIdentity ops a l := by
  have inv := HistoryInv.run localIdentity ops
  obtain h | ⟨error, h⟩ | ⟨c, h, hc⟩ := release_cases (LogRun.run localIdentity ops).log op
  · rw [h] at hw
    exact absurd hw List.not_mem_nil
  · rw [h] at hv
    cases hv
  · rw [h] at hw
    have hle : l ≤ c := ((AssocMap.mem_takeWhile_sortedKeys _ _ _).1 hw).2
    obtain ⟨rfl, ready, hr, hcr⟩ | rfl | ⟨operation, rfl, rfl⟩ := hc
    · obtain ⟨b, hb, hready⟩ := clientCommitReady_of_le_ready hr hcr
      obtain rfl : a = b := Option.some.inj (ha.symm.trans (inv.authority.symm.trans hb))
      exact .inl ⟨c, rfl, hle, hready⟩
    · exact .inr (.inl ⟨c, rfl, hle⟩)
    · exact .inr (.inr (.inl ⟨operation, rfl, hle⟩))

namespace LogRun

variable {localIdentity : ReplicaIdentity} {ops : List LogOp} {op : LogOp}

theorem justified_of_sent {l : Int} (hsent : (id, .ok l) ∈ ((run localIdentity ops).step op).sent)
    (hnew : (id, .ok l) ∉ (run localIdentity ops).sent) :
    ∃ c ∈ ((run localIdentity ops).step op).registered, c.completion = id ∧ c.lsn = l ∧
      op.Justifies localIdentity ops c.authority l := by
  have inv := HistoryInv.run localIdentity ops
  by_cases hreg : op.IsRegistration
  · obtain ⟨operation, rfl⟩ := hreg.eq
    obtain h | ⟨prepared, log', a, reg, h⟩ := inv.step_registration_cases operation
    · exact absurd (h ▸ hsent) hnew
    · rw [h] at hsent ⊢
      obtain hold | ⟨hp, hle⟩ := reg.mem_sent.1 hsent
      · exact absurd hold hnew
      · obtain ⟨rfl, hl⟩ := Prod.mk.inj hp
        obtain rfl := Except.ok.inj hl
        exact ⟨_, List.mem_append_right _ (List.mem_singleton.2 rfl), rfl, rfl,
          .inr (.inr (.inr ⟨operation, rfl, rfl, hle, committedOrigin localIdentity ops⟩))⟩
  · obtain hold | ⟨lsn, hrel, hw, hv⟩ := (LogOp.mem_sent_apply hreg).1 hsent
    · exact absurd hold hnew
    · obtain rfl := LogOp.release_value_ok hv.symm
      obtain ⟨a, ha, -, -, hmem⟩ := inv.waiting hw
      exact ⟨_, List.mem_append_left _ hmem, rfl, rfl,
        LogOp.justifies_of_released hrel hv.symm ha⟩

end LogRun

theorem HistoryInv.error_of_fences {r : LogRun} (inv : HistoryInv r) (hf : op.Fences r.log)
    {c : Registered} (hc : c ∈ r.registered) (hunsent : c.completion ∉ r.sent.map Prod.fst) :
    ∃ error, (c.completion, .error error) ∈ (r.step op).sent := by
  have hreg : ¬ op.IsRegistration := by
    intro hreg
    obtain ⟨operation, rfl⟩ := hreg.eq
    obtain h | ⟨prepared, log', a, reg, h⟩ := inv.step_registration_cases operation
    · have hlog := congrArg LogRun.log h
      simp only [LogRun.step] at hlog
      simp [LogOp.Fences, hlog] at hf
    · have hlog := congrArg LogRun.log h
      simp only [LogRun.step] at hlog
      simp [LogOp.Fences, hlog, reg.authority_after, reg.epoch_after, reg.role_after] at hf
  have hw : c.completion ∈ r.log.quorum.waitingAt c.lsn :=
    (inv.registered hc).resolve_left hunsent
  obtain ⟨a, ha, he, hrole, -⟩ := inv.waiting hw
  obtain ⟨error, hfail⟩ := hf.release hreg inv.authority ha he hrole
  refine ⟨error, (LogOp.mem_sent_apply hreg).2 (.inr ⟨c.lsn, ?_, hw, ?_⟩)⟩
  · rw [hfail]
    exact (AssocMap.mem_sortedKeys _ _).2 (mem_keys_of_mem_waitingAt hw)
  · rw [hfail]
    rfl

/-- In every run, each completion is resolved at most once.  It is resolved with success only with
its own LSN, and only when that LSN is finalized with a quorum in both configurations of the
authority it was registered under, is restored as already committed, or was committed before it was
registered.  Whatever changes the authority or the epoch, loses the primary role, closes or aborts
the log or resets its progress first resolves it with an error. -/
theorem completion_resolved_once (localIdentity : ReplicaIdentity) (ops : List LogOp) (op : LogOp) :
    let r := LogRun.run localIdentity ops
    let r' := LogRun.run localIdentity (ops ++ [op])
    (r'.registered.map (·.completion)).Nodup ∧ (r'.sent.map Prod.fst).Nodup ∧
      (∀ id l, (id, .ok l) ∈ r'.sent → (id, .ok l) ∉ r.sent →
        ∃ c ∈ r'.registered, c.completion = id ∧ c.lsn = l ∧
          op.Justifies localIdentity ops c.authority l) ∧
      (op.Fences r.log → ∀ c ∈ r.registered, c.completion ∉ r.sent.map Prod.fst →
        ∃ error, (c.completion, .error error) ∈ r'.sent) := by
  intro r r'
  have inv : HistoryInv r := HistoryInv.run localIdentity ops
  have inv' : HistoryInv r' := HistoryInv.run localIdentity (ops ++ [op])
  have hstep : r' = r.step op := LogRun.run_concat localIdentity ops op
  refine ⟨inv'.nodup, inv'.channels.sent_nodup, ?_, ?_⟩
  · intro id l hsent hnew
    rw [hstep] at hsent ⊢
    exact LogRun.justified_of_sent hsent hnew
  · intro hf c hc hunsent
    rw [hstep]
    exact inv.error_of_fences hf hc hunsent

/-! ## A completion can outlive the authority that committed its LSN -/

namespace Reregistration

def primaryIdentity : ReplicaIdentity := ⟨1, "a", "g"⟩
def secondaryIdentity : ReplicaIdentity := ⟨2, "b", "g"⟩

/-- The authority of `primaryIdentity` over the given configuration. -/
def authority (number : Int) (members : List ConfigurationMember) (writeQuorum : Nat) :
    ManagedReplicaConfiguration where
  localIdentity := primaryIdentity
  previousConfiguration := none
  currentConfiguration := ⟨"c", ⟨0, number⟩, 1, members, writeQuorum⟩
  switchoverHandoff := none
  secondaryRemoval := none
  scaleUp := none
  buildKind := .bootstrap

def alone : ManagedReplicaConfiguration := authority 1 [⟨primaryIdentity, .primary⟩] 1

def pair : ManagedReplicaConfiguration :=
  authority 2 [⟨primaryIdentity, .primary⟩, ⟨secondaryIdentity, .activeSecondary⟩] 2

/-- The write at LSN 1 commits while the primary is alone, and is registered again once the
configuration needs a second member. -/
def ops : List LogOp :=
  [.openLog, .changeRole ⟨0, 1⟩ .primary, .admitPreparedAuthority alone 0 false,
    .ensureLocalWriteRegistered ⟨1, 0, []⟩, .finalizeCommit 1,
    .admitPreparedAuthority pair 1 false, .ensureLocalWriteRegistered ⟨1, 0, []⟩]

/-- The second completion is resolved with success although no LSN at or above its own ever has a
quorum of the authority it was registered under, and nothing is restored. -/
theorem reregistered_completion_without_quorum :
    let r := LogRun.run primaryIdentity ops
    (⟨1, 1, pair⟩ : Registered) ∈ r.registered ∧ (1, .ok 1) ∈ r.sent ∧
      (∀ op ∈ ops, (∀ c, op ≠ .restoreCommittedPrefix c) ∧
        ∀ operation, op ≠ .restoreCommittedWrite operation) ∧
      ∀ before ∈ ops.inits, ∀ c, 1 ≤ c → clientCommitReady pair
        (LogRun.run primaryIdentity before).log.quorum.progress c = false := by
  have hone : ∀ before ∈ ops.inits, clientCommitReady pair
      (LogRun.run primaryIdentity before).log.quorum.progress 1 = false := by decide
  refine ⟨List.mem_of_getElem? (i := 1) rfl, List.mem_of_getElem? (i := 1) rfl, ?_, ?_⟩
  · simp [ops]
  · intro before hb c hc
    rw [← Bool.not_eq_true]
    intro hready
    exact absurd (hone before hb) (by rw [clientCommitReady_of_le hready hc]; decide)

/-- The write commits while the primary is alone; a new authority before that resolves it with an
error. -/
theorem completion_resolved_once_alone :
    (∃ c ∈ (LogRun.run primaryIdentity (ops.take 4 ++ [.finalizeCommit 1])).registered,
      c.completion = 0 ∧ c.lsn = 1 ∧
        (LogOp.finalizeCommit 1).Justifies primaryIdentity (ops.take 4) c.authority 1) ∧
    ∃ error, (0, .error error) ∈
      (LogRun.run primaryIdentity (ops.take 4 ++ [.admitPreparedAuthority pair 1 false])).sent := by
  obtain ⟨-, -, hjustified, -⟩ :=
    completion_resolved_once primaryIdentity (ops.take 4) (.finalizeCommit 1)
  obtain ⟨-, -, -, hfenced⟩ :=
    completion_resolved_once primaryIdentity (ops.take 4) (.admitPreparedAuthority pair 1 false)
  refine ⟨hjustified 0 1 (List.mem_of_getElem? (i := 0) rfl) (by decide), ?_⟩
  exact hfenced (.inl (by decide)) ⟨0, 1, alone⟩ (List.mem_of_getElem? (i := 0) rfl) (by decide)

end Reregistration

end Kuberic
