import Kuberic.Replicator.Channels

/-!
# Operations of the replication log, as steps

`LogOp` names the operations of `ReplicationLog`, except for the four of a secondary removal, which
release no sender.  Apart from the registration of a write, an operation can only release waiting
senders; `LogOp.release` says which and with what value, and `apply_release` is the single place where
the definitions of the operations are opened.
-/

namespace Kuberic

open QuorumTracker

/-- An operation of the replication log. -/
inductive LogOp
  | openLog
  | reserveWrite (write : ClientWrite)
  | restoreWriteReservation (write : ClientWrite) (lsn : Int)
  | ensureLocalWriteRegistered (operation : Operation)
  | acknowledge (ack : ReplicationAck)
  | acknowledgeInSession (ack : ReplicationAck) (session : ProcessSessionId)
  | recordLocalProgress (lsn : Int)
  | recordPreparedBuildHandoffProgress (identity : ReplicaIdentity) (lsn : Int)
  | recordVerifiedLocalProgress (lsn : Int)
  | registerPeerSession (identity : ReplicaIdentity) (session : ProcessSessionId)
  | finalizeCommit (committedLsn : Int)
  | restoreCommittedPrefix (committedLsn : Int)
  | restoreCommittedWrite (operation : Operation)
  | changeRole (epoch : Epoch) (role : ReplicaRole)
  | updateEpoch (epoch : Epoch)
  | admitPreparedAuthority (authority : ManagedReplicaConfiguration) (localProgress : Int)
      (preserveWriteAccess : Bool)
  | fenceClientWrites
  | close
  | abort
  | resetProgressAfterDataLoss (currentProgress committedLsn : Int)

namespace LogOp

/-- The log that an operation leaves behind, whether it succeeds or fails. -/
def apply (log : ReplicationLog) : LogOp → ReplicationLog
  | openLog => log.openLog.2
  | reserveWrite write => (log.reserveWrite write).2
  | restoreWriteReservation write lsn => (log.restoreWriteReservation write lsn).2
  | ensureLocalWriteRegistered operation => (log.ensureLocalWriteRegistered operation).2
  | acknowledge ack => (log.acknowledge ack).2
  | acknowledgeInSession ack session => (log.acknowledgeInSession ack session).2
  | recordLocalProgress lsn => (log.recordLocalProgress lsn).2
  | recordPreparedBuildHandoffProgress identity lsn =>
    log.recordPreparedBuildHandoffProgress identity lsn
  | recordVerifiedLocalProgress lsn => log.recordVerifiedLocalProgress lsn
  | registerPeerSession identity session => (log.registerPeerSession identity session).2
  | finalizeCommit committedLsn => (log.finalizeCommit committedLsn).2
  | restoreCommittedPrefix committedLsn => log.restoreCommittedPrefix committedLsn
  | restoreCommittedWrite operation => (log.restoreCommittedWrite operation).2
  | changeRole epoch role => (log.changeRole epoch role).2
  | updateEpoch epoch => (log.updateEpoch epoch).2
  | admitPreparedAuthority a localProgress preserveWriteAccess =>
    log.admitPreparedAuthority a localProgress preserveWriteAccess
  | fenceClientWrites => log.fenceClientWrites
  | close => log.close
  | abort => log.abort
  | resetProgressAfterDataLoss currentProgress committedLsn =>
    log.resetProgressAfterDataLoss currentProgress committedLsn

/-- Senders to release and the value each gets. -/
structure Release where
  lsns : List Int
  value : Int → Result Int

namespace Release

def nothing : Release := ⟨[], .ok⟩

/-- Fail every waiting sender of `log`. -/
def fail (log : ReplicationLog) (error : RuntimeError) : Release :=
  ⟨log.quorum.pending.sortedKeys, fun _ => .error error⟩

/-- Complete the senders of `log` that wait at or below `committedLsn`. -/
def complete (log : ReplicationLog) (committedLsn : Int) : Release :=
  ⟨log.quorum.pending.sortedKeys.takeWhile (· ≤ committedLsn), .ok⟩

end Release

/-- What a fence sends. -/
def fenced : RuntimeError := .writeClosed .reconfigurationPending

/-- What a change of authority sends. -/
def authorityChanged : RuntimeError :=
  .authorityMismatch "authority changed before the write committed"

/-- The senders that an operation releases. -/
def release (log : ReplicationLog) : LogOp → Release
  | finalizeCommit committedLsn =>
    match log.quorum.readyCommitLsn with
    | none => .nothing
    | some ready => if committedLsn > ready then .nothing else .complete log committedLsn
  | restoreCommittedPrefix committedLsn => .complete log committedLsn
  | restoreCommittedWrite operation =>
    if log.conflictsWithReservation operation ∨ log.quorum.authority = none then .nothing
    else .complete log operation.lsn
  | changeRole epoch role =>
    if log.isOpen ∧ log.epoch ≤ epoch ∧ (epoch ≠ log.epoch ∨ role ≠ .primary) then
      .fail log fenced
    else .nothing
  | updateEpoch epoch => if log.epoch < epoch then .fail log fenced else .nothing
  | admitPreparedAuthority a _ preserveWriteAccess =>
    if !preserveWriteAccess ∧ a.currentConfiguration.epoch ≠ log.epoch then .fail log fenced
    else if log.quorum.authority.isSome ∧ log.quorum.authority ≠ some a then
      .fail log authorityChanged
    else .nothing
  | fenceClientWrites | close | abort | resetProgressAfterDataLoss _ _ => .fail log fenced
  | _ => .nothing

/-- The operation is the registration of a write. -/
def IsRegistration : LogOp → Prop
  | ensureLocalWriteRegistered _ => True
  | _ => False

theorem IsRegistration.eq {op : LogOp} (h : op.IsRegistration) :
    ∃ operation, op = .ensureLocalWriteRegistered operation := by
  cases op with
  | ensureLocalWriteRegistered operation => exact ⟨operation, rfl⟩
  | _ => exact absurd h id

end LogOp

namespace QuorumTracker

variable {t t' t'' : QuorumTracker}

theorem SameChannels.refl (t : QuorumTracker) : SameChannels t t := ⟨rfl, rfl⟩

theorem SameChannels.trans (h : SameChannels t t') (h' : SameChannels t' t'') :
    SameChannels t t'' := ⟨h'.1.trans h.1, h'.2.trans h.2⟩

theorem pending_drainPending (t : QuorumTracker) (error : RuntimeError) :
    (t.drainPending error).pending = ∅ := by
  refine AssocMap.eq_empty_of_isEmpty (List.isEmpty_iff.2 ?_)
  simp only [drainPending, release, AssocMap.retain, List.filter_eq_nil_iff]
  intro e he
  have : e.1 ∈ t.pending.sortedKeys :=
    (AssocMap.mem_sortedKeys _ _).2 (List.mem_map.2 ⟨e, he, rfl⟩)
  simp [this]

theorem SameChannels.drainPending_of_drained {error : RuntimeError}
    (h : SameChannels (t.drainPending error) t') (error' : RuntimeError) :
    SameChannels (t.drainPending error) (t'.drainPending error') := by
  have hp : t'.pending = ∅ := h.1.trans (pending_drainPending t error)
  refine h.trans ⟨?_, ?_⟩
  · rw [pending_drainPending, hp]
  · simp [QuorumTracker.drainPending, release, hp, AssocMap.sortedKeys, AssocMap.keys,
      Channels.send, EmptyCollection.emptyCollection, AssocMap.empty]

theorem sameChannels_configurePrevalidated (t : QuorumTracker) (a : ManagedReplicaConfiguration)
    (localProgress : Int) :
    SameChannels (if t.authority.isSome ∧ t.authority ≠ some a then
      t.drainPending LogOp.authorityChanged else t) (t.configurePrevalidated a localProgress) := by
  have h : SameChannels (t.supersede a) (t.configurePrevalidated a localProgress) := ⟨rfl, rfl⟩
  refine SameChannels.trans ?_ h
  unfold supersede
  split_ifs <;> exact ⟨rfl, rfl⟩

theorem sameChannels_registerPeerSession (t : QuorumTracker) (identity : ReplicaIdentity)
    (session : ProcessSessionId) : SameChannels t (t.registerPeerSession identity session).2 := by
  unfold registerPeerSession
  split
  · exact .refl t
  · split_ifs <;> exact ⟨rfl, rfl⟩

theorem sameChannels_recordLocalProgress (t : QuorumTracker) (lsn : Int) :
    SameChannels t (t.recordLocalProgress lsn).2 := by
  unfold recordLocalProgress
  split <;> exact ⟨rfl, rfl⟩

theorem sameChannels_acknowledge (t : QuorumTracker) (ack : ReplicationAck) :
    SameChannels t (t.acknowledge ack).2 := by
  unfold acknowledge
  split
  · exact .refl t
  · split <;> exact ⟨rfl, rfl⟩

end QuorumTracker

namespace LogOp

variable (log : ReplicationLog)

theorem nothing_release : SameChannels log.quorum
    (log.quorum.release Release.nothing.lsns Release.nothing.value) :=
  release_nil log.quorum .ok

theorem release_of_sameChannels {t : QuorumTracker} (h : SameChannels log.quorum t) :
    SameChannels (log.quorum.release Release.nothing.lsns Release.nothing.value) t :=
  ⟨h.1.trans (nothing_release log).1.symm, h.2.trans (nothing_release log).2.symm⟩

theorem release_changeRole (epoch : Epoch) (role : ReplicaRole) :
    SameChannels (log.quorum.release ((changeRole epoch role).release log).lsns
      ((changeRole epoch role).release log).value) (log.changeRole epoch role).2.quorum := by
  unfold ReplicationLog.changeRole
  by_cases hopen : log.isOpen = true
  · rcases lt_trichotomy epoch log.epoch with h | rfl | h
    · simpa [release, hopen, ReplicationLog.updateEpoch_of_lt h, h.not_ge] using
        release_of_sameChannels log (.refl _)
    · by_cases hrole : role = .primary
      · simpa [release, hopen, hrole, ReplicationLog.updateEpoch_self] using
          release_of_sameChannels log (.refl _)
      · simp only [release, hopen, ReplicationLog.updateEpoch_self, hrole, le_refl, true_and,
          ne_eq, not_false_eq_true, or_true, if_true, Bool.not_true, Bool.false_eq_true, if_false]
        exact ⟨rfl, rfl⟩
    · by_cases hrole : role = .primary
      · simp only [release, hopen, ReplicationLog.updateEpoch_of_gt h, hrole, h.le, h.ne', true_and,
          ne_eq, not_false_eq_true, true_or, if_true, Bool.not_true, Bool.false_eq_true, if_false,
          not_true_eq_false]
        exact ⟨rfl, rfl⟩
      · simp only [release, hopen, ReplicationLog.updateEpoch_of_gt h, hrole, h.le, h.ne', true_and,
          ne_eq, not_false_eq_true, true_or, if_true, Bool.not_true, Bool.false_eq_true, if_false]
        -- both the epoch and the role fence: the second one finds nothing to fail
        exact SameChannels.drainPending_of_drained ⟨rfl, rfl⟩ fenced
  · simpa [release, hopen] using release_of_sameChannels log (.refl _)

theorem release_updateEpoch (epoch : Epoch) :
    SameChannels (log.quorum.release ((updateEpoch epoch).release log).lsns
      ((updateEpoch epoch).release log).value) (log.updateEpoch epoch).2.quorum := by
  rcases lt_trichotomy epoch log.epoch with h | rfl | h
  · rw [ReplicationLog.updateEpoch_of_lt h, release, if_neg h.not_gt]
    exact release_of_sameChannels log (.refl _)
  · rw [ReplicationLog.updateEpoch_self, release, if_neg (lt_irrefl _)]
    exact release_of_sameChannels log (.refl _)
  · rw [ReplicationLog.updateEpoch_of_gt h, release, if_pos h]
    exact ⟨rfl, rfl⟩

theorem release_admitPreparedAuthority (a : ManagedReplicaConfiguration) (localProgress : Int)
    (preserve : Bool) :
    SameChannels (log.quorum.release ((admitPreparedAuthority a localProgress preserve).release
        log).lsns ((admitPreparedAuthority a localProgress preserve).release log).value)
      (log.admitPreparedAuthority a localProgress preserve).quorum := by
  have key := sameChannels_configurePrevalidated
  unfold ReplicationLog.admitPreparedAuthority ReplicationLog.configurePrevalidated
  by_cases hp : preserve = true
  · simp only [release, hp, Bool.not_true, Bool.false_eq_true, false_and, if_false, if_true]
    refine SameChannels.trans ?_ (key log.quorum a localProgress)
    split_ifs
    · exact ⟨rfl, rfl⟩
    · exact release_of_sameChannels log (.refl _)
  · by_cases he : a.currentConfiguration.epoch = log.epoch
    · simp only [release, hp, he, ne_eq, not_true_eq_false, and_false, if_false]
      refine SameChannels.trans ?_ (key log.quorum a localProgress)
      split_ifs
      · exact ⟨rfl, rfl⟩
      · exact release_of_sameChannels log (.refl _)
    · simp only [release, hp, he, ne_eq, not_false_eq_true, Bool.not_false, and_self, if_true]
      refine SameChannels.trans ?_ (key log.quorum.failPending a localProgress)
      split_ifs
      · exact SameChannels.drainPending_of_drained ⟨rfl, rfl⟩ authorityChanged
      · exact ⟨rfl, rfl⟩

/-- Apart from a registration, an operation releases the senders that `release` names and leaves
the channels alone otherwise. -/
theorem apply_release (op : LogOp) (h : ¬ op.IsRegistration) :
    SameChannels (log.quorum.release (op.release log).lsns (op.release log).value)
      (op.apply log).quorum := by
  cases op with
  | ensureLocalWriteRegistered operation => exact absurd trivial h
  | openLog =>
    refine release_of_sameChannels log ?_
    simp only [apply, ReplicationLog.openLog]
    split_ifs <;> exact .refl _
  | reserveWrite write =>
    refine release_of_sameChannels log ?_
    simp only [apply, ReplicationLog.reserveWrite]
    split
    · exact .refl _
    · split_ifs
      · exact .refl _
      · exact .refl _
      · exact .refl _
      · exact .refl _
      · split
        · split_ifs <;> exact .refl _
        · exact .refl _
  | restoreWriteReservation write lsn =>
    refine release_of_sameChannels log ?_
    simp only [apply, ReplicationLog.restoreWriteReservation]
    split
    · split_ifs <;> exact .refl _
    · exact .refl _
  | acknowledge ack =>
    refine release_of_sameChannels log ?_
    simp only [apply, ReplicationLog.acknowledge]
    split_ifs
    · exact .refl _
    · exact sameChannels_acknowledge _ _
  | acknowledgeInSession ack session =>
    refine release_of_sameChannels log ?_
    simp only [apply, ReplicationLog.acknowledgeInSession, QuorumTracker.acknowledgeInSession]
    split_ifs
    · exact .refl _
    · exact .refl _
    · exact sameChannels_acknowledge _ _
  | recordLocalProgress lsn =>
    exact release_of_sameChannels log (sameChannels_recordLocalProgress _ _)
  | recordPreparedBuildHandoffProgress identity lsn =>
    exact release_of_sameChannels log ⟨rfl, rfl⟩
  | recordVerifiedLocalProgress lsn =>
    refine release_of_sameChannels log ?_
    simp only [apply, ReplicationLog.recordVerifiedLocalProgress,
      QuorumTracker.recordVerifiedLocalProgress]
    split <;> exact ⟨rfl, rfl⟩
  | registerPeerSession identity session =>
    exact release_of_sameChannels log (sameChannels_registerPeerSession _ _ _)
  | finalizeCommit committedLsn =>
    simp only [apply, release, ReplicationLog.finalizeCommit, QuorumTracker.finalizeCommit]
    cases log.quorum.readyCommitLsn with
    | none => exact release_of_sameChannels log (.refl _)
    | some ready =>
      by_cases hc : committedLsn > ready
      · simpa [hc] using release_of_sameChannels log (.refl _)
      · simp only [hc, if_false]
        exact ⟨rfl, rfl⟩
  | restoreCommittedPrefix committedLsn => exact ⟨rfl, rfl⟩
  | restoreCommittedWrite operation =>
    simp only [apply, release, ReplicationLog.restoreCommittedWrite,
      QuorumTracker.recordLocalProgress]
    by_cases hc : log.conflictsWithReservation operation
    · simpa [hc] using release_of_sameChannels log (.refl _)
    · simp only [hc]
      cases ha : log.quorum.authority with
      | none => simpa using release_of_sameChannels log (.refl _)
      | some a => exact ⟨rfl, rfl⟩
  | changeRole epoch role => exact release_changeRole log epoch role
  | updateEpoch epoch => exact release_updateEpoch log epoch
  | admitPreparedAuthority a localProgress preserve =>
    exact release_admitPreparedAuthority log a localProgress preserve
  | fenceClientWrites => exact ⟨rfl, rfl⟩
  | close => exact ⟨rfl, rfl⟩
  | abort => exact ⟨rfl, rfl⟩
  | resetProgressAfterDataLoss currentProgress committedLsn => exact ⟨rfl, rfl⟩

end LogOp

end Kuberic
