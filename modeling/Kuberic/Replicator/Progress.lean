import Kuberic.Replicator.Registration

/-!
# How the progress map moves

The progress that the quorum tracker counts for a commit.  Within one authority it only changes in
two ways: the local entry is raised to an LSN the caller supplies, and an acknowledgement that passes
the fence check raises the entry of its receiver.
-/

namespace Kuberic

/-- Every entry of the second map is bounded by an entry of the first one, unless `new` allows it. -/
def ProgressFrom (progress progress' : AssocMap ReplicaIdentity Int)
    (new : ReplicaIdentity → Int → Prop) : Prop :=
  ∀ m v, progress'.get? m = some v → (∃ w, progress.get? m = some w ∧ v ≤ w) ∨ new m v

section ProgressFrom

variable {progress progress' : AssocMap ReplicaIdentity Int} {new : ReplicaIdentity → Int → Prop}

theorem ProgressFrom.refl (progress : AssocMap ReplicaIdentity Int)
    (new : ReplicaIdentity → Int → Prop) : ProgressFrom progress progress new :=
  fun _ v h => .inl ⟨v, h, le_refl v⟩

theorem progressFrom_erase (progress : AssocMap ReplicaIdentity Int) (identity : ReplicaIdentity)
    (new : ReplicaIdentity → Int → Prop) :
    ProgressFrom progress (progress.erase identity) new := by
  intro m v h
  by_cases hm : m = identity
  · simp [hm] at h
  · rw [AssocMap.get?_erase_of_ne _ hm] at h
    exact .inl ⟨v, h, le_refl v⟩

theorem progressFrom_raise (t : QuorumTracker) {identity : ReplicaIdentity} {lsn : Int}
    (h : new identity lsn) : ProgressFrom t.progress (t.raiseProgress identity lsn).progress new := by
  intro m v hv
  simp only [QuorumTracker.raiseProgress, AssocMap.get?_upsert] at hv
  split_ifs at hv with hm
  · subst hm
    cases hg : t.progress.get? m with
    | none =>
      rw [hg] at hv
      obtain rfl := Option.some.inj hv
      exact .inr h
    | some w =>
      rw [hg] at hv
      have hmax : max w lsn = v := Option.some.inj hv
      obtain hle | hle := le_total lsn w
      · exact .inl ⟨w, rfl, by omega⟩
      · obtain rfl : v = lsn := by omega
        exact .inr h
  · exact .inl ⟨v, hv, le_refl v⟩

end ProgressFrom

/-- The tracker starts on `a` without the progress of an earlier authority: it is new, or `a` is not
the completion of a membership increase that it already tracks. -/
def StartsAnew (t : QuorumTracker) (a : ManagedReplicaConfiguration) : Prop :=
  t.progress = ∅ ∨ ∃ existing, t.authority = some existing ∧ existing ≠ a ∧
    (a.scaleUp.isSome && a.isCurrentOnlyCompletionOf existing) = false

theorem progress_configurePrevalidated {t : QuorumTracker} {a : ManagedReplicaConfiguration}
    (h : StartsAnew t a) {localProgress v : Int} {m : ReplicaIdentity}
    (hv : (t.configurePrevalidated a localProgress).progress.get? m = some v) :
    m = a.localIdentity ∧ v = localProgress := by
  have hempty : (t.supersede a).progress = ∅ := by
    unfold QuorumTracker.supersede
    obtain hnew | ⟨existing, ha, hne, hcompletion⟩ := h
    · split_ifs
      · exact hnew
      · rfl
      · exact hnew
    · simp [ha, hne, hcompletion]
  simp only [QuorumTracker.configurePrevalidated, hempty, AssocMap.get?_upsert] at hv
  split_ifs at hv with hm
  · exact ⟨hm, (Option.some.inj hv).symm⟩
  · cases hv

/-- The log keeps its identity and authority, and its progress map moves as `new` allows. -/
structure LogAdvance (log log' : ReplicationLog) (new : ReplicaIdentity → Int → Prop) : Prop where
  localIdentity : log'.localIdentity = log.localIdentity
  authority : log'.authority = log.authority
  quorumAuthority : log'.quorum.authority = log.quorum.authority
  progress : ProgressFrom log.quorum.progress log'.quorum.progress new

namespace LogAdvance

variable {log : ReplicationLog} {new : ReplicaIdentity → Int → Prop}

theorem refl (log : ReplicationLog) (new : ReplicaIdentity → Int → Prop) :
    LogAdvance log log new := ⟨rfl, rfl, rfl, .refl _ _⟩

theorem reserveWrite (write : ClientWrite) : LogAdvance log (log.reserveWrite write).2 new := by
  unfold ReplicationLog.reserveWrite
  split
  · exact .refl log new
  · split_ifs
    · exact .refl log new
    · exact .refl log new
    · exact .refl log new
    · exact .refl log new
    · split
      · split_ifs <;> exact .refl log new
      · exact ⟨rfl, rfl, rfl, .refl _ _⟩

theorem restoreWriteReservation (write : ClientWrite) (lsn : Int) :
    LogAdvance log (log.restoreWriteReservation write lsn).2 new := by
  unfold ReplicationLog.restoreWriteReservation
  split
  · split_ifs <;> exact .refl log new
  · exact ⟨rfl, rfl, rfl, .refl _ _⟩

theorem recordVerifiedLocalProgress (lsn : Int) :
    LogAdvance log (log.recordVerifiedLocalProgress lsn) new := by
  unfold ReplicationLog.recordVerifiedLocalProgress QuorumTracker.recordVerifiedLocalProgress
  refine ⟨rfl, rfl, ?_, ?_⟩
  · split <;> simp_all
  · split <;> exact .refl _ _

theorem finalizeCommit (committedLsn : Int) :
    LogAdvance log (log.finalizeCommit committedLsn).2 new := by
  unfold ReplicationLog.finalizeCommit QuorumTracker.finalizeCommit
  cases log.quorum.readyCommitLsn with
  | none => exact .refl log new
  | some ready =>
    by_cases hc : committedLsn > ready <;> simp only [hc] <;> exact ⟨rfl, rfl, rfl, .refl _ _⟩

theorem of_quorum {t : QuorumTracker} (ha : t.authority = log.quorum.authority)
    (hp : ProgressFrom log.quorum.progress t.progress new) :
    LogAdvance log { log with quorum := t } new := ⟨rfl, rfl, ha, hp⟩

theorem registerPeerSession (identity : ReplicaIdentity) (session : ProcessSessionId) :
    LogAdvance log (log.registerPeerSession identity session).2 new := by
  simp only [ReplicationLog.registerPeerSession, QuorumTracker.registerPeerSession]
  split
  · exact .refl log new
  · split_ifs
    · exact .refl log new
    · exact .refl log new
    · exact of_quorum rfl (progressFrom_erase _ _ _)

theorem recordLocalProgress {lsn : Int}
    (h : ∀ a, log.quorum.authority = some a → new a.localIdentity lsn) :
    LogAdvance log (log.recordLocalProgress lsn).2 new := by
  cases ha : log.quorum.authority with
  | none =>
    simp only [ReplicationLog.recordLocalProgress, QuorumTracker.recordLocalProgress, ha]
    exact ⟨rfl, rfl, rfl, .refl _ _⟩
  | some a =>
    simp only [ReplicationLog.recordLocalProgress, QuorumTracker.recordLocalProgress, ha]
    exact ⟨rfl, rfl, by simp [QuorumTracker.raiseProgress], progressFrom_raise log.quorum (h a ha)⟩

theorem restoreCommittedWrite {operation : Operation}
    (h : ∀ a, log.quorum.authority = some a → new a.localIdentity operation.lsn) :
    LogAdvance log (log.restoreCommittedWrite operation).2 new := by
  unfold ReplicationLog.restoreCommittedWrite
  split_ifs
  · exact .refl log new
  · cases ha : log.quorum.authority with
    | none =>
      simp only [QuorumTracker.recordLocalProgress, ha]
      exact ⟨rfl, rfl, rfl, .refl _ _⟩
    | some a =>
      simp only [QuorumTracker.recordLocalProgress, ha]
      exact ⟨rfl, rfl, rfl, progressFrom_raise log.quorum (h a ha)⟩

theorem ensureLocalWriteRegistered {operation : Operation}
    (hq : log.quorum.authority = log.authority)
    (h : ∀ a, log.quorum.authority = some a → new a.localIdentity operation.lsn) :
    LogAdvance log (log.ensureLocalWriteRegistered operation).2 new := by
  obtain ⟨e, he⟩ | ⟨prepared, log', a, he, reg⟩ :=
    ensureLocalWriteRegistered_cases log operation hq
  · rw [he]
    exact .refl log new
  · rw [he]
    refine ⟨reg.localIdentity_after, reg.authority_after, reg.quorumAuthority_after, ?_⟩
    rw [reg.progress_after]
    exact progressFrom_raise log.quorum (h a (hq.trans reg.authority))

theorem acknowledge {ack : ReplicationAck}
    (h : ∀ a, log.quorum.authority = some a → a.validateAcknowledgement ack = .ok () →
      new ack.receiver ack.appliedLsn) : LogAdvance log (log.acknowledge ack).2 new := by
  unfold ReplicationLog.acknowledge
  split_ifs
  · exact .refl log new
  · refine of_quorum ?_ ?_
    · unfold QuorumTracker.acknowledge
      split
      · rfl
      · split <;> rfl
    · unfold QuorumTracker.acknowledge
      split
      · exact .refl _ _
      · rename_i a ha
        split
        · exact .refl _ _
        · rename_i hv
          exact progressFrom_raise log.quorum (h a ha hv)

theorem acknowledgeInSession {ack : ReplicationAck} {session : ProcessSessionId}
    (h : ∀ a, log.quorum.authority = some a → a.validateAcknowledgement ack = .ok () →
      new ack.receiver ack.appliedLsn) :
    LogAdvance log (log.acknowledgeInSession ack session).2 new := by
  unfold ReplicationLog.acknowledgeInSession
  split_ifs with he
  · exact .refl log new
  · simp only [QuorumTracker.acknowledgeInSession]
    split_ifs with hs
    · exact .refl log new
    · have hack := acknowledge h
      rw [ReplicationLog.acknowledge, if_neg he] at hack
      exact hack

end LogAdvance

end Kuberic
