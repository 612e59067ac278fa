import Kuberic.Protocol.Validation.ScaleDown
import Kuberic.Replicator.Quorum

/-!
# Witnesses of a secondary removal

While a removal is in progress the quorum tracker takes credit for a peer only from exact reports of
its registered session.  A witness of the transition, or of the committed reduction afterwards,
enters the verified progress of its identity together with the witness itself.
-/

namespace Kuberic

namespace QuorumTracker

variable [Sha256]

/-- The stage that the peers of an authority report. -/
def removalStage (a : ManagedReplicaConfiguration) : SecondaryRemovalStage :=
  if a.previousConfiguration.isSome then .previousCurrent else .currentOnly

/-- The witness does not prove that its peer holds the boundary under the authority `a`. -/
def RefusesWitness (t : QuorumTracker) (a : ManagedReplicaConfiguration)
    (evidence : SecondaryRemovalEvidence) (w : SecondaryRemovalWitness) : Prop :=
  let intent := evidence.preparation.intent
  w.identity = a.localIdentity ∨ t.sessions.get? w.identity ≠ some w.processSessionId ∨
    w.resourceUid ≠ intent.resourceUid ∨
    (¬∃ m ∈ intent.currentConfiguration.members, m.identity = w.identity ∧ m.role = w.role) ∨
    w.epoch ≠ a.currentConfiguration.epoch ∨
    w.currentConfigurationId ≠ a.currentConfiguration.configurationId ∨
    w.previousConfigurationId ≠ a.fence.previousConfigurationId ∨ w.reportSequence = 0 ∨
    w.verifiedReplicationLsn < evidence.preparation.boundaryLsn ∨ w.pendingOperationId ≠ none ∨
    w.writeStatus = .granted ∨
    w.retainedOperationId ≠ some (intent.commandOperationId (removalStage a) w.identity) ∨
    (∃ v ∈ t.verified.get? w.identity, w.reportSequence ≤ v.1) ∨
    ∃ old ∈ evidence.previousReadQuorum ++
      (if a.previousConfiguration.isNone then evidence.reducedWriteQuorum else []), w.NotFresh old

instance (t : QuorumTracker) (a : ManagedReplicaConfiguration) (evidence : SecondaryRemovalEvidence)
    (w : SecondaryRemovalWitness) : Decidable (t.RefusesWitness a evidence w) := by
  unfold RefusesWitness
  infer_instance

/-- Take credit for a witness. -/
def credit (t : QuorumTracker) (w : SecondaryRemovalWitness) : QuorumTracker :=
  { t with
    verified := t.verified.insert w.identity (w.reportSequence, w.verifiedReplicationLsn)
    witnesses := t.witnesses.insert w.identity w }

def observeSecondaryRemoval (t : QuorumTracker) (w : SecondaryRemovalWitness) :
    Result Unit × QuorumTracker :=
  if t.witnesses.get? w.identity = some w ∧ t.liveCommits.contains w.identity = false then
    (.ok (), t)
  else match t.authority with
  | none => (.error .authorityNotAdmitted, t)
  | some a => match a.secondaryRemoval with
    | none => (.error .reconfigurationPending, t)
    | some evidence =>
      if t.RefusesWitness a evidence w then
        (.error (.authorityMismatch "stale or unverified reduced-quorum witness"), t)
      else (.ok (), t.credit w)

/-- The operation that a peer retains once the reduction is committed: the last stage, its
acceptance, or a change of availability of the primary. -/
def RetainsCommitted (intent : SecondaryScaleDownIntent) (w : SecondaryRemovalWitness) : Prop :=
  w.retainedOperationId = some (intent.commandOperationId .currentOnly w.identity) ∨
    w.retainedOperationId = some (intent.commandOperationId .acceptCommit w.identity) ∨
    (w.identity = intent.primary ∧
      w.retainedOperationId = some ("availability:" ++ intent.currentConfiguration.configurationId ++
        ":" ++ if w.writeStatus = .granted then "grant-write" else "no-write-quorum"))

/-- The proof of a live commit differs from the certificate `committed`. -/
def DiffersFromLive (t : QuorumTracker) (committed : SecondaryScaleDownCleanup) : Prop :=
  ∃ old ∈ t.liveCommits.values, old.evidence ≠ committed.evidence ∨
    old.currentOnlyWriteQuorum ≠ committed.currentOnlyWriteQuorum

def RefusesProgress (t : QuorumTracker) (a : ManagedReplicaConfiguration)
    (w : SecondaryRemovalWitness) (committed : SecondaryScaleDownCleanup) : Prop :=
  let intent := committed.evidence.preparation.intent
  a.previousConfiguration ≠ none ∨ a.secondaryRemoval ≠ some committed.evidence ∨
    a.currentConfiguration ≠ intent.currentConfiguration ∨ w.identity = a.localIdentity ∨
    t.sessions.get? w.identity ≠ some w.processSessionId ∨ w.resourceUid ≠ intent.resourceUid ∨
    w.epoch ≠ intent.currentConfiguration.epoch ∨ w.previousConfigurationId ≠ none ∨
    w.currentConfigurationId ≠ intent.currentConfiguration.configurationId ∨
    (¬∃ m ∈ intent.currentConfiguration.members, m.identity = w.identity ∧ m.role = w.role) ∨
    w.reportSequence = 0 ∨
    w.verifiedReplicationLsn < committed.evidence.preparation.boundaryLsn ∨
    w.pendingOperationId ≠ none ∨ (w.writeStatus = .granted ∧ w.identity ≠ intent.primary) ∨
    ¬RetainsCommitted intent w ∨ t.DiffersFromLive committed

instance (t : QuorumTracker) (a : ManagedReplicaConfiguration) (w : SecondaryRemovalWitness)
    (committed : SecondaryScaleDownCleanup) : Decidable (t.RefusesProgress a w committed) := by
  unfold RefusesProgress RetainsCommitted DiffersFromLive
  infer_instance

/-- Fresh progress for an already committed reduction is not a transition witness. -/
def observeSecondaryRemovalProgress (t : QuorumTracker) (w : SecondaryRemovalWitness)
    (committed : SecondaryScaleDownCleanup) : Result Unit × QuorumTracker :=
  match validateSecondaryScaleDownCleanup committed with
  | .error e => (.error (.authorityMismatch e.message), t)
  | .ok () => match t.authority with
    | none => (.error .authorityNotAdmitted, t)
    | some a =>
      if t.RefusesProgress a w committed then
        (.error (.authorityMismatch "invalid committed-removal live progress"), t)
      else if t.witnesses.get? w.identity = some w ∧ t.liveCommits.contains w.identity then
        (.ok (), t)
      else if (∃ v ∈ t.verified.get? w.identity, w.reportSequence ≤ v.1) ∨
          ∃ old ∈ committed.currentOnlyWriteQuorum, w.NotFresh old then
        (.error (.authorityMismatch "stale committed-removal live progress"), t)
      else
        (.ok (), { t.credit w with liveCommits := t.liveCommits.insert w.identity committed })

/-- The tracker already has credit that covers a frozen witness. -/
def CoversWitness (current w : SecondaryRemovalWitness) : Prop :=
  current.processSessionId = w.processSessionId ∧ current.resourceUid = w.resourceUid ∧
    current.role = w.role ∧ current.epoch = w.epoch ∧
    current.currentConfigurationId = w.currentConfigurationId ∧
    current.previousConfigurationId = w.previousConfigurationId ∧
    w.reportSequence ≤ current.reportSequence ∧
    w.verifiedReplicationLsn ≤ current.verifiedReplicationLsn

instance (current w : SecondaryRemovalWitness) : Decidable (CoversWitness current w) := by
  unfold CoversWitness
  infer_instance

/-- A frozen certificate authorizes the configuration, not the credit of an obsolete session. -/
def observeCommittedSecondaryRemoval (t : QuorumTracker) (w : SecondaryRemovalWitness) :
    Result Unit × QuorumTracker :=
  if t.sessions.get? w.identity ≠ some w.processSessionId then (.ok (), t)
  else if ∃ current ∈ t.witnesses.get? w.identity, CoversWitness current w then (.ok (), t)
  else t.observeSecondaryRemoval w

def restoreCommittedSecondaryRemoval (t : QuorumTracker) (w : SecondaryRemovalWitness) :
    Result Unit × QuorumTracker :=
  if t.sessions.contains w.identity then t.observeCommittedSecondaryRemoval w
  else match t.registerPeerSession w.identity w.processSessionId with
    | (.error e, t') => (.error e, t')
    | (.ok (), t') => t'.observeCommittedSecondaryRemoval w

/-! ## What an observation can do -/

/-- An observation leaves the tracker alone or takes credit for an exact witness of a registered
peer. -/
theorem observeSecondaryRemoval_cases (t : QuorumTracker) (w : SecondaryRemovalWitness) :
    (t.observeSecondaryRemoval w).2 = t ∨
      ∃ a evidence, t.authority = some a ∧ a.secondaryRemoval = some evidence ∧
        ¬t.RefusesWitness a evidence w ∧ (t.observeSecondaryRemoval w).2 = t.credit w := by
  unfold observeSecondaryRemoval
  split_ifs with hknown
  · exact .inl rfl
  split
  · exact .inl rfl
  next a ha =>
    split
    · exact .inl rfl
    next evidence he =>
      split_ifs with hrefuse
      · exact .inl rfl
      · exact .inr ⟨a, evidence, ha, he, hrefuse, rfl⟩

theorem observeSecondaryRemovalProgress_cases (t : QuorumTracker) (w : SecondaryRemovalWitness)
    (committed : SecondaryScaleDownCleanup) :
    (t.observeSecondaryRemovalProgress w committed).2 = t ∨
      ∃ a, t.authority = some a ∧ ¬t.RefusesProgress a w committed ∧
        (t.observeSecondaryRemovalProgress w committed).2 =
          { t.credit w with liveCommits := t.liveCommits.insert w.identity committed } := by
  unfold observeSecondaryRemovalProgress
  split
  · exact .inl rfl
  split
  · exact .inl rfl
  next a ha =>
    split_ifs with hrefuse hknown hstale
    · exact .inl rfl
    · exact .inl rfl
    · exact .inl rfl
    · exact .inr ⟨a, ha, hrefuse, rfl⟩

theorem observeCommittedSecondaryRemoval_cases (t : QuorumTracker) (w : SecondaryRemovalWitness) :
    (t.observeCommittedSecondaryRemoval w).2 = t ∨
      (t.observeCommittedSecondaryRemoval w).2 = (t.observeSecondaryRemoval w).2 := by
  unfold observeCommittedSecondaryRemoval
  split_ifs
  · exact .inl rfl
  · exact .inl rfl
  · exact .inr rfl

theorem restoreCommittedSecondaryRemoval_cases (t : QuorumTracker) (w : SecondaryRemovalWitness) :
    ∃ t', (t' = t ∨ t' = (t.registerPeerSession w.identity w.processSessionId).2) ∧
      ((t.restoreCommittedSecondaryRemoval w).2 = t' ∨
        (t.restoreCommittedSecondaryRemoval w).2 = (t'.observeSecondaryRemoval w).2) := by
  unfold restoreCommittedSecondaryRemoval
  split_ifs
  · exact ⟨t, .inl rfl, observeCommittedSecondaryRemoval_cases t w⟩
  split
  next e t' h => exact ⟨t', .inr (by rw [h]), .inl rfl⟩
  next t' h => exact ⟨t', .inr (by rw [h]), observeCommittedSecondaryRemoval_cases t' w⟩

end QuorumTracker

end Kuberic
