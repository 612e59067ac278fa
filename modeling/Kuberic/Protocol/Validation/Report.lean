import Kuberic.Protocol.Validation.Status

/-!
# Reports of agents

A report is checked twice: by itself, for contradictions between its role, epoch, configurations and
retained evidence, and against the status, for authority that the status does not give.  The second
check is stricter while a transition is recorded: a member of the accepted configuration then may
not report an older epoch.
-/

namespace Kuberic

open Check

variable [Sha256]

/-! ## A report by itself -/

section Internal

variable (r : AgentReport)

def AgentBuildReport.Malformed (b : AgentBuildReport) : Prop :=
  b.buildId = "" ∨ b.target.replicaId ≤ 0 ∨ b.target.instanceId = "" ∨
    b.target.agentGeneration = "" ∨ b.replicationBoundaryLsn < 0 ∨ b.durableLsn < 0 ∨
    ∃ boundary ∈ b.catchUpBoundaryLsn, boundary < 0

instance (b : AgentBuildReport) : Decidable b.Malformed := by
  unfold AgentBuildReport.Malformed
  infer_instance

/-- The increase that a report retains fits the authority that it reports. -/
def validateScaleUpReport (intent : ScaleUpIntent) : Except ValidationError Unit := do
  validateScaleUp intent
  let current ← demand r.currentConfiguration
    (.invalidScaleUp "scale-up report requires current authority")
  let expanded := intent.currentConfiguration
  rejectIf (r.resourceUid ≠ intent.resourceUid ∨
      ¬(current = expanded ∨ (SameElements current.exactIdentities expanded.exactIdentities ∧
        current.epoch.dataLossNumber = expanded.epoch.dataLossNumber ∧
        expanded.epoch.configurationNumber < current.epoch.configurationNumber)) ∨
      (∃ previous ∈ r.previousConfiguration, ¬(previous = intent.previousConfiguration ∨
        (current ≠ expanded ∧ SameElements previous.exactIdentities current.exactIdentities ∧
          previous.epoch.dataLossNumber = current.epoch.dataLossNumber ∧
          previous.epoch.configurationNumber < current.epoch.configurationNumber))) ∨
      ¬∃ m ∈ current.members, m.identity = r.identity)
    (.invalidScaleUp "report differs from exact scale-up authority")

/-- The error for a report that contradicts itself. -/
def AgentReport.contradiction : ValidationError :=
  .invalidReplicaReportAuthority r.identity.replicaId

/-- The Previous Configuration of a report comes before its Current Configuration. -/
def validateReportedPair (previous current : ConfigurationDescriptor) :
    Except ValidationError Unit :=
  rejectIf (previous.epoch.dataLossNumber ≠ current.epoch.dataLossNumber ∨
    current.epoch.configurationNumber ≤ previous.epoch.configurationNumber ∨
    (¬SameElements previous.replicaIds current.replicaIds ∧ r.secondaryRemovalEvidence = none ∧
      r.scaleUpIntent = none)) r.contradiction

def validateReportInternal : Except ValidationError Unit := do
  rejectIf ((∃ command ∈ r.pendingConfiguration,
      r.pendingOperationId ≠ some command.operationId ∨ command.target ≠ r.identity) ∨
    (r.pendingOperationId = none ∧ r.pendingConfiguration ≠ none)) r.contradiction
  validateSecondaryRemovalReport r
  rejectIf (r.scaleUpIntent ≠ none ∧ r.secondaryRemovalEvidence ≠ none)
    (.invalidScaleUp "report cannot combine scale-up and removal evidence")
  rejectIf ((∃ b ∈ r.builds, b.Malformed) ∨ ¬(r.builds.map (·.buildId)).Nodup) r.contradiction
  onSome r.scaleUpIntent (validateScaleUpReport r)
  rejectIf (r.previousConfiguration ≠ none ∧ r.currentConfiguration = none) r.contradiction
  rejectIf (∃ current ∈ r.currentConfiguration, current.epoch ≠ r.epoch) r.contradiction
  rejectIf (r.role = .primary ∧ r.currentConfiguration = none) r.contradiction
  rejectIf (r.writeStatus = .granted ∧ r.role ≠ .primary) r.contradiction
  rejectIf (∃ verified ∈ r.verifiedReplicationLsn, verified < 0 ∨ r.currentProgress < verified ∨
    r.currentConfiguration = none) r.contradiction
  onSome r.preparedSwitchover fun handoff => do
    validateSwitchoverHandoff handoff
    rejectIf (handoff.source ≠ r.identity) .invalidSwitchoverHandoff
  onSome r.previousConfiguration fun previous =>
    onSome r.currentConfiguration fun current => validateReportedPair r previous current

end Internal

/-! ## A report against the status -/

def ConfigurationDescriptor.HasMember (c : ConfigurationDescriptor) (i : ReplicaIdentity) : Prop :=
  ∃ m ∈ c.members, m.identity = i

instance (c : ConfigurationDescriptor) (i : ReplicaIdentity) : Decidable (c.HasMember i) := by
  unfold ConfigurationDescriptor.HasMember
  infer_instance

/-- The member with an exact identity. -/
def ConfigurationDescriptor.member? (c : ConfigurationDescriptor) (i : ReplicaIdentity) :
    Option ConfigurationMember :=
  c.members.find? fun m => m.identity = i

/-- The configuration has a member of the same logical id and instance. -/
def ConfigurationDescriptor.HasInstance (c : ConfigurationDescriptor) (k : ReplicaObservationKey) :
    Prop :=
  ∃ m ∈ c.members, m.identity.observationKey = k

instance (c : ConfigurationDescriptor) (k : ReplicaObservationKey) : Decidable (c.HasInstance k) := by
  unfold ConfigurationDescriptor.HasInstance
  infer_instance

section Authority

variable (status : AcceptedStatus) (r : AgentReport)

namespace AcceptedStatus

/-- The Current Configuration of the active transition. -/
def current : Option ConfigurationDescriptor := status.transition.map (·.currentConfiguration)

/-- The certificate of a removal that the accepted topology results from. -/
def committedRemoval : Option SecondaryScaleDownCleanup :=
  status.secondaryScaleDownCleanup.or ((status.lastSecondaryRemoval.filter fun receipt =>
    status.accepted = some receipt.evidence.preparation.intent.currentConfiguration).map
      (·.committed))

/-- The removal that is active or that the accepted topology results from. -/
def removal : Option SecondaryScaleDownIntent :=
  (status.transition.bind (·.secondaryScaleDown)).or
    (status.committedRemoval.map (·.evidence.preparation.intent))

/-- The evidence that the removal was admitted with. -/
def frozenRemovalEvidence : Option SecondaryRemovalEvidence :=
  (status.transition.bind (·.secondaryRemovalEvidence)).or
    ((status.committedRemoval.filter fun c =>
      status.removal = some c.evidence.preparation.intent).map (·.evidence))

/-- A completed certificate remains evidence of local history after accepted authority advances, but
never authorizes work or access at that authority. -/
def StaleCompleted (receipt : SecondaryRemovalReceipt) : Prop :=
  (∃ accepted ∈ status.accepted, r.epoch < accepted.epoch ∧ accepted.HasMember r.identity) ∧
    r.writeStatus ≠ .granted ∧ r.previousConfiguration = none ∧
    r.preparedSecondaryRemoval = none ∧
    r.currentConfiguration = some receipt.evidence.preparation.intent.currentConfiguration ∧
    r.secondaryRemovalEvidence = some receipt.evidence ∧
    ∀ accepted ∈ r.acceptedSecondaryRemoval, accepted.evidence = receipt.evidence ∧
      accepted.currentOnlyWriteQuorum = receipt.currentOnlyWriteQuorum

instance (receipt : SecondaryRemovalReceipt) : Decidable (status.StaleCompleted r receipt) := by
  unfold StaleCompleted
  infer_instance

/-- A removal that the report retains from the authority that the status starts from. -/
def HistoricalRemoval (intent : SecondaryScaleDownIntent) : Prop :=
  ∃ evidence ∈ r.secondaryRemovalEvidence, evidence.preparation.intent = intent ∧
    r.previousConfiguration = none ∧
    (∀ p ∈ r.preparedSecondaryRemoval, status.removal = some p.intent) ∧
    r.currentConfiguration = some intent.currentConfiguration ∧
    ∃ accepted ∈ status.accepted, accepted = intent.currentConfiguration ∨
      ∃ active ∈ status.removal, active.previousConfiguration = intent.currentConfiguration

instance (intent : SecondaryScaleDownIntent) : Decidable (status.HistoricalRemoval r intent) := by
  unfold HistoricalRemoval
  infer_instance

end AcceptedStatus

/-- The removals that a report retains something of. -/
def AgentReport.removals : List SecondaryScaleDownIntent :=
  (r.preparedSecondaryRemoval.map (·.intent)).toList ++
    (r.secondaryRemovalEvidence.map (·.preparation.intent)).toList ++
    (r.retiredReplica.map (·.intent)).toList

/-- The evidence of a report agrees with the evidence that the removal was admitted with. -/
def validateRetainedEvidence (evidence : SecondaryRemovalEvidence) : Except ValidationError Unit := do
  let frozen ← demand status.frozenRemovalEvidence
    (.invalidSecondaryScaleDown "report does not retain the frozen admission evidence")
  rejectIf (evidence.preparation ≠ frozen.preparation ∨
      evidence.previousReadQuorum ≠ frozen.previousReadQuorum ∨
      ¬((r.previousConfiguration ≠ none ∧ evidence.reducedWriteQuorum = []) ∨
        evidence.reducedWriteQuorum = frozen.reducedWriteQuorum))
    (.invalidSecondaryScaleDown "report does not retain the frozen admission evidence")

/-- What a report says about removals is what the status authorizes. -/
def validateReportedRemoval : Except ValidationError Unit := do
  each (fun intent => rejectIf (status.removal ≠ some intent ∧ ¬status.HistoricalRemoval r intent ∧
      ¬∃ receipt ∈ status.lastSecondaryRemoval, status.StaleCompleted r receipt ∧
        receipt.evidence.preparation.intent = intent)
    (.invalidSecondaryScaleDown "report is not authorized by the frozen removal")) r.removals
  rejectIf (∃ intent ∈ status.removal,
      (∃ c ∈ r.acceptedSecondaryRemoval, c.evidence.preparation.intent = intent) ∧
      ∀ c ∈ status.committedRemoval, c.evidence.preparation.intent ≠ intent)
    (.invalidSecondaryScaleDown "local acceptance cannot precede committed cluster topology")
  rejectIf (∃ committed ∈ status.committedRemoval, ∃ reported ∈ r.acceptedSecondaryRemoval,
      reported.evidence.preparation.intent = committed.evidence.preparation.intent ∧
      (reported.evidence ≠ committed.evidence ∨
        reported.currentOnlyWriteQuorum ≠ committed.currentOnlyWriteQuorum))
    (.invalidSecondaryScaleDown "local acceptance must retain the exact committed quorum evidence")
  rejectIf (∃ intent ∈ status.removal, r.currentConfiguration = some intent.currentConfiguration ∧
      (r.secondaryRemovalEvidence = none ∨
        ((∃ t ∈ status.transition, t.secondaryScaleDown = some intent) ∧ r.writeStatus = .granted)))
    (.invalidSecondaryScaleDown "reduced authority requires evidence and pre-commit write closure")
  onSome (r.secondaryRemovalEvidence.filter fun e => status.removal = some e.preparation.intent)
    (validateRetainedEvidence status r)
  rejectIf (∃ frozen ∈ status.frozenRemovalEvidence, ∃ prepared ∈ r.preparedSecondaryRemoval,
      prepared ≠ frozen.preparation)
    (.invalidSecondaryScaleDown "preparation differs from frozen admission boundary")

/-- A provisioned replica outside the membership claims nothing. -/
def validateProvisionedReport : Except ValidationError Unit :=
  rejectIf ((r.role ≠ .none ∧ r.role ≠ .idleSecondary) ∨ r.writeStatus = .granted ∨
    r.epoch ≠ default ∨ r.previousConfiguration ≠ none ∨ r.currentConfiguration ≠ none)
    (.provisioningClaimsAuthority r.identity.replicaId)

/-- A member of the genesis configuration before its topology is accepted. -/
def validateBootstrapReport (t : TransitionIntent) : Except ValidationError Unit := do
  rejectIf (r.previousConfiguration ≠ none)
    (.bootstrapReportHasPreviousConfiguration r.identity.replicaId)
  rejectIf (r.writeStatus = .granted) (.bootstrapWriteGranted r.identity.replicaId)
  rejectIf (∃ m ∈ t.currentConfiguration.member? r.identity,
    m.role ≠ .primary ∧ r.role = .primary) (.bootstrapRoleConflict r.identity.replicaId)

/-- While a switchover is active, a member reports the accepted, the requested or the current
configuration, and nothing newer than the accepted one before the handoff is frozen. -/
def validateSwitchoverReport (t : TransitionIntent) : Except ValidationError Unit := do
  rejectIf (t.kind = .plannedSwitchover ∧ (∃ accepted ∈ status.accepted, accepted.epoch < r.epoch) ∧
      (r.writeStatus = .granted ∨ ∀ intent ∈ t.switchover, intent.handoff = none))
    .invalidSwitchoverEvidence
  onSome (t.switchover.filter fun _ => (∃ c ∈ status.accepted, c.HasMember r.identity) ∨
      t.currentConfiguration.HasMember r.identity) fun intent =>
    onSome r.currentConfiguration fun reported => do
      rejectIf (status.accepted ≠ some reported ∧ reported ≠ intent.requestedConfiguration ∧
        reported ≠ t.currentConfiguration) .invalidSwitchoverEvidence
      rejectIf (reported = intent.requestedConfiguration ∧
          ∃ previous ∈ r.previousConfiguration, some previous ≠ status.accepted)
        (.reportedPreviousConfigurationMismatch r.identity.replicaId)

/-- The Previous Configuration that members of the active transition report. -/
def AcceptedStatus.transitionPrevious (t : TransitionIntent) : Option ConfigurationDescriptor :=
  ((t.switchover.filter fun intent => intent.resolution = .compensatingOldPrimary).map
    (·.requestedConfiguration)).or status.accepted

/-- A report of the transition's configuration names the Previous Configuration that was frozen. -/
def validateReportedPrevious (t : TransitionIntent) : Except ValidationError Unit :=
  rejectIf (t.kind ≠ .bootstrap ∧ r.epoch = t.currentConfiguration.epoch ∧
      (∃ current ∈ r.currentConfiguration,
        current.configurationId = t.currentConfiguration.configurationId) ∧
      ∃ previous ∈ r.previousConfiguration, status.transitionPrevious t ≠ some previous)
    (.reportedPreviousConfigurationMismatch r.identity.replicaId)

/-- A replica outside the accepted and the current membership. -/
def validateUnrelatedReport : Except ValidationError Unit := do
  rejectIf (∃ t ∈ status.transition, t.kind = .bootstrap) .bootstrapHasUnrelatedAuthority
  rejectIf (r.role = .primary ∨ r.writeStatus = .granted)
    (.unrelatedReplicaClaimsAuthority r.identity.replicaId)

/-- The configurations that the status knows at its epochs. -/
def AcceptedStatus.knownConfigurations : List ConfigurationDescriptor :=
  status.accepted.toList ++
    ((status.transition.bind (·.switchover)).map (·.requestedConfiguration)).toList ++
    status.current.toList

/-- A member that is not behind the accepted epoch reports a configuration that the status knows at
that epoch, and writes only under the accepted or the current one. -/
def validateMemberConfiguration : Except ValidationError Unit := do
  each (fun c => rejectIf (r.epoch = c.epoch ∧
      ∃ observed ∈ r.currentConfiguration, observed.configurationId ≠ c.configurationId)
    (.conflictingReplicaConfiguration r.identity.replicaId r.epoch)) status.knownConfigurations
  rejectIf (r.writeStatus = .granted ∧ ¬∃ c ∈ status.current.toList ++ status.accepted.toList,
      r.epoch = c.epoch ∧ ∃ observed ∈ r.currentConfiguration,
        observed.configurationId = c.configurationId)
    (.conflictingReplicaConfiguration r.identity.replicaId r.epoch)

/-- The accepted member that reports an epoch below the accepted one, with that epoch. -/
def AcceptedStatus.staleMember : Option (ConfigurationMember × Epoch) := do
  let accepted ← status.accepted
  let member ← accepted.member? r.identity
  if r.epoch < accepted.epoch then some (member, accepted.epoch) else none

/-- A member of the accepted or the current membership.  A secondary may be behind the accepted epoch
only while there is no transition. -/
def validateMemberReport : Except ValidationError Unit := do
  onSome (status.current.or status.accepted) fun highest => rejectIf (highest.epoch < r.epoch)
    (.unauthorizedReplicaEpoch r.identity.replicaId r.epoch highest.epoch)
  match status.staleMember r with
  | some (member, accepted) =>
    rejectIf (status.transition ≠ none ∨ member.role = .primary)
      (.staleReplicaEpoch r.identity.replicaId r.epoch accepted)
  | none => validateMemberConfiguration status r

/-- What a report of an established replica is checked for. -/
def validateEstablishedReport : Except ValidationError Unit := do
  let exact := (∃ c ∈ status.accepted, c.HasMember r.identity) ∨
    ∃ c ∈ status.current, c.HasMember r.identity
  rejectIf (¬exact ∧ ((∃ c ∈ status.accepted, c.HasInstance r.identity.observationKey) ∨
      ∃ c ∈ status.current, c.HasInstance r.identity.observationKey))
    (.conflictingReplicaIdentity r.identity.replicaId)
  onSome (status.transition.filter fun t => t.kind = .bootstrap ∧
    t.currentConfiguration.HasMember r.identity) (validateBootstrapReport r)
  onSome status.transition (validateSwitchoverReport status r)
  onSome status.transition (validateReportedPrevious status r)
  if exact then validateMemberReport status r else validateUnrelatedReport status r

end Authority

def validateReportAuthority (s : ObservationSnapshot) (r : AgentReport) :
    Except ValidationError Unit := do
  validateReportedRemoval s.status r
  if s.status.transition = none ∧ ∃ p ∈ s.status.provisioning,
      p.targetIdentity s.resourceUid = r.identity then validateProvisionedReport r
  else validateEstablishedReport s.status r

end Kuberic
