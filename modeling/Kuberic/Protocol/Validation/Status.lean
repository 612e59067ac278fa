import Kuberic.Protocol.Validation.ScaleDown
import Kuberic.Protocol.Validation.ScaleUp

/-!
# The accepted status

A status is valid if each intent, receipt and observation that it carries is valid by itself, binds
the accepted configuration and policy, and does not stand beside an intent that excludes it.  The
active transition is checked by its kind against the accepted configuration.
-/

namespace Kuberic

open Check

variable [Sha256]

/-- The membership increase that a transition carries, directly or through a failover. -/
def TransitionIntent.carriedScaleUp (t : TransitionIntent) : Option ScaleUpIntent :=
  t.scaleUp.or (t.scaleUpFailover.map (·.intent))

section

variable (status : AcceptedStatus)

/-! ## Allocation and admission -/

/-- The logical id that an increase of the accepted membership would add. -/
def AcceptedStatus.nextReplicaId : Option ReplicaId := do
  let configuration ← status.accepted
  let policy ← status.effectivePolicy
  if policy.replicaSetSize < u32Max then
    firstMissingId (policy.replicaSetSize + 1) configuration.replicaIds
  else none

def validateAllocationStatus (a : ScaleUpAllocation) : Except ValidationError Unit := do
  validateScaleUpAllocation a
  rejectIf (status.initialized = false ∨
      (∀ c ∈ status.accepted, c.configurationId ≠ a.acceptedConfigurationId) ∨
      (∀ policy ∈ status.effectivePolicy,
        policy.replicaSetSize = u32Max ∨ a.desiredReplicas ≤ policy.replicaSetSize) ∨
      status.nextReplicaId ≠ some a.targetReplicaId ∨ status.provisioning ≠ none ∨
      (∃ t ∈ status.transition, t.kind ≠ .failover ∨ t.scaleUp ≠ none ∨ t.scaleUpFailover ≠ none ∨
        t.previousConfigurationId ≠ some a.acceptedConfigurationId) ∨
      status.scaleUpCleanup ≠ none ∨ status.secondaryScaleDownCleanup ≠ none ∨
      status.pendingReplacementCleanup ≠ none ∨ status.lastReplacement ≠ none)
    (.invalidScaleUp "allocation must bind compatible accepted or failover authority")

/-- The admission fence of an increase names the increase that the transition carries. -/
def validateAdmissionStarted : Except ValidationError Unit :=
  rejectIf (∃ operationId ∈ status.scaleUpAdmissionStarted,
      ∀ intent ∈ status.transition.bind (·.carriedScaleUp), intent.operationId ≠ operationId)
    (.invalidScaleUp "scale-up admission-start fence differs from active authority")

/-! ## Replacement -/

/-- A transition that does not fit the cleanup of the replacement that is pending. -/
def ReplacementCleanup.ConflictsWith (c : ReplacementCleanup) (accepted : ConfigurationDescriptor)
    (t : TransitionIntent) : Prop :=
  (t.kind ≠ .replacement ∧ t.kind ≠ .failover) ∨
    (∃ old ∈ accepted.members,
      (¬∃ new ∈ t.currentConfiguration.members, new.identity = old.identity) ∧
        old.identity ≠ c.target) ∨
    ((¬∃ m ∈ t.currentConfiguration.members, m.identity = c.target) ∧
      t.transitionId ≠ c.transitionId t.kind t.currentConfiguration.configurationId)

instance (c : ReplacementCleanup) (accepted : ConfigurationDescriptor) (t : TransitionIntent) :
    Decidable (c.ConflictsWith accepted t) := by
  unfold ReplacementCleanup.ConflictsWith
  infer_instance

def validatePendingReplacement (c : ReplacementCleanup) : Except ValidationError Unit := do
  validateReplacementCleanup c
  let accepted ← demand status.accepted .invalidReplacementCleanup
  rejectIf (status.lastReplacement ≠ none ∨ status.secondaryScaleDownCleanup ≠ none ∨
      status.scaleUpCleanup ≠ none ∨ (¬∃ m ∈ accepted.members, m.identity = c.target) ∨
      (∃ p ∈ status.provisioning, p.replacement ≠ some c.target ∨ p.podUid = c.target.instanceId ∨
        c.resources.pvc.uid? = some p.pvcUid ∨
        p.operationId ≠ c.provisioningOperationId p.podUid p.pvcUid) ∨
      ∃ t ∈ status.transition, c.ConflictsWith accepted t)
    .invalidReplacementCleanup

def validateLastReplacement (c : ReplacementCleanup) : Except ValidationError Unit := do
  validateReplacementCleanup c
  rejectIf (status.provisioning ≠ none ∨ status.transition ≠ none ∨
      status.secondaryScaleDownCleanup ≠ none ∨ status.scaleUpCleanup ≠ none ∨
      ∀ accepted ∈ status.accepted, ¬∃ m ∈ accepted.members,
        m.identity.replicaId = c.target.replicaId ∧ m.identity.instanceId ≠ c.target.instanceId)
    .invalidReplacementCleanup

/-- Two resources of the same name or the same uid. -/
def CleanupResourceIdentity.Overlaps (a b : CleanupResourceIdentity) : Prop :=
  a.name = b.name ∨ ∃ uid ∈ a.uid?, b.uid? = some uid

instance (a b : CleanupResourceIdentity) : Decidable (a.Overlaps b) := by
  unfold CleanupResourceIdentity.Overlaps
  infer_instance

/-- The cleanup of a replacement does not touch the resources of the last removed secondary. -/
def validateReplacementProtection : Except ValidationError Unit :=
  onSome (status.pendingReplacementCleanup.or status.lastReplacement) fun cleanup =>
    onSome status.lastSecondaryRemoval fun receipt =>
      let removed := receipt.evidence.preparation.intent.cleanup
      rejectIf (cleanup.resources.pod.Overlaps removed.pod ∨
        cleanup.resources.pvc.Overlaps removed.pvc ∨
        cleanup.resources.endpoint.Overlaps removed.endpoint) .invalidReplacementCleanup

/-! ## Membership changes -/

/-- The accepted authority is older than `configuration`, or another one of the same epoch. -/
def AcceptedStatus.Precedes (configuration : ConfigurationDescriptor) (policy : EffectivePolicy) :
    Prop :=
  ∀ accepted ∈ status.accepted, accepted.epoch < configuration.epoch ∨
    (accepted.epoch = configuration.epoch ∧
      (accepted ≠ configuration ∨ status.effectivePolicy ≠ some policy))

instance (configuration : ConfigurationDescriptor) (policy : EffectivePolicy) :
    Decidable (status.Precedes configuration policy) := by
  unfold AcceptedStatus.Precedes
  infer_instance

/-- The accepted authority has the exact membership that an increase started from. -/
def AcceptedStatus.Continues (s : ScaleUpProvisioning) : Prop :=
  ∃ accepted ∈ status.accepted, s.previousConfiguration.epoch ≤ accepted.epoch ∧
    SameElements accepted.exactIdentities s.previousConfiguration.exactIdentities

instance (s : ScaleUpProvisioning) : Decidable (status.Continues s) := by
  unfold AcceptedStatus.Continues
  infer_instance

def validateLastSecondaryRemoval (r : SecondaryRemovalReceipt) : Except ValidationError Unit := do
  validateSecondaryScaleDownCleanup r.committed
  let intent := r.evidence.preparation.intent
  rejectIf (status.secondaryScaleDownCleanup ≠ none ∨
      status.Precedes intent.currentConfiguration intent.currentPolicy)
    (.invalidSecondaryScaleDown
      "completed removal must bind accepted or superseded authority without cleanup")

/-- A failover that may run while the resources of a cancelled increase are cleaned up. -/
def ScaleUpCleanup.Allows (c : ScaleUpCleanup) (t : TransitionIntent) : Prop :=
  t.kind = .failover ∧ t.scaleUp = none ∧ t.scaleUpFailover = none ∧
    ¬∃ m ∈ t.currentConfiguration.members,
      m.identity.replicaId = c.target.replicaId ∨ m.identity = c.target

instance (c : ScaleUpCleanup) (t : TransitionIntent) : Decidable (c.Allows t) := by
  unfold ScaleUpCleanup.Allows
  infer_instance

def validateScaleUpCleanupStatus (c : ScaleUpCleanup) : Except ValidationError Unit := do
  validateScaleUpCleanup c
  let scaleUp ← demand c.provisioning.scaleUp
    (.invalidScaleUp "cleanup requires scale-up provisioning")
  rejectIf (status.provisioning ≠ none ∨ (∃ t ∈ status.transition, ¬c.Allows t) ∨
      status.secondaryScaleDownCleanup ≠ none ∨ status.pendingReplacementCleanup ≠ none ∨
      status.lastReplacement ≠ none ∨ ¬status.Continues scaleUp ∨
      status.effectivePolicy ≠ some scaleUp.previousPolicy)
    (.invalidScaleUp "cleanup must bind uncommitted accepted authority")

def validateLastScaleUp (r : ScaleUpReceipt) : Except ValidationError Unit := do
  validateScaleUpReceipt r
  rejectIf (status.Precedes r.acceptedConfiguration r.intent.currentPolicy)
    (.invalidScaleUp "completed scale-up must bind accepted or superseded authority")

def validateScaleDownCleanupStatus (c : SecondaryScaleDownCleanup) :
    Except ValidationError Unit := do
  validateSecondaryScaleDownCleanup c
  let intent := c.evidence.preparation.intent
  rejectIf (status.transition ≠ none ∨ status.provisioning ≠ none ∨ status.primaryFailure ≠ none ∨
      status.scaleUpCleanup ≠ none ∨ status.accepted ≠ some intent.currentConfiguration ∨
      status.effectivePolicy ≠ some intent.currentPolicy)
    (.invalidSecondaryScaleDown "cleanup must exclusively bind accepted reduced authority")

/-! ## Initialization and provisioning -/

def validateInitialization : Except ValidationError Unit := do
  rejectIf (status.initialized = true ∧ status.topology = none) .initializedWithoutTopology
  rejectIf (status.initialized = false ∧ status.topology ≠ none) .topologyBeforeInitialization
  rejectIf (status.initialized = true ∧ status.effectivePolicy = none) .initializedWithoutPolicy
  rejectIf (status.initialized = false ∧ status.effectivePolicy ≠ none ∧ status.transition = none)
    .policyBeforeInitialization

/-- The transition carries on with the increase that the provisioning intent started. -/
def ProvisioningIntent.CarriedBy (p : ProvisioningIntent) (t : TransitionIntent) : Prop :=
  ∃ intent ∈ t.carriedScaleUp, ∃ frozen ∈ p.scaleUp,
    frozen.resourceUid = intent.resourceUid ∧ frozen.specGeneration = intent.specGeneration ∧
    frozen.desiredReplicas = intent.desiredReplicas ∧
    frozen.previousConfiguration = intent.previousConfiguration ∧
    frozen.previousPolicy = intent.previousPolicy ∧ frozen.currentPolicy = intent.currentPolicy ∧
    p.targetIdentity intent.resourceUid = intent.target ∧
    p.scaleUpBuildId intent.resourceUid = some intent.buildId

instance (p : ProvisioningIntent) (t : TransitionIntent) : Decidable (p.CarriedBy t) := by
  unfold ProvisioningIntent.CarriedBy
  infer_instance

/-- A failover of the membership without the provisioned replica, which is cleaned up later. -/
def ProvisioningIntent.DeferredBy (p : ProvisioningIntent) (t : TransitionIntent) : Prop :=
  ∃ frozen ∈ p.scaleUp, t.kind = .failover ∧ t.scaleUp = none ∧ t.scaleUpFailover = none ∧
    t.effectivePolicy = frozen.previousPolicy ∧
    frozen.previousConfiguration.epoch < t.currentConfiguration.epoch ∧
    SameElements t.currentConfiguration.exactIdentities
      frozen.previousConfiguration.exactIdentities ∧
    ¬∃ m ∈ t.currentConfiguration.members, m.identity = p.targetIdentity frozen.resourceUid

instance (p : ProvisioningIntent) (t : TransitionIntent) : Decidable (p.DeferredBy t) := by
  unfold ProvisioningIntent.DeferredBy
  infer_instance

def validateProvisioningStatus : Except ValidationError Unit := do
  rejectIf ((∃ t ∈ status.transition, t.scaleUp ≠ none ∨ t.scaleUpFailover ≠ none) ∧
      status.provisioning = none)
    (.invalidScaleUp "active scale-up transition requires exact provisioning provenance")
  rejectIf (∃ p ∈ status.provisioning, ∃ t ∈ status.transition, ¬p.CarriedBy t ∧ ¬p.DeferredBy t)
    .provisioningAndTransition
  rejectIf (status.provisioning ≠ none ∧ (status.initialized = false ∨ status.topology = none))
    .provisioningWithoutTopology
  onSome status.provisioning fun p => do
    validateScaleUpProvisioning p
    rejectIf (∃ scaleUp ∈ p.scaleUp, ¬status.Continues scaleUp ∨
        status.effectivePolicy ≠ some scaleUp.previousPolicy ∨ status.scaleUpCleanup ≠ none)
      (.invalidScaleUp "provisioning differs from accepted authority")

/-! ## Observations of failures -/

/-- The member that a configuration names as its primary, in any role. -/
def ConfigurationDescriptor.primaryById? (c : ConfigurationDescriptor) :
    Option ConfigurationMember :=
  c.members.find? fun m => m.identity.replicaId = c.primaryId

def validateFailureObservations : Except ValidationError Unit := do
  rejectIf (∃ failure ∈ status.primaryFailure,
      (status.accepted.bind (·.primaryById?)).map (·.identity) ≠ some failure.primary)
    .primaryFailureMismatch
  rejectIf (∃ loss ∈ status.quorumLoss,
      status.accepted.map (·.configurationId) ≠ some loss.configurationId) .quorumLossMismatch

/-! ## Transitions -/

variable (t : TransitionIntent)

/-- The transition of a membership increase is the one that its intent determines. -/
def validateScaleUpTransition : Except ValidationError Unit := do
  let intent ← demand t.scaleUp (.invalidScaleUp "missing frozen scale-up intent")
  validateScaleUp intent
  rejectIf (status.accepted ≠ some intent.previousConfiguration ∨
      status.effectivePolicy ≠ some intent.previousPolicy ∨
      t.effectivePolicy ≠ intent.currentPolicy ∨
      t.currentConfiguration ≠ intent.currentConfiguration ∨
      t.previousConfigurationId ≠ some intent.previousConfiguration.configurationId ∨
      t.specGeneration ≠ intent.specGeneration ∨
      t.transitionId ≠ intent.transitionId .scaleUp intent.currentConfiguration ∨
      t.buildId ≠ some intent.buildId ∨ t.scaleUpFailover ≠ none ∨ t.switchover ≠ none ∨
      t.secondaryScaleDown ≠ none ∨ t.secondaryRemovalEvidence ≠ none ∨ t.repair ≠ none ∨
      t.electionLsn ≠ none ∨
      (status.primaryFailure ≠ none ∧ status.scaleUpAdmissionStarted ≠ none))
    (.invalidScaleUp "transition differs from immutable intent")

/-- The transition of a removal is the one that its intent determines. -/
def validateScaleDownTransition : Except ValidationError Unit := do
  let intent ← demand t.secondaryScaleDown (.invalidSecondaryScaleDown "missing frozen intent")
  validateSecondaryScaleDown intent
  rejectIf (status.accepted ≠ some intent.previousConfiguration ∨
      status.effectivePolicy ≠ some intent.previousPolicy ∨
      t.effectivePolicy ≠ intent.currentPolicy ∨
      t.currentConfiguration ≠ intent.currentConfiguration ∨
      t.previousConfigurationId ≠ some intent.previousConfiguration.configurationId ∨
      t.specGeneration ≠ intent.specGeneration ∨
      t.transitionId ≠ deriveTransitionId intent.resourceUid t.kind
        intent.currentConfiguration.configurationId ∨
      t.switchover ≠ none ∨ t.buildId ≠ none ∨ t.repair ≠ none ∨ t.electionLsn ≠ none ∨
      t.scaleUp ≠ none ∨ t.scaleUpFailover ≠ none ∨ status.primaryFailure ≠ none)
    (.invalidSecondaryScaleDown "transition differs from immutable intent")
  onSome t.secondaryRemovalEvidence fun evidence => do
    validateSecondaryRemovalEvidence evidence false
    rejectIf (evidence.preparation.intent ≠ intent)
      (.invalidSecondaryScaleDown "evidence differs from immutable intent")

/-- The election of a failover that carries an increase is provisional or the final one. -/
def ScaleUpFailoverEvidence.Elects (e : ScaleUpFailoverEvidence) : Prop :=
  match t.electionLsn, e.finalElection with
  | none, none => t.currentConfiguration = e.provisionalConfiguration
  | some electionLsn, some final =>
    final.finalConfiguration e.provisionalConfiguration = some t.currentConfiguration ∧
      final.safeLsn = some electionLsn
  | _, _ => False

instance (e : ScaleUpFailoverEvidence) : Decidable (e.Elects t) := by
  unfold ScaleUpFailoverEvidence.Elects
  cases t.electionLsn <;> cases e.finalElection <;> infer_instance

/-- A failover that carries a membership increase. -/
def validateCarriedFailover (evidence : ScaleUpFailoverEvidence) : Except ValidationError Unit := do
  validateScaleUpFailoverTransition evidence t.currentConfiguration t.effectivePolicy
  let intent := evidence.intent
  rejectIf (status.accepted ≠ some intent.previousConfiguration ∨
      status.effectivePolicy ≠ some intent.previousPolicy ∨
      t.previousConfigurationId ≠ some intent.previousConfiguration.configurationId ∨
      t.specGeneration ≠ intent.specGeneration ∨
      t.transitionId ≠ intent.transitionId .failover t.currentConfiguration ∨
      t.buildId ≠ some intent.buildId ∨ t.scaleUp ≠ none ∨ t.switchover ≠ none ∨
      t.secondaryScaleDown ≠ none ∨ t.secondaryRemovalEvidence ≠ none ∨
      (∃ lsn ∈ t.electionLsn, lsn < 0) ∨ ¬evidence.Elects t)
    (.invalidScaleUp "failover transition differs from carried scale-up authority")

def validateBootstrapTransition : Except ValidationError Unit := do
  rejectIf (t.switchover ≠ none) .unexpectedSwitchoverIntent
  rejectIf (t.previousConfigurationId ≠ none) .bootstrapHasPreviousConfiguration
  rejectIf (t.buildId ≠ none) .invalidReplacementMembership
  rejectIf (t.repair ≠ none) .invalidFailoverRepairTarget
  rejectIf (t.electionLsn ≠ none) .invalidFailoverElectionLsn
  rejectIf (status.topology ≠ none) .bootstrapHasTopology

/-- The accepted configuration, which the transition names as its Previous Configuration. -/
def demandPrevious : Except ValidationError ConfigurationDescriptor := do
  let accepted ← demand status.accepted .transitionWithoutTopology
  rejectIf (t.previousConfigurationId ≠ some accepted.configurationId)
    (.previousConfigurationMismatch t.previousConfigurationId accepted.configurationId)
  return accepted

/-- What a replacement carries beside its configurations. -/
def validateReplacementEvidence : Except ValidationError Unit := do
  rejectIf (t.buildId = none) .invalidReplacementMembership
  rejectIf (t.repair ≠ none) .invalidFailoverRepairTarget
  rejectIf (t.electionLsn ≠ none) .invalidFailoverElectionLsn

/-- What a failover carries beside its configurations. -/
def validateFailoverEvidence (accepted : ConfigurationDescriptor) : Except ValidationError Unit := do
  rejectIf (∀ lsn ∈ t.electionLsn, lsn < 0) .invalidFailoverElectionLsn
  rejectIf (¬SameElements accepted.exactIdentities t.currentConfiguration.exactIdentities ∧
    t.buildId = none) .failoverReplacementWithoutBuild
  rejectIf (∃ repair ∈ t.repair, ¬∃ m ∈ t.currentConfiguration.members,
    m.identity = repair.target ∧ m.role ≠ .primary) .invalidFailoverRepairTarget

def validateSuccessorTransition : Except ValidationError Unit := do
  rejectIf (t.switchover ≠ none) .unexpectedSwitchoverIntent
  let accepted ← demandPrevious status t
  validateConfiguration accepted (some t.effectivePolicy)
  validateTransitionRelationship t.kind (some accepted) t.currentConfiguration t.effectivePolicy
  if t.kind = .replacement then validateReplacementEvidence t
  else validateFailoverEvidence t accepted

/-- The Current Configuration of a switchover is the one that its resolution asks for. -/
def validateSwitchoverResolution (s : PlannedSwitchoverIntent) : Except ValidationError Unit :=
  match s.resolution with
  | .requestedTarget | .restoringOldPrimary =>
    rejectIf (t.currentConfiguration ≠ s.requestedConfiguration) .invalidSwitchoverResolution
  | .compensatingOldPrimary => do
    validateTransitionRelationship t.kind (some s.requestedConfiguration) t.currentConfiguration
      t.effectivePolicy
    rejectIf (t.currentConfiguration.primaryId ≠ s.source.replicaId ∨ s.handoff = none)
      .invalidSwitchoverResolution
  | .unsafeResolution =>
    if t.currentConfiguration = s.requestedConfiguration then .ok ()
    else do
      validateTransitionRelationship t.kind (some s.requestedConfiguration) t.currentConfiguration
        t.effectivePolicy
      rejectIf (t.currentConfiguration.primaryId ≠ s.source.replicaId) .invalidSwitchoverResolution

def validateSwitchoverTransition : Except ValidationError Unit := do
  let accepted ← demandPrevious status t
  rejectIf (t.electionLsn ≠ none ∨ t.buildId ≠ none ∨ t.repair ≠ none) .invalidSwitchoverEvidence
  let s ← demand t.switchover .missingSwitchoverIntent
  rejectIf (s.requestId = "" ∨ s.preparationGeneration = 0 ∨
    s.preparationGeneration ≠ t.specGeneration) .missingSwitchoverIntent
  rejectIf (∃ receipt ∈ status.lastSwitchover, receipt.requestId = s.requestId ∧
    ¬(receipt.outcome = .unsafeOutcome ∧ s.resolution = .unsafeResolution))
    .invalidSwitchoverReceipt
  -- The accepted configuration is valid here, so it has a primary.
  rejectIf (accepted.primaryById?.map (·.identity) ≠ some s.source) .invalidSwitchoverSource
  rejectIf (s.target.replicaId = accepted.primaryId ∨
    ¬∃ m ∈ accepted.members, m.identity = s.target) .invalidSwitchoverTarget
  validateTransitionRelationship t.kind (some accepted) s.requestedConfiguration t.effectivePolicy
  rejectIf (s.requestedConfiguration.primaryId ≠ s.target.replicaId) .invalidSwitchoverResolution
  validateSwitchoverResolution t s
  onSome s.handoff fun handoff => do
    validateSwitchoverHandoff handoff
    rejectIf (handoff.preparationGeneration ≠ s.preparationGeneration ∨
      handoff.requestId ≠ s.requestId ∨ handoff.source ≠ s.source ∨ handoff.target ≠ s.target ∨
      handoff.startingConfigurationId ≠ accepted.configurationId ∨
      handoff.startingEpoch ≠ accepted.epoch) .invalidSwitchoverHandoff

/-- A transition under one policy. -/
def validateOrdinaryTransition : Except ValidationError Unit := do
  rejectIf (t.secondaryScaleDown ≠ none ∨ t.secondaryRemovalEvidence ≠ none)
    (.invalidSecondaryScaleDown "unexpected removal authority")
  rejectIf (t.scaleUp ≠ none ∨ t.scaleUpFailover ≠ none)
    (.invalidScaleUp "unexpected scale-up authority")
  rejectIf ((∃ policy ∈ status.effectivePolicy, policy ≠ t.effectivePolicy) ∨
    (t.kind ≠ .bootstrap ∧ status.effectivePolicy = none)) .transitionPolicyMismatch
  validatePolicy t.effectivePolicy
  validateConfiguration t.currentConfiguration (some t.effectivePolicy)
  match t.kind with
  | .bootstrap => validateBootstrapTransition status t
  | .plannedSwitchover => validateSwitchoverTransition status t
  | _ => validateSuccessorTransition status t

def validateTransition : Except ValidationError Unit :=
  match t.kind, t.scaleUpFailover with
  | .scaleUp, _ => validateScaleUpTransition status t
  | .secondaryScaleDown, _ => validateScaleDownTransition status t
  | .failover, some evidence => validateCarriedFailover status t evidence
  | _, _ => validateOrdinaryTransition status t

end

/-- Validates durable topology, provisioning, and active transition intent. -/
def validateStatus (status : AcceptedStatus) : Except ValidationError Unit := do
  onSome status.scaleUpAllocation (validateAllocationStatus status)
  validateAdmissionStarted status
  onSome status.pendingReplacementCleanup (validatePendingReplacement status)
  onSome status.lastReplacement (validateLastReplacement status)
  validateReplacementProtection status
  onSome status.lastSecondaryRemoval (validateLastSecondaryRemoval status)
  onSome status.scaleUpCleanup (validateScaleUpCleanupStatus status)
  onSome status.lastScaleUp (validateLastScaleUp status)
  onSome status.secondaryScaleDownCleanup (validateScaleDownCleanupStatus status)
  onSome status.lastSwitchover validateSwitchoverReceipt
  validateInitialization status
  onSome status.effectivePolicy validatePolicy
  validateProvisioningStatus status
  onSome status.accepted fun accepted => validateConfiguration accepted status.effectivePolicy
  validateFailureObservations status
  onSome status.transition (validateTransition status)

end Kuberic
