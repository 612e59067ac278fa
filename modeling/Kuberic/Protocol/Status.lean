import Kuberic.Protocol.Intents

/-!
# Membership changes and the accepted status

The immutable intents and evidence of a membership increase or decrease, the transition intent that
carries them, and the status record that the controller persists.
-/

namespace Kuberic

variable [Sha256]

/-! ## Cleanup identities -/

/-- Absence may only be frozen from a successful exact-name lookup. -/
inductive CleanupResourceIdentity
  | present (name uid : String)
  | absent (name : String)
  deriving DecidableEq, Inhabited

def CleanupResourceIdentity.name : CleanupResourceIdentity → String
  | .present name _ => name
  | .absent name => name

structure ReplicaCleanupIdentity where
  pod : CleanupResourceIdentity
  pvc : CleanupResourceIdentity
  endpoint : CleanupResourceIdentity
  deriving DecidableEq, Inhabited

/-! ## Membership increase -/

inductive ScaleUpStage
  | previousCurrent
  | currentOnly
  | acceptCommit
  deriving DecidableEq

def ScaleUpStage.asTag : ScaleUpStage → String
  | .previousCurrent => "pc-cc"
  | .currentOnly => "current-only"
  | .acceptCommit => "accept-commit"

/-- Immutable authority for one exact membership increase. -/
structure ScaleUpIntent where
  operationId : OperationId
  resourceUid : ResourceUid
  specGeneration : Nat
  desiredReplicas : Nat
  previousConfiguration : ConfigurationDescriptor
  currentConfiguration : ConfigurationDescriptor
  previousPolicy : EffectivePolicy
  currentPolicy : EffectivePolicy
  primary : ReplicaIdentity
  target : ReplicaIdentity
  buildId : OperationId
  snapshotBoundaryLsn : Int
  catchUpBoundaryLsn : Int
  deriving DecidableEq, Inhabited

namespace ScaleUpIntent

def expectedOperationId (i : ScaleUpIntent) : OperationId :=
  "scale-up-" ++ digestParts [i.resourceUid, toString i.specGeneration, toString i.desiredReplicas,
    i.previousConfiguration.configurationId, i.currentConfiguration.configurationId,
    toString i.target.replicaId, i.target.instanceId, i.target.agentGeneration, i.buildId,
    toString i.snapshotBoundaryLsn, toString i.catchUpBoundaryLsn]

def commandOperationId (i : ScaleUpIntent) (stage : ScaleUpStage) (target : ReplicaIdentity)
    (authority : ConfigurationDescriptor) : OperationId :=
  "scale-up-command-" ++ digestParts [i.operationId, stage.asTag, toString target.replicaId,
    target.instanceId, target.agentGeneration, authority.configurationId]

def transitionId (i : ScaleUpIntent) (kind : TransitionKind) (authority : ConfigurationDescriptor) :
    TransitionId :=
  "scale-up-transition-" ++ digestParts [i.operationId, kind.asTag, authority.configurationId]

end ScaleUpIntent

structure ScaleUpWitness where
  resourceUid : ResourceUid
  identity : ReplicaIdentity
  role : ReplicaRole
  processSessionId : ProcessSessionId
  reportSequence : Nat
  epoch : Epoch
  previousConfigurationId : Option ConfigurationId
  currentConfigurationId : ConfigurationId
  verifiedReplicationLsn : Int
  writeStatus : AccessStatus
  pendingOperationId : Option OperationId
  retainedOperationId : Option OperationId
  deriving DecidableEq, Inhabited

structure ScaleUpFinalWitness where
  replicaId : ReplicaId
  processSessionId : ProcessSessionId
  reportSequence : Nat
  currentProgress : Int
  committedLsn : Int
  deactivatedLsn : Int
  fenceOperationId : OperationId
  deriving DecidableEq, Inhabited

structure ScaleUpFinalElectionEvidence where
  selectedPrimaryReplicaId : ReplicaId
  witnesses : List ScaleUpFinalWitness
  previousReadQuorum : List ReplicaId
  currentReadQuorum : List ReplicaId
  deriving DecidableEq, Inhabited

namespace ScaleUpFinalElectionEvidence

def selectedPrimary (e : ScaleUpFinalElectionEvidence) (provisional : ConfigurationDescriptor) :
    Option ReplicaIdentity :=
  (provisional.members.find? fun m =>
    m.identity.replicaId == e.selectedPrimaryReplicaId).map (·.identity)

def finalConfiguration (e : ScaleUpFinalElectionEvidence) (provisional : ConfigurationDescriptor) :
    Option ConfigurationDescriptor := do
  let selected ← e.selectedPrimary provisional
  let finalConfigurationNumber ← checkedAddOne provisional.epoch.configurationNumber
  let members := provisional.members.map fun m => ConfigurationMember.mk m.identity
    (if m.identity = selected then .primary else .activeSecondary)
  return .new ⟨provisional.epoch.dataLossNumber, finalConfigurationNumber⟩
    e.selectedPrimaryReplicaId members provisional.writeQuorum

def witness (e : ScaleUpFinalElectionEvidence) (replicaId : ReplicaId) :
    Option ScaleUpFinalWitness :=
  e.witnesses.find? fun w => w.replicaId == replicaId

def safeLsn (e : ScaleUpFinalElectionEvidence) : Option Int :=
  (e.witness e.selectedPrimaryReplicaId).map fun w => min w.currentProgress w.deactivatedLsn

end ScaleUpFinalElectionEvidence

structure ScaleUpFailoverEvidence where
  intent : ScaleUpIntent
  provisionalConfiguration : ConfigurationDescriptor
  previousReadQuorum : List ScaleUpWitness
  currentReadQuorum : List ScaleUpWitness
  finalElection : Option ScaleUpFinalElectionEvidence
  deriving DecidableEq, Inhabited

inductive ScaleUpConfigurationEvidence
  | admission (intent : ScaleUpIntent)
  | failover (evidence : ScaleUpFailoverEvidence)
  deriving DecidableEq, Inhabited

def ScaleUpConfigurationEvidence.intent : ScaleUpConfigurationEvidence → ScaleUpIntent
  | .admission intent => intent
  | .failover evidence => evidence.intent

structure ScaleUpCleanup where
  provisioning : ProvisioningIntent
  target : ReplicaIdentity
  resources : ReplicaCleanupIdentity
  deriving DecidableEq, Inhabited

structure ScaleUpFailoverReceiptEvidence where
  provisionalPrimaryReplicaId : ReplicaId
  previousReadQuorum : List ScaleUpWitness
  currentReadQuorum : List ScaleUpWitness
  finalElection : ScaleUpFinalElectionEvidence
  deriving DecidableEq, Inhabited

namespace ScaleUpFailoverReceiptEvidence

def fromEvidence (e : ScaleUpFailoverEvidence) : Option ScaleUpFailoverReceiptEvidence :=
  e.finalElection.map fun finalElection =>
    ⟨e.provisionalConfiguration.primaryId, e.previousReadQuorum, e.currentReadQuorum,
      finalElection⟩

def expand (r : ScaleUpFailoverReceiptEvidence) (intent : ScaleUpIntent) :
    Option ScaleUpFailoverEvidence :=
  if intent.currentConfiguration.members.any fun m =>
      m.identity.replicaId == r.provisionalPrimaryReplicaId then
    (checkedAddOne intent.currentConfiguration.epoch.configurationNumber).map fun number =>
      { intent := intent
        provisionalConfiguration := .new
          ⟨intent.currentConfiguration.epoch.dataLossNumber, number⟩
          r.provisionalPrimaryReplicaId
          (intent.currentConfiguration.members.map fun m => ConfigurationMember.mk m.identity
            (if m.identity.replicaId = r.provisionalPrimaryReplicaId then .primary
              else .activeSecondary))
          intent.currentPolicy.writeQuorum
        previousReadQuorum := r.previousReadQuorum
        currentReadQuorum := r.currentReadQuorum
        finalElection := some r.finalElection }
  else none

end ScaleUpFailoverReceiptEvidence

/-- One bounded completed-addition proof retained for late local convergence. -/
structure ScaleUpReceipt where
  intent : ScaleUpIntent
  acceptedConfiguration : ConfigurationDescriptor
  failoverEvidence : Option ScaleUpFailoverReceiptEvidence
  failoverSafeLsn : Option Int
  currentOnlyWriteQuorum : List ScaleUpWitness
  deriving DecidableEq, Inhabited

def ScaleUpReceipt.expandedFailoverEvidence (r : ScaleUpReceipt) :
    Option ScaleUpFailoverEvidence :=
  r.failoverEvidence.bind fun evidence => evidence.expand r.intent

/-! ## Replacement -/

structure ReplacementCleanup where
  resourceUid : ResourceUid
  target : ReplicaIdentity
  resources : ReplicaCleanupIdentity
  deriving DecidableEq, Inhabited

namespace ReplacementCleanup

def resourceParts : CleanupResourceIdentity → List String
  | .present name uid => ["present", name, uid]
  | .absent name => ["absent", name, ""]

def provenance (c : ReplacementCleanup) : String :=
  digestParts ([c.resourceUid, toString c.target.replicaId, c.target.instanceId,
    c.target.agentGeneration] ++ resourceParts c.resources.pod ++ resourceParts c.resources.pvc ++
    resourceParts c.resources.endpoint)

def provisioningOperationId (c : ReplacementCleanup) (podUid : PodUid) (pvcUid : PvcUid) :
    OperationId :=
  "replacement-provisioning-" ++ digestParts [c.provenance, podUid, pvcUid]

def transitionId (c : ReplacementCleanup) (kind : TransitionKind)
    (configurationId : ConfigurationId) : TransitionId :=
  "transition-" ++ digestParts [c.provenance, kind.asTag, configurationId]

end ReplacementCleanup

/-! ## Secondary removal -/

inductive SecondaryRemovalStage
  | prepare
  | previousCurrent
  | currentOnly
  | acceptCommit
  | retire
  deriving DecidableEq

def SecondaryRemovalStage.asTag : SecondaryRemovalStage → String
  | .prepare => "prepare"
  | .previousCurrent => "pc-cc"
  | .currentOnly => "current-only"
  | .acceptCommit => "accept-commit"
  | .retire => "retire"

/-- Immutable authority for one highest-id committed secondary removal. -/
structure SecondaryScaleDownIntent where
  operationId : OperationId
  resourceUid : ResourceUid
  specGeneration : Nat
  desiredReplicas : Nat
  previousConfiguration : ConfigurationDescriptor
  currentConfiguration : ConfigurationDescriptor
  previousPolicy : EffectivePolicy
  currentPolicy : EffectivePolicy
  primary : ReplicaIdentity
  target : ReplicaIdentity
  cleanup : ReplicaCleanupIdentity
  deriving DecidableEq, Inhabited

namespace SecondaryScaleDownIntent

def expectedOperationId (i : SecondaryScaleDownIntent) : OperationId :=
  "secondary-scale-down-" ++ digestParts [i.resourceUid, toString i.specGeneration,
    toString i.desiredReplicas, i.previousConfiguration.configurationId,
    i.currentConfiguration.configurationId, toString i.target.replicaId, i.target.instanceId,
    i.target.agentGeneration]

def commandOperationId (i : SecondaryScaleDownIntent) (stage : SecondaryRemovalStage)
    (target : ReplicaIdentity) : OperationId :=
  "secondary-removal-" ++ digestParts [i.operationId, stage.asTag, toString target.replicaId,
    target.instanceId, target.agentGeneration]

end SecondaryScaleDownIntent

/-- Durable write-closure receipt, not a raw progress sample or RPC acknowledgement. -/
structure SecondaryRemovalPreparation where
  intent : SecondaryScaleDownIntent
  operationId : OperationId
  processSessionId : ProcessSessionId
  reportSequence : Nat
  boundaryLsn : Int
  deriving DecidableEq, Inhabited

structure SecondaryRemovalWitness where
  resourceUid : ResourceUid
  identity : ReplicaIdentity
  role : ReplicaRole
  processSessionId : ProcessSessionId
  reportSequence : Nat
  epoch : Epoch
  previousConfigurationId : Option ConfigurationId
  currentConfigurationId : ConfigurationId
  verifiedReplicationLsn : Int
  writeStatus : AccessStatus
  pendingOperationId : Option OperationId
  retainedOperationId : Option OperationId
  deriving DecidableEq, Inhabited

structure SecondaryRemovalEvidence where
  preparation : SecondaryRemovalPreparation
  previousReadQuorum : List SecondaryRemovalWitness
  reducedWriteQuorum : List SecondaryRemovalWitness
  deriving DecidableEq, Inhabited

structure ReplicaRetirementReport where
  intent : SecondaryScaleDownIntent
  operationId : OperationId
  processSessionId : ProcessSessionId
  reportSequence : Nat
  epoch : Epoch
  role : ReplicaRole
  readStatus : AccessStatus
  writeStatus : AccessStatus
  applicationClosed : Bool
  peersFenced : Bool
  deriving DecidableEq, Inhabited

/-- Published atomically with reduced topology and policy; retained until exact cleanup completes. -/
structure SecondaryScaleDownCleanup where
  evidence : SecondaryRemovalEvidence
  currentOnlyWriteQuorum : List SecondaryRemovalWitness
  retirement : Option ReplicaRetirementReport
  deriving DecidableEq, Inhabited

/-- Last completed removal's immutable convergence proof, never deletion authority. -/
structure SecondaryRemovalReceipt where
  evidence : SecondaryRemovalEvidence
  currentOnlyWriteQuorum : List SecondaryRemovalWitness
  deriving DecidableEq, Inhabited

def SecondaryRemovalReceipt.committed (r : SecondaryRemovalReceipt) : SecondaryScaleDownCleanup :=
  ⟨r.evidence, r.currentOnlyWriteQuorum, none⟩

/-! ## Transition and status -/

structure ReplicaRepairIntent where
  operationId : OperationId
  target : ReplicaIdentity
  deriving DecidableEq, Inhabited

/-- Frozen PC/CC target and policy for one active transition. -/
structure TransitionIntent where
  transitionId : TransitionId
  kind : TransitionKind
  specGeneration : Nat
  effectivePolicy : EffectivePolicy
  previousConfigurationId : Option ConfigurationId
  currentConfiguration : ConfigurationDescriptor
  electionLsn : Option Int
  buildId : Option OperationId
  repair : Option ReplicaRepairIntent
  switchover : Option PlannedSwitchoverIntent
  secondaryScaleDown : Option SecondaryScaleDownIntent
  secondaryRemovalEvidence : Option SecondaryRemovalEvidence
  scaleUp : Option ScaleUpIntent
  scaleUpFailover : Option ScaleUpFailoverEvidence
  deriving DecidableEq, Inhabited

structure PrimaryFailureObservation where
  primary : ReplicaIdentity
  startedAtUnixSeconds : Int
  deriving DecidableEq, Inhabited

structure QuorumLossObservation where
  configurationId : ConfigurationId
  deriving DecidableEq, Inhabited

inductive ConditionStatus
  | true
  | false
  | unknown
  deriving DecidableEq, Inhabited

structure StatusCondition where
  type : String
  status : ConditionStatus
  reason : String
  message : String
  deriving DecidableEq, Inhabited

structure AcceptedTopology where
  configuration : ConfigurationDescriptor
  deriving DecidableEq, Inhabited

/-- Durable controller authority: accepted topology plus compact active intent. -/
structure AcceptedStatus where
  initialized : Bool := false
  observedGeneration : Nat := 0
  effectivePolicy : Option EffectivePolicy := none
  topology : Option AcceptedTopology := none
  scaleUpAllocation : Option ScaleUpAllocation := none
  provisioning : Option ProvisioningIntent := none
  transition : Option TransitionIntent := none
  primaryFailure : Option PrimaryFailureObservation := none
  quorumLoss : Option QuorumLossObservation := none
  lastSwitchover : Option PlannedSwitchoverReceipt := none
  /-- One admitted replacement's immutable cleanup identity, moved to `lastReplacement` on
  acceptance. -/
  pendingReplacementCleanup : Option ReplacementCleanup := none
  lastReplacement : Option ReplacementCleanup := none
  secondaryScaleDownCleanup : Option SecondaryScaleDownCleanup := none
  lastSecondaryRemoval : Option SecondaryRemovalReceipt := none
  scaleUpCleanup : Option ScaleUpCleanup := none
  lastScaleUp : Option ScaleUpReceipt := none
  scaleUpAdmissionStarted : Option OperationId := none
  conditions : List StatusCondition := []
  deriving DecidableEq, Inhabited

namespace AcceptedStatus

def accepted (s : AcceptedStatus) : Option ConfigurationDescriptor :=
  s.topology.map (·.configuration)

def withoutCondition (s : AcceptedStatus) (type : String) : AcceptedStatus :=
  { s with conditions := s.conditions.filter fun c => c.type != type }

/-- Replace the condition of the same type. -/
def withCondition (s : AcceptedStatus) (c : StatusCondition) : AcceptedStatus :=
  { s with conditions := (s.conditions.filter fun old => old.type != c.type) ++ [c] }

end AcceptedStatus

end Kuberic
