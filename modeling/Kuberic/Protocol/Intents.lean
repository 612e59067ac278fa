import Kuberic.Protocol.Types

/-!
# Durable intents and the accepted status

The compact intents that the controller persists between reconciliations (provisioning, transition,
planned switchover, membership increase and decrease, cleanups), the receipts they leave behind,
and the status record that carries them.  Operation and transition ids are digests of the intent
they name.
-/

namespace Kuberic

variable [Sha256]

/-! ## Provisioning -/

structure ScaleUpProvisioning where
  resourceUid : ResourceUid
  specGeneration : Nat
  desiredReplicas : Nat
  previousConfiguration : ConfigurationDescriptor
  previousPolicy : EffectivePolicy
  currentPolicy : EffectivePolicy
  targetReplicaId : ReplicaId
  deriving DecidableEq, Inhabited

def ScaleUpProvisioning.nextConfigurationEpoch (p : ScaleUpProvisioning) : Option Epoch :=
  (checkedAddOne p.previousConfiguration.epoch.configurationNumber).map fun n =>
    ⟨p.previousConfiguration.epoch.dataLossNumber, n⟩

/-- Durable scale-up allocation recorded before any candidate resource is created. -/
structure ScaleUpAllocation where
  resourceUid : ResourceUid
  specGeneration : Nat
  desiredReplicas : Nat
  previousConfigurationId : ConfigurationId
  acceptedConfigurationId : ConfigurationId
  targetReplicaId : ReplicaId
  operationId : OperationId
  previousOperationId : Option OperationId
  podUid : Option PodUid
  pvcUid : Option PvcUid
  deriving DecidableEq, Inhabited

def ScaleUpAllocation.expectedOperationId (a : ScaleUpAllocation) : OperationId :=
  "scale-up-allocation-" ++ digestParts ([a.resourceUid, toString a.specGeneration,
    toString a.desiredReplicas, a.previousConfigurationId, toString a.targetReplicaId] ++
      a.previousOperationId.toList)

inductive ProvisioningKind
  | replacement
  | scaleUp
  deriving DecidableEq, Inhabited

structure ProvisioningPurpose where
  kind : ProvisioningKind
  replaces : Option ReplicaIdentity
  scaleUp : Option ScaleUpProvisioning
  deriving DecidableEq, Inhabited

def deriveInitializationId (resourceUid : ResourceUid) (replicaId : ReplicaId) (podUid : PodUid)
    (pvcUid : PvcUid) : InitializationId :=
  "init-" ++ digestParts [resourceUid, toString replicaId, podUid, pvcUid]

def deriveAgentGeneration (initializationId : InitializationId) : AgentGeneration :=
  digestParts ["agent", initializationId]

/-- Compact intent for one fresh replica that has not entered PC or CC. -/
structure ProvisioningIntent where
  purpose : ProvisioningPurpose
  podUid : PodUid
  pvcUid : PvcUid
  operationId : OperationId
  deriving DecidableEq, Inhabited

namespace ProvisioningIntent

def replicaId (p : ProvisioningIntent) : ReplicaId :=
  match p.purpose.kind with
  | .replacement => (p.purpose.replaces.map (·.replicaId)).getD 0
  | .scaleUp => (p.purpose.scaleUp.map (·.targetReplicaId)).getD 0

def replacement (p : ProvisioningIntent) : Option ReplicaIdentity :=
  if p.purpose.kind = .replacement then p.purpose.replaces else none

def scaleUp (p : ProvisioningIntent) : Option ScaleUpProvisioning :=
  if p.purpose.kind = .scaleUp then p.purpose.scaleUp else none

def instanceId (p : ProvisioningIntent) : ReplicaInstanceId := p.podUid

def initializationId (p : ProvisioningIntent) (resourceUid : ResourceUid) : InitializationId :=
  deriveInitializationId resourceUid p.replicaId p.podUid p.pvcUid

def assignedAgentGeneration (p : ProvisioningIntent) (resourceUid : ResourceUid) :
    AgentGeneration :=
  deriveAgentGeneration (p.initializationId resourceUid)

def targetIdentity (p : ProvisioningIntent) (resourceUid : ResourceUid) : ReplicaIdentity :=
  ⟨p.replicaId, p.instanceId, p.assignedAgentGeneration resourceUid⟩

def expectedOperationId (p : ProvisioningIntent) : OperationId :=
  match p.purpose.kind with
  | .replacement => p.operationId
  | .scaleUp =>
    match p.purpose.scaleUp with
    | none => ""
    | some s => "scale-up-provisioning-" ++ digestParts [s.resourceUid, toString s.specGeneration,
        toString s.desiredReplicas, s.previousConfiguration.configurationId,
        toString s.targetReplicaId, p.podUid, p.pvcUid]

def scaleUpBuildId (p : ProvisioningIntent) (resourceUid : ResourceUid) : Option OperationId :=
  p.scaleUp.map fun _ =>
    let target := p.targetIdentity resourceUid
    "scale-up-build-" ++ digestParts [p.operationId, toString target.replicaId, target.instanceId,
      target.agentGeneration]

end ProvisioningIntent

/-! ## Builds and switchovers -/

inductive BuildAuthorityKind
  | bootstrap
  | provisioning
  | failover
  deriving DecidableEq, Inhabited

structure BuildAuthority where
  buildId : OperationId
  kind : BuildAuthorityKind
  source : ReplicaIdentity
  target : ReplicaIdentity
  currentConfiguration : ConfigurationDescriptor
  replicationBoundaryLsn : Int
  deriving DecidableEq, Inhabited

/-- Supported authority-changing transition. -/
inductive TransitionKind
  | bootstrap
  | replacement
  | failover
  | plannedSwitchover
  | secondaryScaleDown
  | scaleUp
  deriving DecidableEq, Inhabited

def TransitionKind.asTag : TransitionKind → String
  | .bootstrap => "bootstrap"
  | .replacement => "replacement"
  | .failover => "failover"
  | .plannedSwitchover => "planned-switchover"
  | .secondaryScaleDown => "secondary-scale-down"
  | .scaleUp => "scale-up"

inductive PlannedSwitchoverResolution
  | requestedTarget
  | restoringOldPrimary
  | compensatingOldPrimary
  | unsafeResolution
  deriving DecidableEq, Inhabited

structure SwitchoverPreparationId where
  generation : Nat
  operationId : OperationId
  deriving DecidableEq, Inhabited

structure SwitchoverHandoff where
  preparationGeneration : Nat
  preparationOperationId : OperationId
  requestId : SwitchoverRequestId
  source : ReplicaIdentity
  target : ReplicaIdentity
  startingConfigurationId : ConfigurationId
  startingEpoch : Epoch
  handoffLsn : Int
  deriving DecidableEq, Inhabited

def SwitchoverHandoff.preparation (h : SwitchoverHandoff) : SwitchoverPreparationId :=
  ⟨h.preparationGeneration, h.preparationOperationId⟩

structure PlannedSwitchoverIntent where
  preparationGeneration : Nat
  requestId : SwitchoverRequestId
  source : ReplicaIdentity
  target : ReplicaIdentity
  requestedConfiguration : ConfigurationDescriptor
  resolution : PlannedSwitchoverResolution
  handoff : Option SwitchoverHandoff
  deriving DecidableEq, Inhabited

inductive PlannedSwitchoverOutcome
  | requestedTargetCompleted
  | oldPrimaryRestored
  | oldPrimaryCompensated
  | rejected
  | unsafeOutcome
  deriving DecidableEq, Inhabited

structure PlannedSwitchoverReceipt where
  requestId : SwitchoverRequestId
  requestedTargetReplicaId : ReplicaId
  acceptedTarget : Option ReplicaIdentity
  resultingPrimary : Option ReplicaIdentity
  outcome : PlannedSwitchoverOutcome
  deriving DecidableEq, Inhabited

/-! ## Derived identities -/

def deriveTransitionId (resourceUid : ResourceUid) (kind : TransitionKind)
    (configurationId : ConfigurationId) : TransitionId :=
  "transition-" ++ digestParts [resourceUid, kind.asTag, configurationId]

def deriveFailoverRepairOperationId (resourceUid : ResourceUid) (transitionId : TransitionId)
    (target : ReplicaIdentity) : OperationId :=
  "failover-repair-" ++ digestParts [resourceUid, transitionId, toString target.replicaId,
    target.instanceId, target.agentGeneration]

/-- The first `n` characters of a digest. -/
def digestHead (n : Nat) (digest : String) : String := String.ofList (digest.toList.take n)

def deriveReplicaEndpointName (resourceUid : ResourceUid) (identity : ReplicaIdentity) : String :=
  "kr-" ++ digestHead 24 (digestParts [resourceUid, toString identity.replicaId,
    identity.instanceId, identity.agentGeneration])

end Kuberic
