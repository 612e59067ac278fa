import Kuberic.Protocol.Status

/-!
# Commands of the controller

`EnsureConfiguration` carries the authority that a replica is to admit, the policy and the evidence
that it was derived from, and the access that the replica is to have when it is done.  The other
commands initialize a store, build a copy, prepare a switchover and take a secondary out of the
membership; `KubernetesChange` lists what the controller changes itself.
-/

namespace Kuberic

structure EnsureConfiguration where
  operationId : OperationId
  previousConfiguration : Option ConfigurationDescriptor
  currentConfiguration : ConfigurationDescriptor
  previousEpoch : Option Epoch
  currentEpoch : Epoch
  effectivePolicy : EffectivePolicy
  previousPolicy : Option EffectivePolicy
  secondaryRemovalEvidence : Option SecondaryRemovalEvidence
  scaleUpEvidence : Option ScaleUpConfigurationEvidence
  localReplicaId : ReplicaId
  expectedInstanceId : ReplicaInstanceId
  expectedAgentGeneration : AgentGeneration
  transitionKind : TransitionKind
  failoverSafeLsn : Option Int
  primaryWriteStatus : AccessStatus
  currentOnly : Bool
  retireBuildIds : List OperationId
  switchoverHandoff : Option SwitchoverHandoff
  retireSwitchoverPreparationIds : List SwitchoverPreparationId
  deriving DecidableEq

namespace EnsureConfiguration

/-- The replica that the command is for. -/
def target (c : EnsureConfiguration) : ReplicaIdentity :=
  ⟨c.localReplicaId, c.expectedInstanceId, c.expectedAgentGeneration⟩

/-- Exact, write-closed retirement without admitting a newer authority. -/
def isSwitchoverRestoration (c : EnsureConfiguration) : Bool :=
  c.transitionKind == .plannedSwitchover && !c.currentOnly && c.previousConfiguration.isNone &&
    c.previousEpoch.isNone && c.primaryWriteStatus == .reconfigurationPending &&
    c.failoverSafeLsn.isNone && c.retireBuildIds.isEmpty &&
    c.currentEpoch == c.currentConfiguration.epoch &&
    c.currentConfiguration.primaryId == c.localReplicaId &&
    (match c.retireSwitchoverPreparationIds with
      | [preparation] => preparation.operationId != "" && decide (0 < preparation.generation)
      | _ => false) &&
    c.switchoverHandoff.all fun handoff =>
      c.currentEpoch == handoff.startingEpoch &&
        c.currentConfiguration.epoch == handoff.startingEpoch &&
        c.currentConfiguration.configurationId == handoff.startingConfigurationId &&
        c.currentConfiguration.primaryId == handoff.source.replicaId &&
        c.target == handoff.source &&
        c.retireSwitchoverPreparationIds == [handoff.preparation]

end EnsureConfiguration

structure InitializeAgentStore where
  initializationId : InitializationId
  resourceUid : ResourceUid
  localReplicaId : ReplicaId
  expectedInstanceId : ReplicaInstanceId
  expectedPodUid : PodUid
  expectedPvcUid : PvcUid
  assignedAgentGeneration : AgentGeneration
  effectivePolicy : EffectivePolicy
  bootstrapConfiguration : ConfigurationDescriptor
  provisioning : Option ProvisioningIntent
  deriving DecidableEq

structure PrepareSwitchover where
  preparationGeneration : Nat
  operationId : OperationId
  requestId : SwitchoverRequestId
  localReplicaId : ReplicaId
  expectedInstanceId : ReplicaInstanceId
  expectedAgentGeneration : AgentGeneration
  source : ReplicaIdentity
  target : ReplicaIdentity
  currentConfiguration : ConfigurationDescriptor
  deriving DecidableEq

structure EnsureReplicaBuild where
  operationId : OperationId
  localReplicaId : ReplicaId
  expectedInstanceId : ReplicaInstanceId
  expectedAgentGeneration : AgentGeneration
  target : ReplicaIdentity
  authority : Option BuildAuthority
  sourceSessionId : Option ProcessSessionId
  retire : Bool
  deriving DecidableEq

structure PrepareSecondaryRemoval where
  operationId : OperationId
  localReplicaId : ReplicaId
  expectedInstanceId : ReplicaInstanceId
  expectedAgentGeneration : AgentGeneration
  intent : SecondaryScaleDownIntent
  deriving DecidableEq

/-- Publish already-accepted current-only evidence locally before stable access. -/
structure AcceptSecondaryRemovalCommit where
  operationId : OperationId
  target : ReplicaIdentity
  committed : SecondaryScaleDownCleanup
  /-- Clear a retained secondary's historical local fence without quorum credit. -/
  localRecovery : Bool
  deriving DecidableEq

/-- One fenced, idempotent authority command issued after a full observation. -/
inductive ProtocolCommand
  | initializeAgentStore (command : InitializeAgentStore)
  | prepareSwitchover (command : PrepareSwitchover)
  | ensureConfiguration (command : EnsureConfiguration)
  | ensureReplicaBuild (command : EnsureReplicaBuild)
  | prepareSecondaryRemoval (command : PrepareSecondaryRemoval)
  | acceptSecondaryRemovalCommit (command : AcceptSecondaryRemovalCommit)
  deriving DecidableEq

inductive ScaleDownResource
  | endpoint
  | pod
  | pvc
  deriving DecidableEq

/-- Idempotent Kubernetes or status convergence performed by the controller. -/
inductive KubernetesChange
  | ensureReplicaSupport
  | ensureReplacementScaffolding (replicaId : ReplicaId) (replacing : ReplicaIdentity)
  | deleteExactPod (podName : String) (podUid : PodUid)
  | deleteScaleDownResource (resource : ScaleDownResource) (name uid resourceVersion : String)
  | ensureWriteRoutingService
  | persistStatus (status : AcceptedStatus)
  | removeWriteRouting
  | publishWriteRouting (primary : ReplicaIdentity)
  deriving DecidableEq

inductive SafetyChange
  | removeWriteRouting
  deriving DecidableEq

end Kuberic
