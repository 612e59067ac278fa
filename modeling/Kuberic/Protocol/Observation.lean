import Kuberic.Lib.AssocMap
import Kuberic.Protocol.Command
import Mathlib.Data.String.Basic

/-!
# Observations of the controller

What one evaluation of the controller reads: the desired state, the accepted status, the Kubernetes
objects and agent reports of every observed incarnation, the routing and the report watermarks that
the controller keeps.  A report is keyed by the logical replica and the instance, so that several
incarnations of one logical replica stand side by side.
-/

namespace Kuberic

structure DesiredState where
  replicas : Nat
  image : String
  failoverDelaySeconds : Nat
  deriving DecidableEq, Inhabited

structure KubernetesReplicaObservation where
  replicaId : ReplicaId
  podName : String
  podUid : Option PodUid
  pvcName : String
  pvcUid : Option PvcUid
  image : Option String := none
  podReady : Bool
  peerEndpointReady : Bool := false
  endpointName : Option String := none
  endpointUid : Option String := none
  endpointResourceVersion : Option String := none
  deriving DecidableEq, Inhabited

structure UninitializedAgentObservation where
  protocolVersion : Nat
  resourceUid : ResourceUid
  replicaId : ReplicaId
  podUid : PodUid
  pvcUid : PvcUid
  processSessionId : ProcessSessionId
  reportSequence : Nat
  deriving DecidableEq, Inhabited

structure AgentBuildReport where
  buildId : OperationId
  target : ReplicaIdentity
  lastSequence : Nat
  replicationBoundaryLsn : Int
  durableLsn : Int
  completed : Bool
  catchUpBoundaryLsn : Option Int := none
  deriving DecidableEq, Inhabited

/-- What an agent reports about its replica. -/
structure AgentReport where
  protocolVersion : Nat := 0
  resourceUid : ResourceUid := ""
  identity : ReplicaIdentity := ⟨0, "", ""⟩
  processSessionId : ProcessSessionId := ""
  reportSequence : Nat := 0
  role : ReplicaRole := .none
  readStatus : AccessStatus := .notPrimary
  writeStatus : AccessStatus := .notPrimary
  healthy : Bool := false
  epoch : Epoch := default
  previousConfiguration : Option ConfigurationDescriptor := none
  currentConfiguration : Option ConfigurationDescriptor := none
  currentProgress : Int := 0
  verifiedReplicationLsn : Option Int := none
  committedLsn : Int := 0
  catchUpCapability : Option Int := none
  currentConfigurationQuorumProgress : Int := 0
  catchUpBoundary : Option Int := none
  catchUpComplete : Bool := false
  deactivatedLsn : Option Int := none
  deactivationEpoch : Option Epoch := none
  reportedFault : Option FaultType := none
  pendingOperationId : Option OperationId := none
  pendingConfiguration : Option EnsureConfiguration := none
  retainedOperationId : Option OperationId := none
  builds : List AgentBuildReport := []
  preparedSwitchover : Option SwitchoverHandoff := none
  preparedSecondaryRemoval : Option SecondaryRemovalPreparation := none
  secondaryRemovalEvidence : Option SecondaryRemovalEvidence := none
  retiredReplica : Option ReplicaRetirementReport := none
  acceptedSecondaryRemoval : Option SecondaryScaleDownCleanup := none
  scaleUpIntent : Option ScaleUpIntent := none
  deriving DecidableEq, Inhabited

/-- Results of an exact-name lookup, never inferred from a label-selected list. -/
inductive ExactResourceObservation
  | frozenUidPresent (resourceVersion : String)
  | replacementPresent (uid resourceVersion : String)
  | notFound
  | lookupFailed (message : String)
  deriving DecidableEq

/-- Authoritative exact lookups and proven Pod/storage mapping, not label-list results. -/
structure SecondaryScaleDownResourceObservation where
  resourceUid : ResourceUid
  target : ReplicaIdentity
  identity : ReplicaCleanupIdentity
  pod : ExactResourceObservation
  pvc : ExactResourceObservation
  endpoint : ExactResourceObservation
  deriving DecidableEq

/-- Lookup key that preserves multiple incarnations of one logical replica. -/
@[ext] structure ReplicaObservationKey where
  replicaId : ReplicaId
  instanceId : ReplicaInstanceId
  deriving DecidableEq, Inhabited

namespace ReplicaObservationKey

/-- The pair that keys are compared by. -/
def order (k : ReplicaObservationKey) : Int ×ₗ List Char := toLex (k.replicaId, k.instanceId.toList)

theorem order_injective : Function.Injective order := by
  intro a b h
  have h' := toLex.injective h
  simp only [Prod.mk.injEq, String.toList_inj] at h'
  exact ReplicaObservationKey.ext h'.1 h'.2

instance : LinearOrder ReplicaObservationKey := LinearOrder.lift' order order_injective

end ReplicaObservationKey

inductive AgentObservation
  | absent
  | unreachable (message : String)
  | invalid (message : String) (uninitializedReport : Option UninitializedAgentObservation)
  | uninitialized (report : UninitializedAgentObservation)
  | report (report : AgentReport)
  deriving DecidableEq, Inhabited

structure ReplicaObservation where
  kubernetes : Option KubernetesReplicaObservation
  agent : AgentObservation
  deriving DecidableEq, Inhabited

/-- The report of an observed agent. -/
def AgentObservation.report? : AgentObservation → Option AgentReport
  | .report r => some r
  | _ => none

structure ObservationFailure where
  source : String
  message : String
  deriving DecidableEq, Inhabited

structure ReportWatermark where
  processSessionId : ProcessSessionId
  reportSequence : Nat
  deriving DecidableEq, Inhabited

structure RoutingObservation where
  servicePresent : Bool := false
  unresolvedWriteTarget : Bool := false
  writeTarget : Option ReplicaIdentity := none
  deriving DecidableEq, Inhabited

/-- Immutable input consumed by one evaluator invocation. -/
structure ObservationSnapshot where
  resourceUid : ResourceUid
  desired : DesiredState
  status : AcceptedStatus
  replicas : AssocMap ReplicaObservationKey ReplicaObservation
  secondaryScaleDownResources : List SecondaryScaleDownResourceObservation := []
  previousReportWatermarks : AssocMap ReplicaObservationKey ReportWatermark := ∅
  supportingResourcesReady : Bool := true
  routing : RoutingObservation := {}
  observationFailures : List ObservationFailure := []
  nowUnixSeconds : Int := 0

/-- The key that an identity is observed under. -/
def ReplicaIdentity.observationKey (i : ReplicaIdentity) : ReplicaObservationKey :=
  ⟨i.replicaId, i.instanceId⟩

namespace ObservationSnapshot

/-- The only element of a list. -/
def single {α : Type} : List α → Option α
  | [a] => some a
  | _ => none

def observationForIdentity (s : ObservationSnapshot) (identity : ReplicaIdentity) :
    Option ReplicaObservation :=
  s.replicas.get? identity.observationKey

/-- The report observed under an identity, whatever identity it carries. -/
def reportAt (s : ObservationSnapshot) (identity : ReplicaIdentity) : Option AgentReport :=
  (s.observationForIdentity identity).bind (·.agent.report?)

/-- The Kubernetes objects observed under an identity. -/
def kubernetesAt (s : ObservationSnapshot) (identity : ReplicaIdentity) :
    Option KubernetesReplicaObservation :=
  (s.observationForIdentity identity).bind (·.kubernetes)

end ObservationSnapshot

end Kuberic
