import Kuberic.Protocol.Validation.Snapshot

/-!
# Plans of the controller

One evaluation of the controller ends in a plan: keep a stable status, change Kubernetes objects or
the status, send one command to one agent, wait, or declare the authority unsafe.  The conditions
that a plan reports are part of its status.

`Eval α` is the result of a function of the evaluator that unwraps optional values: `none` is a
panic of the source.  A function that may decline to plan returns `Option Plan`, or
`Eval (Option Plan)` if it unwraps as well.
-/

namespace Kuberic

/-- Routing exists or may exist, so that it has to be removed before authority moves. -/
def RoutingObservation.Open (routing : RoutingObservation) : Prop :=
  routing.writeTarget ≠ none ∨ routing.unresolvedWriteTarget = true

instance (routing : RoutingObservation) : Decidable routing.Open := by
  unfold RoutingObservation.Open
  infer_instance

namespace Controller

/-- The result of a function that unwraps optional values, where `none` is a panic. -/
abbrev Eval (α : Type) := Option α

inductive WaitReason
  | activeTransition
  | provisioningInProgress
  | agentUnavailable
  | awaitingStableEvidence
  | awaitingAgentInitialization
  | unsupportedSpecDuringTransition
  | failoverDelay
  | quorumLoss
  deriving DecidableEq

inductive UnsafeReason
  | invalidDesiredState (message : String)
  | invalidAcceptedAuthority (message : String)
  | durableEvidenceWithoutAuthority
  | incompatibleProtocolVersion (replicaId : Int) (expected observed : Nat)
  | contradictoryReplicaEvidence (message : String)
  deriving DecidableEq

def UnsafeReason.debug : UnsafeReason → String
  | invalidDesiredState message => "InvalidDesiredState(" ++ debugString message ++ ")"
  | invalidAcceptedAuthority message => "InvalidAcceptedAuthority(" ++ debugString message ++ ")"
  | durableEvidenceWithoutAuthority => "DurableEvidenceWithoutAuthority"
  | incompatibleProtocolVersion replicaId expected observed =>
    "IncompatibleProtocolVersion \x7b replica_id: " ++ toString replicaId ++ ", expected: " ++
      toString expected ++ ", observed: " ++ toString observed ++ " \x7d"
  | contradictoryReplicaEvidence message =>
    "ContradictoryReplicaEvidence(" ++ debugString message ++ ")"

/-- Complete outcome of one pure evaluation cycle. -/
inductive Plan
  | stable (status : AcceptedStatus) (requeueAfterSeconds : Nat)
  | apply (changes : List KubernetesChange)
  | execute (command : ProtocolCommand)
  | wait (reason : WaitReason) (status : AcceptedStatus) (requeueAfterSeconds : Nat)
  | unsafeStop (reason : UnsafeReason) (status : AcceptedStatus)
      (safetyChanges : List SafetyChange) (requeueAfterSeconds : Nat)
  deriving DecidableEq

def Plan.changes : Plan → List KubernetesChange
  | .apply changes => changes
  | _ => []

/-- The statuses that the execution of a plan persists, with the changes or after them. -/
def Plan.statuses : Plan → List AcceptedStatus
  | .stable status _ | .wait _ status _ | .unsafeStop _ status _ _ => [status]
  | .apply changes => changes.filterMap fun
    | .persistStatus status => some status
    | _ => none
  | .execute _ => []

structure EvaluationConfig where
  /-- Requires exact-resource observation, session-fenced dispatch, and cleanup effects. -/
  enableSecondaryScaleDown : Bool := false
  /-- Requires controller provisioning, session-fenced dispatch, and exact candidate cleanup. -/
  allowScaleUp : Bool := false
  supportedProtocolVersion : Nat := 9
  stableResyncSeconds : Nat := 30
  waitRequeueSeconds : Nat := 5
  unsafeRequeueSeconds : Nat := 30
  deriving DecidableEq

/-! ## Conditions -/

def clearRuntimeConditions (status : AcceptedStatus) : AcceptedStatus :=
  ((status.withoutCondition "Ready").withoutCondition "Unsafe").withoutCondition "Progressing"

def clearEvaluatorConditions (status : AcceptedStatus) : AcceptedStatus :=
  (clearRuntimeConditions status).withoutCondition "UnsupportedSpec"

def progressingCondition (reason message : String) : StatusCondition :=
  ⟨"Progressing", .true, reason, message⟩

def waitingStatus (status : AcceptedStatus) (reason message : String) : AcceptedStatus :=
  ((clearRuntimeConditions status).withCondition ⟨"Ready", .unknown, reason, message⟩).withCondition
    (progressingCondition reason message)

def transitionStatus (status : AcceptedStatus) : AcceptedStatus :=
  waitingStatus (status.withoutCondition "UnsupportedSpec") "TransitionActive"
    "Persisted transition remains in progress"

def unsupportedReplicaCountCondition (requested frozen : Nat) : StatusCondition :=
  ⟨"UnsupportedSpec", .true, "ReplicaCountImmutable",
    "requested replica count " ++ toString requested ++ " differs from frozen replica-set size " ++
      toString frozen⟩

/-! ## Closed plans -/

def unsafePlan (status : AcceptedStatus) (reason : UnsafeReason) (config : EvaluationConfig) :
    Plan :=
  .unsafeStop reason
    (((clearRuntimeConditions status).withCondition
      ⟨"Ready", .false, "Unsafe", "Replica authority is unsafe"⟩).withCondition
      ⟨"Unsafe", .true, "UnsafeAuthority", reason.debug⟩)
    [.removeWriteRouting] config.unsafeRequeueSeconds

def persist (status : AcceptedStatus) : Plan := .apply [.persistStatus status]

/-! ## What a plan leaves as it was -/

/-- The plan sends the configuration alone to some replica. -/
def Plan.SendsCurrentOnly (c : ConfigurationDescriptor) : Plan → Prop
  | .execute (.ensureConfiguration command) =>
    command.currentOnly = true ∧ command.currentConfiguration = c
  | _ => False

instance (c : ConfigurationDescriptor) (plan : Plan) : Decidable (plan.SendsCurrentOnly c) := by
  unfold Plan.SendsCurrentOnly
  split <;> infer_instance

/-- The plan does not send the configuration alone, and persists no other topology. -/
structure Plan.Keeps (c : ConfigurationDescriptor) (topology : Option AcceptedTopology)
    (plan : Plan) : Prop where
  sends : ¬plan.SendsCurrentOnly c
  persists : ∀ status ∈ plan.statuses, status.topology = topology

section

variable {c : ConfigurationDescriptor} {topology : Option AcceptedTopology} {status : AcceptedStatus}

theorem keeps_execute {command : EnsureConfiguration}
    (h : command.currentOnly = true → command.currentConfiguration ≠ c) :
    (Plan.execute (.ensureConfiguration command)).Keeps c topology :=
  ⟨fun hsends => h hsends.1 hsends.2, fun _ hstatus => absurd hstatus List.not_mem_nil⟩

theorem keeps_of_statuses {plan : Plan} {statuses : List AcceptedStatus}
    (hsends : ¬plan.SendsCurrentOnly c) (hstatuses : plan.statuses = statuses)
    (h : ∀ status ∈ statuses, status.topology = topology) : plan.Keeps c topology := by
  subst hstatuses
  exact ⟨hsends, h⟩

@[simp] theorem waitingStatus_topology (reason message : String) :
    (waitingStatus status reason message).topology = status.topology := by
  simp only [waitingStatus, clearRuntimeConditions, AcceptedStatus.withCondition,
    AcceptedStatus.withoutCondition]

@[simp] theorem statuses_persist : (persist status).statuses = [status] := rfl

theorem keeps_wait {reason : WaitReason} {seconds : Nat} (h : status.topology = topology) :
    (Plan.wait reason status seconds).Keeps c topology :=
  keeps_of_statuses not_false rfl (List.forall_mem_singleton.2 h)

theorem keeps_unsafePlan {reason : UnsafeReason} {config : EvaluationConfig}
    (h : status.topology = topology) : (unsafePlan status reason config).Keeps c topology := by
  refine keeps_of_statuses not_false rfl (List.forall_mem_singleton.2 ?_)
  simpa only [clearRuntimeConditions, AcceptedStatus.withCondition,
    AcceptedStatus.withoutCondition] using h

theorem keeps_apply {changes : List KubernetesChange} {statuses : List AcceptedStatus}
    (hstatuses : (Plan.apply changes).statuses = statuses)
    (h : ∀ status ∈ statuses, status.topology = topology) :
    (Plan.apply changes).Keeps c topology :=
  keeps_of_statuses not_false hstatuses h

theorem keeps_persist (h : status.topology = topology) : (persist status).Keeps c topology :=
  keeps_apply statuses_persist (List.forall_mem_singleton.2 h)

end

end Controller

end Kuberic
