import Kuberic.Controller.Replacement
import Kuberic.Controller.ScaleUp

/-!
# One evaluation

An evaluation first refuses what it cannot trust: work that is not enabled, a snapshot that is not
valid, agents of another protocol.  Then it corrects members of the accepted configuration that lag
behind it, ends the cleanup of a replacement, and goes on with the transition of the status.

The bootstrap, the planned switchover and the removal of a secondary are parameters of the model, the
class `OtherTransitions`.  `evaluate` is `some none` where the evaluator goes on with a function
outside this model: corrections that are authorised to pass over an error of the snapshot, the
acceptance of an earlier increase that the active one does not own, an invalid agent beside an
allocation, and the work of a status without a transition.
-/

namespace Kuberic

/-- Errors that an authorised correction of a scale-up passes over. -/
def ValidationError.correctable : ValidationError → Bool
  | .staleReplicaEpoch .. | .conflictingReplicaConfiguration .. => true
  | _ => false

/-- The report is not newer than the last one of its session. -/
def ValidationError.staleSequence : ValidationError → Bool
  | .staleReportSequence .. => true
  | _ => false

/-- The protocol version that an agent answers with. -/
def AgentObservation.protocolVersion? : AgentObservation → Option Nat
  | .uninitialized r => some r.protocolVersion
  | .report r => some r.protocolVersion
  | _ => none

namespace Controller

/-- The evaluators of the transitions that neither build a replica nor elect a primary. -/
class OtherTransitions where
  bootstrap : ObservationSnapshot → TransitionIntent → AcceptedStatus → EvaluationConfig → Eval Plan
  secondaryScaleDown : ObservationSnapshot → TransitionIntent → EvaluationConfig → Eval Plan
  plannedSwitchover : ObservationSnapshot → TransitionIntent → EvaluationConfig → Eval Plan
  /-- The plan that closes a switchover which cannot safely complete. -/
  switchoverUnsafe : ObservationSnapshot → String → EvaluationConfig → Eval Plan

/-- No plans for these transitions, to evaluate the model on concrete inputs. -/
@[reducible] def noOtherTransitions : OtherTransitions :=
  ⟨fun _ _ _ _ => none, fun _ _ _ => none, fun _ _ _ => none, fun _ _ _ => none⟩

section

variable [Sha256] [OtherTransitions]

/-! ## Refusals -/

section

variable (s : ObservationSnapshot) (config : EvaluationConfig)

/-- Authority of a secondary removal, which is not enabled. -/
def removalDisabled : Bool :=
  !config.enableSecondaryScaleDown && (s.status.secondaryScaleDownCleanup.isSome ||
    s.status.lastSecondaryRemoval.isSome ||
    (s.status.transition.any fun t => t.kind = .secondaryScaleDown) ||
    s.reports.any fun r => r.preparedSecondaryRemoval.isSome ||
      r.secondaryRemovalEvidence.isSome || r.retiredReplica.isSome ||
      r.acceptedSecondaryRemoval.isSome)

def SecondaryScaleDown.active : Bool :=
  s.status.secondaryScaleDownCleanup.isSome ||
    (s.status.lastSecondaryRemoval.any fun r =>
      s.status.accepted = some r.evidence.preparation.intent.currentConfiguration) ||
    s.status.transition.any fun t => t.kind = .secondaryScaleDown

def SecondaryScaleDown.wait (status : AcceptedStatus) (reason message : String)
    (config : EvaluationConfig) : Plan :=
  .wait .activeTransition (waitingStatus status reason message) config.waitRequeueSeconds

/-- The healthy exact report of a replica in an observed session. -/
def SecondaryScaleDown.report (s : ObservationSnapshot) (identity : ReplicaIdentity) :
    Option AgentReport :=
  (exactReport s identity).filter fun r => r.healthy = true ∧ ¬r.Faulted ∧
    r.processSessionId ≠ "" ∧ 0 < r.reportSequence

/-- The status has a planned switchover, which is closed where other work is refused. -/
def switchingOver : Bool := s.status.transition.any fun t => t.kind = .plannedSwitchover

def switchoverWait (status : AcceptedStatus) (reason message : String)
    (config : EvaluationConfig) : Plan :=
  .wait .activeTransition (waitingStatus status reason message) config.waitRequeueSeconds

def invalidSnapshotPlan (error : ValidationError) : Eval Plan :=
  if config.enableSecondaryScaleDown && SecondaryScaleDown.active s && error.staleSequence then
    some (SecondaryScaleDown.wait s.status "ScaleDownFreshReportRequired"
      "Re-observe a newer report in the exact process session" config)
  else if switchingOver s then
    if error.staleSequence then some (switchoverWait s.status "SwitchoverFreshReportRequired"
      "Re-observe a strictly newer report in the current process session" config)
    else OtherTransitions.switchoverUnsafe s error.message config
  else some (unsafePlan s.status (if error = .desiredReplicasZero
    then .invalidDesiredState error.message else .invalidAcceptedAuthority error.message) config)

def incompatibleProtocolPlan : Option Plan :=
  s.replicas.ascending.findSome? fun e =>
    (e.2.agent.protocolVersion?.filter (· ≠ config.supportedProtocolVersion)).map fun observed =>
      unsafePlan s.status (.incompatibleProtocolVersion e.1.replicaId
        config.supportedProtocolVersion observed) config

/-- The candidate of an increase that is given up, or that no member was told of, may be invalid. -/
def invalidCandidateBinding (key : ReplicaObservationKey) : Bool :=
  (s.status.scaleUpCleanup.any fun c => c.target.observationKey = key) ||
    (s.status.provisioning.filter (·.scaleUp.isSome)).any fun p =>
      let target := p.targetIdentity s.resourceUid
      let admissionStarted := s.status.transition.any fun t => t.carriedScaleUp.any fun active =>
        decide (s.status.scaleUpAdmissionStarted = some active.operationId) ||
          t.scaleUpFailover.isSome ||
          s.reports.any fun r => ScaleUp.exactPcCcReport r active t.currentConfiguration
      !(s.status.accepted.any fun accepted => accepted.HasMember target) && !admissionStarted &&
        decide (target.observationKey = key)

/-- The invalid agents and what they answered. -/
def invalidAgents : List (ReplicaObservationKey × String) :=
  s.replicas.ascending.filterMap fun e => match e.2.agent with
    | .invalid message _ => some (e.1, message)
    | _ => none

def invalidAgentPlan : Option Plan :=
  ((invalidAgents s).find? fun e => !invalidCandidateBinding s e.1).map fun e =>
    unsafePlan s.status (.contradictoryReplicaEvidence
      ("replica " ++ e.1.text ++ " returned invalid evidence: " ++ e.2)) config

/-- A plan of refusal; a switchover is closed with its own message. -/
def refuse (message : String) (plan : Plan) : Eval Plan :=
  if switchingOver s then OtherTransitions.switchoverUnsafe s message config else some plan

/-! ## Corrections of the accepted configuration -/

def scaleUpAuthorityActive : Bool :=
  s.status.scaleUpCleanup.isSome || s.status.scaleUpAllocation.isSome ||
    (s.status.provisioning.any (·.scaleUp.isSome)) ||
    s.status.transition.any fun t => t.scaleUp.isSome || t.scaleUpFailover.isSome

def correctionCommand (accepted : ConfigurationDescriptor) (policy : EffectivePolicy)
    (member : ConfigurationMember) (operationId : OperationId) (currentOnly : Bool)
    (previous : ConfigurationDescriptor) : EnsureConfiguration :=
  failoverConfigurationCommand previous accepted member policy operationId (some 0)
    .reconfigurationPending currentOnly []

/-- What a member of the accepted configuration that lags behind it needs next. -/
def correctMember (accepted : ConfigurationDescriptor) (policy : EffectivePolicy)
    (member : ConfigurationMember) : Option Plan := do
  let r ← s.reportAt member.identity
  let suffix := ":" ++ accepted.configurationId ++ ":" ++ toString member.identity.replicaId
  let pcCc := "scale-up-accepted-correction" ++ suffix
  let alone := "scale-up-accepted-current-only" ++ suffix
  let send := fun command => some (.execute (.ensureConfiguration command))
  let contradicts := fun message =>
    some (unsafePlan s.status (.contradictoryReplicaEvidence message) config)
  let name := "accepted member " ++ toString member.identity.replicaId
  let installed := r.epoch = accepted.epoch ∧ r.currentConfiguration = some accepted ∧
    r.scaleUpIntent = none
  match r.pendingOperationId with
  | some pending =>
    if pending = pcCc ∨ pending = alone then
      match r.pendingConfiguration with
      | none => contradicts (name ++ " omitted its durable pending configuration")
      | some frozen =>
        match if pending = pcCc then frozen.previousConfiguration else some accepted with
        | none => contradicts "pending PC/CC correction omitted Previous Configuration"
        | some previous =>
          if frozen = correctionCommand accepted policy member pending (pending = alone) previous
          then send frozen
          else contradicts (name ++ " pending correction differs from frozen authority")
    else if r.pendingConfiguration.any fun c =>
        decide (c.operationId = pending) && c.scaleUpEvidence.isSome then none
    else if r.epoch < accepted.epoch ∨ installed then
      contradicts (name ++ " has unrelated pending configuration operation " ++ pending)
    else none
  | none =>
    match r.currentConfiguration.filter fun _ => ¬r.Faulted ∧ r.epoch < accepted.epoch with
    | some previous => send (correctionCommand accepted policy member pcCc false previous)
    | none => do
      let previous ← r.previousConfiguration
      if installed then send (correctionCommand accepted policy member alone true previous)
      else none

def scaleUpAcceptedCorrection : Option Plan := do
  guard (scaleUpAuthorityActive s)
  let accepted ← s.status.accepted
  let policy ← s.status.effectivePolicy
  (accepted.members.filter fun m => m.role ≠ .primary).findSome?
    (correctMember s config accepted policy)

/-- The active increase continues the one that the receipt ended. -/
def newerActiveAttemptOwnsReceiptReports (receipt : ScaleUpReceipt) : Bool :=
  (s.status.transition.bind (·.carriedScaleUp)).any fun active =>
    decide (active.operationId ≠ receipt.intent.operationId ∧
      active.previousConfiguration = receipt.acceptedConfiguration) &&
    s.status.provisioning.any fun p =>
      decide (p.targetIdentity s.resourceUid = active.target ∧
        p.scaleUpBuildId s.resourceUid = some active.buildId) &&
      p.scaleUp.any fun scaleUp => scaleUp.resourceUid = active.resourceUid ∧
        scaleUp.specGeneration = active.specGeneration ∧
        scaleUp.desiredReplicas = active.desiredReplicas ∧
        scaleUp.previousConfiguration = active.previousConfiguration ∧
        scaleUp.previousPolicy = active.previousPolicy ∧
        scaleUp.currentPolicy = active.currentPolicy ∧
        scaleUp.targetReplicaId = active.target.replicaId

/-- Authority of an increase, in the status or in a report. -/
def scaleUpAuthorityPresent : Bool :=
  scaleUpAuthorityActive s || s.status.lastScaleUp.isSome ||
    s.reports.any (·.scaleUpIntent.isSome)

def SecondaryScaleDown.recoverLocalAcceptance : Option Plan := do
  let receipt ← s.status.lastSecondaryRemoval
  let intent := receipt.evidence.preparation.intent
  let topology ← s.status.accepted
  guard (intent.currentConfiguration.epoch < topology.epoch)
  intent.currentConfiguration.members.findSome? fun member => do
    guard (member.role = .activeSecondary ∧ topology.HasMember member.identity)
    let r ← SecondaryScaleDown.report s member.identity
    guard (r.currentConfiguration = some intent.currentConfiguration ∧
      r.previousConfiguration = none ∧ r.secondaryRemovalEvidence = some receipt.evidence ∧
      r.acceptedSecondaryRemoval = none)
    let operationId := intent.commandOperationId .acceptCommit member.identity
    if r.role ≠ member.role ∨ r.epoch ≠ intent.currentConfiguration.epoch ∨
        r.writeStatus = .granted ∨ r.preparedSecondaryRemoval ≠ none ∨
        (∃ id ∈ r.pendingOperationId, id ≠ operationId) ∨
        ∀ lsn ∈ r.verifiedReplicationLsn, lsn < receipt.evidence.preparation.boundaryLsn then
      some (SecondaryScaleDown.wait s.status "ScaleDownLocalAcceptancePending"
        "Exact historical local authority, completed work and verified boundary are required before correction"
        config)
    else some (.execute (.acceptSecondaryRemovalCommit
      ⟨operationId, member.identity, receipt.committed, true⟩))

/-! ## The cleanup of a replacement -/

def SecondaryScaleDown.delete (resource : ScaleDownResource) :
    CleanupResourceIdentity → ExactResourceObservation → Option KubernetesChange
  | .present name uid, .frozenUidPresent resourceVersion =>
    if resourceVersion = "" then none
    else some (.deleteScaleDownResource resource name uid resourceVersion)
  | _, _ => none

namespace ReplacementCleanup

def waiting : Plan :=
  let condition : String × String :=
    if s.status.lastReplacement = none ∧ s.status.pendingReplacementCleanup = none then
      ("ReplacementCleanupIdentityPending",
        "Authoritative old-incarnation cleanup identity is required before replacement; legacy in-flight work without provenance remains fenced")
    else ("ReplacementCleanupPending",
      "Exact replacement cleanup must finish before another operation can start")
  .wait .activeTransition (waitingStatus s.status condition.1 condition.2) config.waitRequeueSeconds

def evaluate (cleanup : ReplacementCleanup) : Plan :=
  match (SecondaryScaleDown.resources s cleanup.target).filter fun r =>
      r.identity = cleanup.resources ∧ r.resourceUid = cleanup.resourceUid with
  | none => waiting s config
  | some exact =>
    match ([(.endpoint, cleanup.resources.endpoint, exact.endpoint),
        (.pod, cleanup.resources.pod, exact.pod), (.pvc, cleanup.resources.pvc, exact.pvc)] :
        List (ScaleDownResource × CleanupResourceIdentity × ExactResourceObservation)).find?
          fun e => !SecondaryScaleDown.absent e.2.1 e.2.2 with
    | some (kind, identity, observation) =>
      ((SecondaryScaleDown.delete kind identity observation).map fun change =>
        .apply [change]).getD (waiting s config)
    | none => persist (waitingStatus { s.status with lastReplacement := none }
        "ReplacementCleanupComplete"
        "Frozen replacement resources are absent; re-observe before admitting new work")

end ReplacementCleanup

end

/-! ## The transition -/

/-- The status that a pending transition shows, with the drift of the requested spec. -/
def pendingStatus (s : ObservationSnapshot) (t : TransitionIntent) : AcceptedStatus :=
  let status := transitionStatus s.status
  (desiredSpecState s t.currentConfiguration t.effectivePolicy).2.elim status status.withCondition

/-- The pending status is persisted first, but not merely to replace a more precise reason. -/
def persistsPending (s : ObservationSnapshot) (status : AcceptedStatus) : Bool :=
  let unsupported := fun st : AcceptedStatus => st.conditions.find? (·.type = "UnsupportedSpec")
  let precise := s.status.conditions.any fun c =>
    c.type = "Progressing" ∧ c.reason = "ElectionProgressPending"
  status ≠ s.status ∧ (precise = false ∨ unsupported s.status ≠ unsupported status)

def scaleUpDisabled (s : ObservationSnapshot) (config : EvaluationConfig) : Plan :=
  .wait .activeTransition (s.status.withCondition (progressingCondition
    "ScaleUpAuthorityPendingImplementation"
    "Persisted scale-up authority is valid but execution remains disabled"))
    config.stableResyncSeconds

def evaluateTransition (s : ObservationSnapshot) (t : TransitionIntent)
    (config : EvaluationConfig) : Eval Plan :=
  match t.kind with
  | .secondaryScaleDown => OtherTransitions.secondaryScaleDown s t config
  | .plannedSwitchover => OtherTransitions.plannedSwitchover s t config
  | kind =>
    if t.scaleUp.isSome ∨ t.scaleUpFailover.isSome then some (scaleUpDisabled s config)
    else
      let status := pendingStatus s t
      if persistsPending s status then some (persist status)
      else match kind with
      | .replacement => do
        if let some plan ← maybeBeginFailover s (some t) status config then
          return plan
        evaluateReplacementTransition s t status config
      | .failover => evaluateFailoverTransition s t status config
      | _ => OtherTransitions.bootstrap s t status config

/-- A member is replaced and its cleanup was not frozen before. -/
def LacksCleanup (s : ObservationSnapshot) (t : TransitionIntent) : Prop :=
  (t.kind = .replacement ∨ t.kind = .failover) ∧
    (∃ accepted ∈ s.status.accepted,
      ∃ m ∈ accepted.members, ¬t.currentConfiguration.HasMember m.identity) ∧
    s.status.pendingReplacementCleanup = none

instance (s : ObservationSnapshot) (t : TransitionIntent) : Decidable (LacksCleanup s t) := by
  unfold LacksCleanup
  infer_instance

def dispatch (s : ObservationSnapshot) (t : TransitionIntent) (config : EvaluationConfig) :
    Eval Plan :=
  if config.allowScaleUp = true ∧ (t.scaleUp.isSome ∨ t.scaleUpFailover.isSome) then
    ScaleUp.transition s t config
  else if LacksCleanup s t then some (ReplacementCleanup.waiting s config)
  else evaluateTransition s t config

/-- The correction of an accepted member waits for the failover of a failed primary. -/
def correctUnlessFailed (s : ObservationSnapshot) (config : EvaluationConfig) (correction : Plan) :
    Eval Plan := do
  let some accepted := s.status.accepted | return correction
  let primary ← configurationPrimary accepted
  if !replicaFailed s primary.identity then
    return correction
  if let some t := s.status.transition.filter fun t => t.scaleUp.isSome ∨ t.scaleUpFailover.isSome then
    return ← ScaleUp.transition s t config
  let some failover ← maybeBeginStableFailover s s.status config | return correction
  return failover

/-- Validates one snapshot and returns the next safe reconciliation outcome. -/
def evaluate (s : ObservationSnapshot) (config : EvaluationConfig) : Eval (Option Plan) :=
  if removalDisabled s config then some (some (unsafePlan s.status
    (.invalidAcceptedAuthority "Secondary scale-down execution is not enabled") config))
  else if (s.status.transition.filter fun t => t.kind = .plannedSwitchover).any fun t =>
      t.switchover.any fun i => i.resolution = .unsafeResolution then
    (OtherTransitions.switchoverUnsafe s (((s.status.conditions.find? fun c =>
      c.type = "SwitchoverSafety").map (·.message)).getD "Frozen switchover cannot safely complete")
      config).map some
  else match validateSnapshot s with
  | .error error =>
    if config.allowScaleUp && error.correctable then some none
    else (invalidSnapshotPlan s config error).map some
  | .ok () =>
    match incompatibleProtocolPlan s config with
    | some plan => (refuse s config "An exact participant uses incompatible protocol authority"
        plan).map some
    | none =>
    if s.status.scaleUpAllocation.isSome && !(invalidAgents s).isEmpty then some none
    else match invalidAgentPlan s config with
    | some plan => (refuse s config "An exact participant reports contradictory authority"
        plan).map some
    | none =>
    if s.observationFailures ≠ [] then some (some (.wait .agentUnavailable (waitingStatus s.status
      "ObservationFailed" "A required observation failed") config.waitRequeueSeconds))
    else if config.allowScaleUp && s.status.lastScaleUp.any fun receipt =>
        !newerActiveAttemptOwnsReceiptReports s receipt then some none
    else match if config.allowScaleUp then scaleUpAcceptedCorrection s config else none with
    | some correction => (correctUnlessFailed s config correction).map some
    | none =>
    if !s.supportingResourcesReady then some (some (.apply [.ensureReplicaSupport]))
    else if !config.allowScaleUp && scaleUpAuthorityPresent s then
      some (some (scaleUpDisabled s config))
    else match SecondaryScaleDown.recoverLocalAcceptance s config with
    | some plan => some (some plan)
    | none =>
    match s.status.lastReplacement, s.status.transition with
    | some cleanup, _ => some (some (ReplacementCleanup.evaluate s config cleanup))
    | none, some t => (dispatch s t config).map some
    | none, none => some none

/-- The evaluation sends the current configuration of the transition alone to some replica. -/
def SendsCurrentOnly (t : TransitionIntent) (config : EvaluationConfig)
    (s : ObservationSnapshot) : Prop :=
  ∃ plan ∈ (evaluate s config).join, plan.SendsCurrentOnly t.currentConfiguration

/-- The evaluation persists the topology of the transition. -/
def AcceptsTopology (t : TransitionIntent) (config : EvaluationConfig)
    (s : ObservationSnapshot) : Prop :=
  ∃ plan ∈ (evaluate s config).join,
    ∃ status ∈ plan.statuses, status.topology = some ⟨t.currentConfiguration⟩

instance (t : TransitionIntent) (config : EvaluationConfig) (s : ObservationSnapshot) :
    Decidable (SendsCurrentOnly t config s) := by
  unfold SendsCurrentOnly
  infer_instance

instance (t : TransitionIntent) (config : EvaluationConfig) (s : ObservationSnapshot) :
    Decidable (AcceptsTopology t config s) := by
  unfold AcceptsTopology
  infer_instance

end

/-! ## What an evaluation keeps before the transition -/

section

variable {s : ObservationSnapshot} {t : TransitionIntent} {config : EvaluationConfig}
  {status : AcceptedStatus} {plan : Plan} {c : ConfigurationDescriptor}

theorem statuses_fenceRouting :
    (Plan.apply (fenceRouting s ++ [.persistStatus status])).statuses = [status] := by
  unfold fenceRouting
  split_ifs <;> rfl

theorem keeps_awaitReadQuorum {accepted basis : ConfigurationDescriptor} {policy : EffectivePolicy}
    {abandons pending : String} :
    (awaitReadQuorum s accepted basis policy abandons pending status config).Keeps c
      status.topology := by
  unfold awaitReadQuorum
  split_ifs
  · exact keeps_unsafePlan rfl
  · exact keeps_persist (waitingStatus_topology _ _)
  · exact keeps_wait (waitingStatus_topology _ _)

theorem keeps_correctMember {accepted : ConfigurationDescriptor} {policy : EffectivePolicy}
    {member : ConfigurationMember} (hc : accepted ≠ c)
    (h : correctMember s config accepted policy member = some plan) :
    plan.Keeps c s.status.topology := by
  have hsend {operationId : OperationId} {currentOnly : Bool} {previous : ConfigurationDescriptor} :
      (Plan.execute (.ensureConfiguration (correctionCommand accepted policy member operationId
        currentOnly previous))).Keeps c s.status.topology :=
    keeps_execute fun _ => hc
  obtain ⟨r, -, h⟩ := Option.bind_eq_some_iff.mp h
  dsimp only at h
  split at h
  · split at h
    · split at h
      · cases h
        exact keeps_unsafePlan rfl
      split at h
      · cases h
        exact keeps_unsafePlan rfl
      split at h
      · next hfrozen =>
        cases h
        rw [hfrozen]
        exact hsend
      · cases h
        exact keeps_unsafePlan rfl
    · split at h
      · cases h
      split at h
      · cases h
        exact keeps_unsafePlan rfl
      · cases h
  · split at h
    · cases h
      exact hsend
    · obtain ⟨previous, -, h⟩ := Option.bind_eq_some_iff.mp h
      split at h <;> cases h
      exact hsend

theorem ReplacementCleanup.keeps_waiting :
    (waiting s config).Keeps c s.status.topology :=
  keeps_wait (waitingStatus_topology _ _)

theorem ReplacementCleanup.keeps_evaluate {cleanup : Kuberic.ReplacementCleanup} :
    (evaluate s config cleanup).Keeps c s.status.topology := by
  unfold evaluate
  split
  · exact keeps_waiting
  split
  · next kind identity observation _ =>
    unfold SecondaryScaleDown.delete
    split
    · split_ifs
      · exact keeps_waiting
      · exact keeps_apply rfl fun _ h => absurd h List.not_mem_nil
    · exact keeps_waiting
  · exact keeps_persist (waitingStatus_topology _ _)

variable [Sha256]

theorem keeps_beginFailover {active : Option TransitionIntent} {abandons pending : String}
    (h : beginFailover s active abandons pending status config = some (some plan)) :
    plan.Keeps c status.topology := by
  simp only [beginFailover, Option.bind_eq_bind, Option.bind_eq_some_iff, Option.pure_def] at h
  obtain ⟨accepted, -, primary, -, h⟩ := h
  split at h
  · split at h
    · cases h
      exact keeps_persist (waitingStatus_topology _ _)
    · simp at h
  obtain ⟨acceptedPrimary, -, h⟩ := Option.bind_eq_some_iff.mp h
  split at h
  swap
  · cases h
    exact keeps_apply statuses_fenceRouting (List.forall_mem_singleton.2 (waitingStatus_topology _ _))
  split at h
  · cases h
    exact keeps_apply rfl (List.forall_mem_singleton.2 (waitingStatus_topology _ _))
  obtain ⟨policy, -, h⟩ := Option.bind_eq_some_iff.mp h
  split at h
  · cases h
    exact keeps_wait (waitingStatus_topology _ _)
  split at h
  · cases h
    exact keeps_awaitReadQuorum
  split at h
  · cases h
    exact keeps_persist (waitingStatus_topology _ _)
  · simp at h

theorem keeps_recoverLocalAcceptance
    (h : SecondaryScaleDown.recoverLocalAcceptance s config = some plan) :
    plan.Keeps c s.status.topology := by
  simp only [SecondaryScaleDown.recoverLocalAcceptance, Option.bind_eq_bind,
    Option.bind_eq_some_iff] at h
  obtain ⟨receipt, -, topology, -, -, -, h⟩ := h
  obtain ⟨member, -, h⟩ := List.exists_of_findSome?_eq_some h
  simp only [Option.bind_eq_some_iff] at h
  obtain ⟨-, -, r, -, -, -, h⟩ := h
  split at h <;> cases h
  · exact keeps_wait (waitingStatus_topology _ _)
  · exact keeps_of_statuses not_false rfl fun _ h => absurd h List.not_mem_nil

variable [OtherTransitions]

theorem correctUnlessFailed_cases {correction : Plan} (ht : s.status.transition = some t)
    (hc : s.status.accepted ≠ some c) (hallow : config.allowScaleUp = true)
    (hcorrection : scaleUpAcceptedCorrection s config = some correction)
    (h : correctUnlessFailed s config correction = some plan) :
    plan.Keeps c s.status.topology ∨ dispatch s t config = some plan := by
  have hkeeps : correction.Keeps c s.status.topology := by
    simp only [scaleUpAcceptedCorrection, Option.bind_eq_bind, Option.bind_eq_some_iff]
      at hcorrection
    obtain ⟨-, -, accepted, haccepted, policy, -, hcorrection⟩ := hcorrection
    obtain ⟨member, -, hcorrection⟩ := List.exists_of_findSome?_eq_some hcorrection
    exact keeps_correctMember (fun heq => hc (haccepted.trans (congrArg some heq))) hcorrection
  simp only [correctUnlessFailed, ht, Option.bind_eq_bind, Option.pure_def] at h
  split at h
  swap
  · cases h
    exact .inl hkeeps
  obtain ⟨primary, -, h⟩ := Option.bind_eq_some_iff.mp h
  split at h
  · cases h
    exact .inl hkeeps
  split at h
  · next t' ht' =>
    obtain ⟨ht', hcarries⟩ := Option.filter_eq_some_iff.mp ht'
    cases ht'
    refine .inr ?_
    rw [dispatch, if_pos ⟨hallow, of_decide_eq_true hcarries⟩, h]
  obtain ⟨failover, hfailover, h⟩ := Option.bind_eq_some_iff.mp h
  cases failover with
  | none =>
    cases h
    exact .inl hkeeps
  | some failover =>
    cases h
    exact .inl (keeps_beginFailover hfailover)

/-- Unless the status switches over, everything before the transition keeps the topology. -/
theorem evaluate_cases (ht : s.status.transition = some t) (hkind : t.kind ≠ .plannedSwitchover)
    (hc : s.status.accepted ≠ some c) (h : plan ∈ (evaluate s config).join) :
    plan.Keeps c s.status.topology ∨
      (validateSnapshot s = .ok () ∧ dispatch s t config = some plan) := by
  have hover : switchingOver s = false := by simp [switchingOver, ht, hkind]
  have hrefuse {message : String} {plan' : Plan}
      (hplan : plan'.Keeps c s.status.topology)
      (h : (refuse s config message plan').map some = some (some plan)) :
      plan.Keeps c s.status.topology := by
    simp only [refuse, hover, Bool.false_eq_true, if_false, Option.map_some] at h
    cases h
    exact hplan
  rw [Option.mem_def, Option.join_eq_some_iff] at h
  unfold evaluate at h
  split at h
  · cases h
    exact .inl (keeps_unsafePlan rfl)
  split at h
  · simp [ht, hkind] at *
  split at h
  · split at h
    · cases h
    · simp only [invalidSnapshotPlan, hover, Bool.false_eq_true, if_false] at h
      split at h <;> cases h
      · exact .inl (keeps_wait (waitingStatus_topology _ _))
      · exact .inl (keeps_unsafePlan rfl)
  next hvalid =>
  split at h
  · next hplan =>
    obtain ⟨e, -, hplan⟩ := List.exists_of_findSome?_eq_some hplan
    obtain ⟨observed, -, rfl⟩ := Option.map_eq_some_iff.mp hplan
    exact .inl (hrefuse (keeps_unsafePlan rfl) h)
  split at h
  · cases h
  split at h
  · next hplan =>
    obtain ⟨e, -, rfl⟩ := Option.map_eq_some_iff.mp hplan
    exact .inl (hrefuse (keeps_unsafePlan rfl) h)
  split at h
  · cases h
    exact .inl (keeps_wait (waitingStatus_topology _ _))
  split at h
  · cases h
  split at h
  · next correction hcorrection =>
    obtain ⟨plan', hplan', hsome⟩ := Option.map_eq_some_iff.mp h
    cases hsome
    rw [Option.ite_none_right_eq_some] at hcorrection
    obtain ⟨hallow, hcorrection⟩ := hcorrection
    exact (correctUnlessFailed_cases ht hc hallow hcorrection hplan').imp_right
      fun hdispatch => ⟨hvalid, hdispatch⟩
  split at h
  · cases h
    exact .inl (keeps_apply rfl fun _ h => absurd h List.not_mem_nil)
  split at h
  · cases h
    exact .inl (keeps_wait rfl)
  split at h
  · cases h
    exact .inl (keeps_recoverLocalAcceptance ‹_›)
  rw [ht] at h
  split at h
  · cases h
    exact .inl ReplacementCleanup.keeps_evaluate
  · next t' _ ht' =>
    cases ht'
    obtain ⟨plan', hplan', hsome⟩ := Option.map_eq_some_iff.mp h
    cases hsome
    exact .inr ⟨hvalid, hplan'⟩
  · cases h

end

end Controller

end Kuberic
