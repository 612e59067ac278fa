import Kuberic.Controller.Cleanup

/-!
# Failover

A failed primary is first recorded and its routing fenced; after the frozen delay a read quorum of
reports elects a provisional primary under a new epoch.  The failover transition installs that epoch
on every member that can be reached, elects again among the epoch-fenced reports, repairs members
that lag too far, grants write access and finally activates the current configuration alone.
-/

namespace Kuberic.Controller

variable [Sha256]

/-! ## The start of a failover -/

/-- When the frozen delay after a failure has passed, with the saturation of `i64`. -/
def failoverDeadline (failure : PrimaryFailureObservation) (policy : EffectivePolicy) : Int :=
  min (failure.startedAtUnixSeconds + min (policy.failoverDelaySeconds : Int) i64Max) i64Max

/-- The removal of routing, if there may be any. -/
def fenceRouting (s : ObservationSnapshot) : List KubernetesChange :=
  if s.routing.Open then [.removeWriteRouting] else []

/-- The failover intent for the winner of an election of `basis`. -/
def failoverIntent (s : ObservationSnapshot) (active : Option TransitionIntent)
    (accepted basis : ConfigurationDescriptor) (policy : EffectivePolicy)
    (candidate : AgentReport) : TransitionIntent :=
  let current := configurationWithPrimary basis candidate.identity ⟨basis.epoch.dataLossNumber,
    max basis.epoch.configurationNumber accepted.epoch.configurationNumber + 1⟩
  { plainTransition (ReplacementCleanup.transitionId s .failover current) .failover
      ((active.map (·.specGeneration)).getD s.status.observedGeneration) policy
      (some accepted.configurationId) current with
    electionLsn := some candidate.currentProgress
    buildId := active.bind (·.buildId) }

/-- Without a read quorum the failover waits, or is impossible. -/
def awaitReadQuorum (s : ObservationSnapshot) (accepted basis : ConfigurationDescriptor)
    (policy : EffectivePolicy) (abandons pending : String) (status : AcceptedStatus)
    (config : EvaluationConfig) : Plan :=
  if configurationCannotRegainReadQuorum s accepted policy.readQuorum ∨
      configurationCannotRegainReadQuorum s basis policy.readQuorum then
    unsafePlan status (.contradictoryReplicaEvidence abandons) config
  else if status.quorumLoss.map (·.configurationId) ≠ some accepted.configurationId then
    persist (waitingStatus { status with quorumLoss := some ⟨accepted.configurationId⟩ }
      "FailoverReadQuorumUnavailable" pending)
  else .wait .quorumLoss (waitingStatus status "FailoverReadQuorumUnavailable" pending)
    config.waitRequeueSeconds

/-- Failover from the configuration of an outstanding transition, or from the accepted one. -/
def beginFailover (s : ObservationSnapshot) (active : Option TransitionIntent)
    (abandons pending : String) (status : AcceptedStatus) (config : EvaluationConfig) :
    Eval (Option Plan) := do
  let accepted ← s.status.accepted
  let basis := (active.map (·.currentConfiguration)).getD accepted
  let primary ← configurationPrimary basis
  if !replicaFailed s primary.identity then
    if status.primaryFailure ≠ none then
      return some (persist (waitingStatus { status with primaryFailure := none } "PrimaryRecovered"
        "The accepted primary recovered before failover authority was allocated"))
    return none
  let acceptedPrimary ← configurationPrimary accepted
  let some failure := status.primaryFailure.filter fun f => f.primary = acceptedPrimary.identity
    | return some (.apply (fenceRouting s ++ [.persistStatus (waitingStatus
        { status with
          primaryFailure := some ⟨acceptedPrimary.identity, s.nowUnixSeconds⟩
          quorumLoss := none }
        "PrimaryFailureObserved"
        "Persisted exact primary failure observation and fenced write routing")]))
  if s.routing.Open then
    return some (.apply [.removeWriteRouting, .persistStatus (waitingStatus status
      "RoutingFencePending" "Removing routing to the failed primary before failover")])
  let policy ← s.status.effectivePolicy
  if s.nowUnixSeconds < failoverDeadline failure policy then
    return some (.wait .failoverDelay (waitingStatus status "FailoverDelay"
      "Waiting for the frozen primary-failure delay") config.waitRequeueSeconds)
  let reports := availableUnionReports s accepted basis
  if !configurationReadQuorum accepted reports policy.readQuorum ||
      !configurationReadQuorum basis reports policy.readQuorum then
    return some (awaitReadQuorum s accepted basis policy abandons pending status config)
  let some candidate := selectFailoverCandidate basis reports | return none
  return some (persist (waitingStatus
    { status with
      transition := some (failoverIntent s active accepted basis policy candidate)
      quorumLoss := none }
    "FailoverIntentPersisted"
    "Persisted a newer write-closed failover epoch with a provisional coordinator"))

def maybeBeginStableFailover (s : ObservationSnapshot) (status : AcceptedStatus)
    (config : EvaluationConfig) : Eval (Option Plan) :=
  beginFailover s none "ordinary recovery would require abandoning accepted configuration quorum"
    "Failover remains write-closed until Current Configuration read quorum is observed" status
    config

def maybeBeginFailover (s : ObservationSnapshot) (active : Option TransitionIntent)
    (status : AcceptedStatus) (config : EvaluationConfig) : Eval (Option Plan) :=
  beginFailover s active "ordinary recovery would require abandoning PC or outstanding CC quorum"
    "Failover remains write-closed until PC and outstanding CC read quorum are observed" status
    config

/-! ## Repair of lagging members -/

/-- The build with the given id and target has completed. -/
def buildCompleted (report : AgentReport) (buildId : OperationId) (target : ReplicaIdentity) :
    Bool :=
  report.builds.any fun b => b.buildId = buildId ∧ b.target = target ∧ b.completed = true

/-- The build has completed and covers everything that the source holds. -/
def sourceBuildCompleted (source : AgentReport) (buildId : OperationId)
    (target : ReplicaIdentity) : Bool :=
  source.builds.any fun b => b.buildId = buildId ∧ b.target = target ∧ b.completed = true ∧
    source.currentProgress ≤ b.durableLsn

/-- The first member whose progress the primary no longer retains. -/
def laggingMember (current : ConfigurationDescriptor) (primary : ConfigurationMember)
    (reports : List AgentReport) (retainedFrom : Int) : Option ConfigurationMember :=
  current.members.find? fun m => decide (m.identity ≠ primary.identity) &&
    (reports.find? fun r => r.identity = m.identity).any fun r =>
      min (r.currentProgress + 1) i64Max < retainedFrom

def evaluateFailoverRepair (s : ObservationSnapshot) (transition : TransitionIntent)
    (previous current : ConfigurationDescriptor) (primary : ConfigurationMember)
    (primaryReport : AgentReport) (reports : List AgentReport) (status : AcceptedStatus) :
    Eval (Option Plan) := do
  let some retainedFrom := primaryReport.catchUpCapability | return none
  let some repair := transition.repair
    | let some member := laggingMember current primary reports retainedFrom | return none
      let repair : ReplicaRepairIntent := ⟨deriveFailoverRepairOperationId s.resourceUid
        transition.transitionId member.identity, member.identity⟩
      return some (persist (waitingStatus
        { status with transition := some { transition with repair := some repair } }
        "FailoverFullCopyAuthorized"
        "Persisted exact full-copy authority for a configured lagging member"))
  let targetReport := reports.find? fun r => r.identity = repair.target
  if !sourceBuildCompleted primaryReport repair.operationId repair.target ||
      !targetReport.any fun r => buildCompleted r repair.operationId repair.target then
    return some (.execute (.ensureReplicaBuild
      (replicaBuildCommand repair.operationId primary.identity repair.target)))
  let target ← current.member? repair.target
  if !targetReport.any fun r => r.role = target.role ∧
      primaryReport.currentProgress ≤ r.currentProgress ∧ r.At (some previous) current then
    return some (.execute (.ensureConfiguration (failoverConfigurationCommand previous current
      target transition.effectivePolicy (memberOperationId transition "post-copy" target)
      transition.electionLsn .reconfigurationPending false [])))
  return some (persist (waitingStatus
    { status with transition := some { transition with repair := none } }
    "FailoverFullCopyCompleted"
    "Completed one exact repair and will evaluate any remaining lagging members"))

/-! ## The failover transition -/

section Transition

variable (s : ObservationSnapshot) (transition : TransitionIntent)
  (previous current : ConfigurationDescriptor) (primary : ConfigurationMember)

/-- The installation of the election epoch on the next member that lacks it, the primary last. -/
def failoverInstall : Option Plan :=
  ((configurationUnion previous current).filter (fun m => m.identity ≠ primary.identity) ++
      [primary]).findSome? fun member => do
    let report ← healthyReport s member.identity
    if report.At (some previous) current ∨ report.pendingOperationId ≠ none then none
    else some (.execute (.ensureConfiguration (failoverConfigurationCommand previous current member
      transition.effectivePolicy (failoverInstallOperationId transition member)
      transition.electionLsn .reconfigurationPending false [])))

/-- The exact reports under the authority of the election. -/
def exactPcCcReports : List AgentReport :=
  (configurationUnion previous current).filterMap fun m =>
    (exactReport s m.identity).filter fun r => r.At (some previous) current

/-- The epoch-fenced reports that may win: not the failed primary. -/
def electionReports (status : AcceptedStatus) : List AgentReport :=
  (exactPcCcReports s previous current).filter fun r => current.HasMember r.identity ∧
    r.deactivationEpoch = some current.epoch ∧
    ∀ failure ∈ status.primaryFailure, failure.primary ≠ r.identity

/-- The intent for another winner than the provisional primary. -/
def correctedIntent (candidate : AgentReport) : TransitionIntent :=
  let corrected := configurationWithPrimary current candidate.identity current.epoch.next
  { plainTransition (ReplacementCleanup.transitionId s .failover corrected) .failover
      transition.specGeneration transition.effectivePolicy transition.previousConfigurationId
      corrected with
    electionLsn := some candidate.currentProgress
    buildId := transition.buildId }

/-- The election until write access is granted and the old epoch deactivated. -/
def evaluateElection (status : AcceptedStatus) (config : EvaluationConfig) :
    Eval (Option Plan) := do
  let reports := exactPcCcReports s previous current
  let live := reports.filter fun r => (healthyReport s r.identity).isSome
  let readQuorum := transition.effectivePolicy.readQuorum
  if let some plan := failoverInstall s transition previous current primary then
    return some plan
  if !configurationReadQuorum previous reports readQuorum ||
      !configurationReadQuorum current reports readQuorum then
    return some (.wait .quorumLoss (waitingStatus status "ElectionEpochReadQuorumPending"
      "Eligible replicas must accept the election epoch before candidate selection")
      config.waitRequeueSeconds)
  let some candidate := selectFailoverCandidate current
      (electionReports s previous current status)
    | return some (.wait .awaitingStableEvidence (waitingStatus status "ElectionProgressPending"
        "Waiting for epoch-fenced progress and deactivation evidence") config.waitRequeueSeconds)
  if healthyReport s candidate.identity = none then
    return some (.wait .awaitingStableEvidence (waitingStatus status "ElectionWinnerUnavailable"
      "The highest exact epoch-fenced progress winner is not currently available")
      config.waitRequeueSeconds)
  let primaryReport := live.find? fun r => r.identity = primary.identity
  if candidate.identity ≠ primary.identity ∧ ∀ r ∈ primaryReport, r.writeStatus ≠ .granted then
    return some (persist (waitingStatus
      { status with transition := some (correctedIntent s transition current candidate) }
      "FailoverCandidateCorrected"
      "Allocated a newer epoch for the authoritative progress winner"))
  let some primaryReport := primaryReport
    | return some (.wait .awaitingStableEvidence (waitingStatus status
        "PrimaryElectionEvidencePending"
        "The selected primary has not completed its write-closed election command")
        config.waitRequeueSeconds)
  if let some plan ← evaluateFailoverRepair s transition previous current primary primaryReport live
      status then
    return some plan
  if primaryReport.writeStatus ≠ .granted ∨ primaryReport.catchUpComplete = false then
    return some (.execute (.ensureConfiguration (failoverConfigurationCommand previous current
      primary transition.effectivePolicy (memberOperationId transition "grant-write" primary)
      transition.electionLsn .granted false [])))
  if !configurationDeactivationQuorum previous reports readQuorum current.epoch ||
      !configurationDeactivationQuorum current reports readQuorum current.epoch then
    return some (.wait .activeTransition (waitingStatus status "DeactivationQuorumPending"
      "Waiting for PC and CC deactivation evidence before current-only activation")
      config.waitRequeueSeconds)
  return none

def retiredBuilds : List OperationId :=
  transition.buildId.toList ++
    (current.members.filter fun m => m.identity ≠ primary.identity).map fun m =>
      deriveFailoverRepairOperationId s.resourceUid transition.transitionId m.identity

/-- The activation of the current configuration alone on the next member that lacks it. -/
def failoverActivate : Option Plan :=
  current.members.findSome? fun member => do
    let report ← healthyReport s member.identity
    let operationId := failoverCurrentOnlyOperationId transition member
    if report.At none current ∧ report.pendingOperationId = none ∧
        report.retainedOperationId = some operationId then none
    else some (.execute (.ensureConfiguration (failoverConfigurationCommand previous current member
      transition.effectivePolicy operationId transition.electionLsn
      (if member.identity = primary.identity then .granted else .reconfigurationPending) true
      (retiredBuilds s transition current primary))))

/-- The healthy reports under the current configuration alone. -/
def currentOnlyReports : List AgentReport :=
  current.members.filterMap fun m => (healthyReport s m.identity).filter fun r => r.At none current

def acceptFailover : AcceptedStatus :=
  let retired := previous.members.any fun m => !current.HasMember m.identity
  let accepted := clearEvaluatorConditions s.status
  { accepted with
    observedGeneration := transition.specGeneration
    topology := some ⟨current⟩
    transition := none
    scaleUpAllocation := accepted.scaleUpAllocation.map fun a =>
      { a with acceptedConfigurationId := current.configurationId }
    lastReplacement :=
      if retired then accepted.pendingReplacementCleanup else accepted.lastReplacement
    pendingReplacementCleanup := if retired then none else accepted.pendingReplacementCleanup
    primaryFailure := none
    quorumLoss := none }

end Transition

def evaluateFailoverTransition (s : ObservationSnapshot) (transition : TransitionIntent)
    (status : AcceptedStatus) (config : EvaluationConfig) : Eval Plan := do
  let previous ← s.status.accepted
  let current := transition.currentConfiguration
  let primary ← configurationPrimary current
  if s.routing.Open then
    return .apply [.removeWriteRouting, .persistStatus (waitingStatus status "RoutingFencePending"
      "Write routing remains fenced throughout failover")]
  let currentOnlyStarted := current.members.any fun m =>
    (healthyReport s m.identity).any fun r => r.At none current
  let election ← if currentOnlyStarted then pure none
    else evaluateElection s transition previous current primary status config
  if let some plan := election then
    return plan
  if let some plan := failoverActivate s transition previous current primary then
    return plan
  let reports := currentOnlyReports s current
  if (reports.any fun r => r.identity = primary.identity ∧ r.writeStatus = .granted) &&
      configurationReportQuorum current reports then
    return persist ((acceptFailover s transition previous current).withCondition
      (progressingCondition "FailoverTopologyAccepted"
        "Accepted the epoch-fenced failover topology"))
  return .wait .activeTransition status config.waitRequeueSeconds

end Kuberic.Controller
