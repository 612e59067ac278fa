import Kuberic.Controller.Failover

/-!
# The transition of a scale-up

An expanded configuration is installed in three steps.  A persisted fence separates the attempts
that may still be cancelled from those that may not.  Then every member receives the authority of
the pair of configurations, and once both of them have a write quorum under it, the candidate has
reached its boundary and the primary grants writes, every member receives the expanded configuration
alone.  When the primary fails behind the fence, the transition continues as a failover: a
provisional epoch fences the members, the safe prefix is elected among them, and the elected primary
leads the expanded configuration.
-/

namespace Kuberic.Controller.ScaleUp

variable [Sha256]

/-! ## Progress -/

omit [Sha256] in
def counts (s : ObservationSnapshot) (status : AcceptedStatus) : Nat × Nat :=
  ((status.effectivePolicy.map (·.replicaSetSize)).getD 0, s.desired.replicas)

def progressStatus (s : ObservationSnapshot) (status : AcceptedStatus) (reason phase : String)
    (target : Option ReplicaIdentity) (attempt : Option OperationId) (blocking : String) :
    AcceptedStatus :=
  let target := (target.map fun i => toString i.replicaId ++ "@" ++ i.instanceId).getD "none"
  waitingStatus status reason ("accepted=" ++ toString (counts s status).1 ++ " desired=" ++
    toString (counts s status).2 ++ " target=" ++ target ++ " attempt=" ++ attempt.getD "none" ++
    " phase=" ++ phase ++ " blocking=" ++ blocking)

def publishPhaseIfChanged (s : ObservationSnapshot) (status : AcceptedStatus)
    (reason phase : String) (target : Option ReplicaIdentity) (attempt : Option OperationId)
    (blocking : String) : Option Plan :=
  let next := progressStatus s status reason phase target attempt blocking
  if next = status then none else some (persist next)

def progressWait (kind : WaitReason) (s : ObservationSnapshot) (status : AcceptedStatus)
    (reason phase : String) (target : Option ReplicaIdentity) (attempt : Option OperationId)
    (blocking : String) (config : EvaluationConfig) : Plan :=
  .wait kind (progressStatus s status reason phase target attempt blocking)
    config.waitRequeueSeconds

def wait := progressWait .activeTransition

def quorumWait := progressWait .quorumLoss

/-! ## Evidence of the members -/

/-- The report has the authority of the attempt and has verified its boundary. -/
def attests (r : AgentReport) (intent : ScaleUpIntent) (previous : Option ConfigurationDescriptor)
    (current : ConfigurationDescriptor) : Bool :=
  r.At previous current ∧ r.scaleUpIntent = some intent ∧
    ∃ lsn ∈ r.verifiedReplicationLsn, intent.catchUpBoundaryLsn ≤ lsn

def exactPcCcReport (r : AgentReport) (intent : ScaleUpIntent) (current : ConfigurationDescriptor) :
    Bool :=
  attests r intent (some intent.previousConfiguration) current

def exactCurrentOnlyReport (r : AgentReport) (intent : ScaleUpIntent)
    (current : ConfigurationDescriptor) : Bool :=
  attests r intent none current

/-- The report is fenced under the pair and has not granted writes. -/
def exactFencedPcCcReport (r : AgentReport) (intent : ScaleUpIntent)
    (current : ConfigurationDescriptor) : Bool :=
  r.At (some intent.previousConfiguration) current ∧ r.scaleUpIntent = some intent ∧
    intent.catchUpBoundaryLsn ≤ r.currentProgress ∧ r.pendingOperationId = none ∧
    r.retainedOperationId = some (intent.commandOperationId .previousCurrent r.identity current) ∧
    r.deactivationEpoch = some current.epoch ∧ r.deactivatedLsn.isSome ∧ r.writeStatus ≠ .granted

def witness (r : AgentReport) : Option ScaleUpWitness := do
  let current ← r.currentConfiguration
  let verified ← r.verifiedReplicationLsn
  return {
    resourceUid := r.resourceUid
    identity := r.identity
    role := r.role
    processSessionId := r.processSessionId
    reportSequence := r.reportSequence
    epoch := r.epoch
    previousConfigurationId := r.previousConfiguration.map (·.configurationId)
    currentConfigurationId := current.configurationId
    verifiedReplicationLsn := verified
    writeStatus := r.writeStatus
    pendingOperationId := r.pendingOperationId
    retainedOperationId := r.retainedOperationId }

def finalWitness (r : AgentReport) : Option ScaleUpFinalWitness := do
  let deactivated ← r.deactivatedLsn
  let fence ← r.retainedOperationId
  return ⟨r.identity.replicaId, r.processSessionId, r.reportSequence, r.currentProgress,
    r.committedLsn, deactivated, fence⟩

/-- A settled member of the given stage. -/
def settled (r : AgentReport) (m : ConfigurationMember) (intent : ScaleUpIntent)
    (stage : ScaleUpStage) (current : ConfigurationDescriptor) : Bool :=
  r.pendingOperationId = none ∧
    r.retainedOperationId = some (intent.commandOperationId stage m.identity current)

def memberWitness (s : ObservationSnapshot) (intent : ScaleUpIntent)
    (current : ConfigurationDescriptor) (stage : ScaleUpStage) (m : ConfigurationMember) :
    Option ScaleUpWitness := do
  let r ← healthyReport s m.identity
  let exact := if stage = .currentOnly then exactCurrentOnlyReport r intent current
    else exactPcCcReport r intent current
  if exact && settled r m intent stage current then witness r else none

def quorumWitnesses (s : ObservationSnapshot) (intent : ScaleUpIntent)
    (current eligible : ConfigurationDescriptor) (stage : ScaleUpStage) : List ScaleUpWitness :=
  eligible.members.filterMap (memberWitness s intent current stage)

def recoveryWitnesses (s : ObservationSnapshot) (intent : ScaleUpIntent)
    (eligible : ConfigurationDescriptor) : List ScaleUpWitness :=
  eligible.members.filterMap fun m => do
    let r ← healthyReport s m.identity
    let stage ← if exactPcCcReport r intent intent.currentConfiguration then
        some ScaleUpStage.previousCurrent
      else if exactCurrentOnlyReport r intent intent.currentConfiguration then some .currentOnly
      else none
    if settled r m intent stage intent.currentConfiguration then witness r else none

/-! ## Members that still have older authority -/

def witnessedProvisionalSession (e : ScaleUpFailoverEvidence) (r : AgentReport) : Bool :=
  ((e.previousReadQuorum ++ e.currentReadQuorum).any fun w =>
    w.identity = r.identity ∧ w.processSessionId = r.processSessionId) ||
  e.finalElection.any fun final => final.witnesses.any fun w =>
    w.replicaId = r.identity.replicaId ∧
      (∃ m ∈ e.provisionalConfiguration.members, m.identity = r.identity ∧
        m.identity.replicaId = w.replicaId) ∧
      w.processSessionId = r.processSessionId

def claimsProvisionalFailoverAuthority (r : AgentReport) (e : ScaleUpFailoverEvidence) : Bool :=
  r.epoch = e.provisionalConfiguration.epoch ∨
    r.currentConfiguration = some e.provisionalConfiguration

def exactProvisionalFailoverReport (r : AgentReport) (m : ConfigurationMember)
    (e : ScaleUpFailoverEvidence) : Bool :=
  let provisional := e.provisionalConfiguration
  decide (r.identity = m.identity ∧
    (∃ p ∈ provisional.members, p.identity = r.identity ∧ p.role = r.role) ∧
    r.At (some e.intent.previousConfiguration) provisional ∧ r.scaleUpIntent = some e.intent ∧
    e.intent.catchUpBoundaryLsn ≤ r.currentProgress ∧
    (∃ lsn ∈ r.verifiedReplicationLsn, e.intent.catchUpBoundaryLsn ≤ lsn) ∧
    r.retainedOperationId =
      some (e.intent.commandOperationId .previousCurrent r.identity provisional) ∧
    r.deactivationEpoch = some provisional.epoch ∧ r.deactivatedLsn.isSome ∧
    r.writeStatus ≠ .granted) && witnessedProvisionalSession e r

def needsScaleUpPcCc (r : AgentReport) (m : ConfigurationMember)
    (evidence : ScaleUpConfigurationEvidence) : Bool :=
  let intent := evidence.intent
  let retainedPrevious := decide (r.previousConfiguration = none ∧
    r.currentConfiguration = some intent.previousConfiguration ∧
    ∃ p ∈ intent.previousConfiguration.members, p.identity = r.identity ∧
      p.identity = m.identity ∧ p.role = r.role)
  let idleCandidate := decide (m.identity = intent.target ∧ r.identity = intent.target ∧
    r.role = .idleSecondary ∧ r.previousConfiguration = none ∧ r.currentConfiguration = none)
  let provisionalFailover := match evidence with
    | .admission _ => false
    | .failover e => exactProvisionalFailoverReport r m e
  retainedPrevious || idleCandidate || provisionalFailover

/-! ## Commands -/

def configurationCommand (evidence : ScaleUpConfigurationEvidence)
    (current : ConfigurationDescriptor) (m : ConfigurationMember) (currentOnly : Bool)
    (failoverSafeLsn : Option Int) : EnsureConfiguration :=
  let intent := evidence.intent
  let failover := match evidence with
    | .admission _ => false
    | .failover _ => true
  { memberCommand (if failover then .failover else .scaleUp)
      (unlessCurrentOnly currentOnly intent.previousConfiguration) current m intent.currentPolicy
      (intent.commandOperationId (if currentOnly then .currentOnly else .previousCurrent) m.identity
        current)
      failoverSafeLsn (if failover && !currentOnly then .reconfigurationPending else .granted)
      currentOnly (if currentOnly then [intent.buildId] else []) with
    previousPolicy := some intent.previousPolicy
    scaleUpEvidence := some evidence }

/-! ## Before the fence -/

/-- The accepted configuration serves writes again before a candidate is cleaned up. -/
def restoreAcceptedServiceBeforeCleanup (s : ObservationSnapshot)
    (accepted : ConfigurationDescriptor) (policy : EffectivePolicy) (target : ReplicaIdentity)
    (attempt : OperationId) (phase : String) (config : EvaluationConfig) :
    Eval (Option Plan) := do
  let primary ← configurationPrimary accepted
  let reports := accepted.members.filterMap fun m =>
    (healthyReport s m.identity).filter fun r => stableMemberReport r m accepted
  let some primaryReport := reports.find? fun r => r.identity = primary.identity
    | return some (progressWait .awaitingStableEvidence s s.status "ScaleUpFailoverPrimaryPending"
        phase (some target) (some attempt)
        "Accepted failover primary must attest exact authority before cleanup" config)
  if reports.length < accepted.writeQuorum then
    return some (progressWait .quorumLoss s s.status "ScaleUpFailoverWriteQuorumPending" phase
      (some target) (some attempt)
      "Accepted failover write quorum must recover before candidate cleanup" config)
  if primaryReport.writeStatus ≠ .granted then
    return some (.execute (.ensureConfiguration (ensureConfigurationCommand accepted primary policy
      ("scale-up-failover:" ++ accepted.configurationId ++ ":grant-write") .granted false)))
  if !s.routing.servicePresent then
    return some (.apply [.ensureWriteRoutingService])
  if s.routing.writeTarget ≠ some primary.identity ∨ s.routing.unresolvedWriteTarget then
    return some (.apply [if s.routing.Open then .removeWriteRouting
      else .publishWriteRouting primary.identity])
  return none

/-- The status that gives the attempt up and freezes what is to be cleaned up. -/
def cancelledStatus (status : AcceptedStatus) (cleanup : ScaleUpCleanup) : AcceptedStatus :=
  { status with
    provisioning := none
    transition := none
    scaleUpCleanup := some cleanup
    scaleUpAdmissionStarted := none }

def freezeCleanup (s : ObservationSnapshot) (p : ProvisioningIntent) (status : AcceptedStatus)
    (reason : String) (primaryFailed : Bool) (config : EvaluationConfig) : Plan :=
  let target := p.targetIdentity s.resourceUid
  match (SecondaryScaleDown.resources s target).filter SecondaryScaleDown.allObserved with
  | none => wait s status "ScaleUpExactCleanupEvidencePending" "cancellation" (some target)
      (some p.operationId) "authoritative exact Pod, PVC, and endpoint observations are required"
      config
  | some exact =>
    let cleanup : ScaleUpCleanup := ⟨p, target, exact.identity⟩
    match validateScaleUpCleanup cleanup with
    | .error e => unsafePlan status (.contradictoryReplicaEvidence e.message) config
    | .ok () =>
      .apply ((if primaryFailed then fenceRouting s else []) ++ [.persistStatus (progressStatus s
        (cancelledStatus status cleanup) reason
        (if primaryFailed then "failover-recovery" else "cleanup") (some target)
        (some p.operationId) "frozen exact uncommitted candidate cleanup")])

/-- A wait of the accepted authority, told as progress of the attempt. -/
def contextualizeDelegatedWait (s : ObservationSnapshot) (plan : Plan) (target : ReplicaIdentity)
    (attempt : OperationId) (phase : String) : Plan :=
  match plan with
  | .wait reason status seconds =>
    let condition := status.conditions.find? (·.type = "Progressing")
    .wait reason (progressStatus s status
      ((condition.map (·.reason)).getD "ScaleUpRecoveryPending") phase (some target) (some attempt)
      ((condition.map (·.message)).getD "delegated accepted-authority recovery is pending"))
      seconds
  | plan => plan

/-! ## The failover of an attempt -/

def withTransition (status : AcceptedStatus) (t : TransitionIntent) : AcceptedStatus :=
  { status with transition := some t }

def failoverTransition (t : TransitionIntent) (intent : ScaleUpIntent)
    (evidence : ScaleUpFailoverEvidence) : TransitionIntent :=
  let failover := evidence.provisionalConfiguration
  { plainTransition (intent.transitionId .failover failover) .failover t.specGeneration
      intent.currentPolicy (some intent.previousConfiguration.configurationId) failover with
    buildId := some intent.buildId
    scaleUpFailover := some evidence }

/-- The witness with the highest verified LSN, the lowest id among equals. -/
def recoveryCandidate (intent : ScaleUpIntent) (witnesses : List ScaleUpWitness) :
    Option ScaleUpWitness :=
  (witnesses.filter fun w => w.identity ≠ intent.primary).lastMax fun w =>
    toLex (w.verifiedReplicationLsn, -w.identity.replicaId)

def beginFailover (s : ObservationSnapshot) (t : TransitionIntent) (intent : ScaleUpIntent)
    (config : EvaluationConfig) : Plan :=
  let current := intent.currentConfiguration
  let previousWitnesses := recoveryWitnesses s intent intent.previousConfiguration
  let currentWitnesses := recoveryWitnesses s intent current
  let previousRequired := intent.previousPolicy.readQuorum
  let currentRequired := intent.currentPolicy.readQuorum
  let previousCount := "observed=" ++ toString previousWitnesses.length ++ " required=" ++
    toString previousRequired
  let currentCount := "observed=" ++ toString currentWitnesses.length ++ " required=" ++
    toString currentRequired
  let pending := fun reason blocking => wait s s.status reason "failover-recovery"
    (some intent.target) (some intent.operationId) blocking config
  if previousWitnesses.length < previousRequired then
    if currentWitnesses.length < currentRequired then
      pending "ScaleUpDualQuorumEvidencePending" ("missing previous configuration read quorum: " ++
        previousCount ++ "; missing current configuration read quorum: " ++ currentCount)
    else pending "ScaleUpPreviousQuorumEvidencePending"
      ("missing previous configuration read quorum: " ++ previousCount ++
        "; current configuration satisfied: " ++ currentCount)
  else if currentWitnesses.length < currentRequired then
    pending "ScaleUpCurrentQuorumEvidencePending" ("previous configuration satisfied: " ++
      previousCount ++ "; missing current configuration read quorum: " ++ currentCount)
  else match recoveryCandidate intent currentWitnesses with
  | none => pending "ScaleUpFailoverCandidatePending"
      "no exact surviving current member can become primary"
  | some candidate => match checkedAddOne current.epoch.configurationNumber with
    | none => unsafePlan s.status
        (.invalidAcceptedAuthority "scale-up failover epoch exhausted") config
    | some number =>
      let evidence : ScaleUpFailoverEvidence :=
        { intent := intent
          provisionalConfiguration := configurationWithPrimary current candidate.identity
            ⟨current.epoch.dataLossNumber, number⟩
          previousReadQuorum := previousWitnesses
          currentReadQuorum := currentWitnesses
          finalElection := none }
      match validateScaleUpFailoverEvidence evidence with
      | .error e => unsafePlan s.status (.contradictoryReplicaEvidence e.message) config
      | .ok () =>
        .apply (fenceRouting s ++ [.persistStatus (progressStatus s
          { withTransition s.status (failoverTransition t intent evidence) with
            primaryFailure := none }
          "ScaleUpFailoverPersisted" "failover-recovery" (some intent.target)
          (some intent.operationId)
          "preserved original PC and expanded CC and persisted a provisional write-closed election epoch")])

def fencedFailoverReports (s : ObservationSnapshot) (intent : ScaleUpIntent)
    (current eligible : ConfigurationDescriptor) : List AgentReport :=
  eligible.members.filterMap fun m => (healthyReport s m.identity).filter fun r =>
    r.healthy && decide (¬r.Faulted) && exactFencedPcCcReport r intent current

/-- The prefix that a fenced report proves. -/
def safePrefix (r : AgentReport) : Int := min r.currentProgress (r.deactivatedLsn.getD 0)

def fencedCandidate (intent : ScaleUpIntent) (reports : List AgentReport) : Option AgentReport :=
  (reports.filter fun r => r.identity ≠ intent.primary).lastMax fun r =>
    toLex (safePrefix r, toLex (r.currentProgress, toLex (r.committedLsn, -r.identity.replicaId)))

/-- One final witness for each replica, in the order of the reports. -/
def finalWitnesses (reports : List AgentReport) : List ScaleUpFinalWitness :=
  reports.foldl (fun witnesses r =>
    if witnesses.any fun w => w.replicaId = r.identity.replicaId then witnesses
    else witnesses ++ (finalWitness r).toList) []

def finalizeFencedFailover (s : ObservationSnapshot) (t : TransitionIntent)
    (intent : ScaleUpIntent) (config : EvaluationConfig) : Eval Plan :=
  let provisional := t.currentConfiguration
  let previousReports := fencedFailoverReports s intent provisional intent.previousConfiguration
  let currentReports := fencedFailoverReports s intent provisional provisional
  let previousRequired := intent.previousPolicy.readQuorum
  let currentRequired := intent.currentPolicy.readQuorum
  let previousCount := "observed=" ++ toString previousReports.length ++ " required=" ++
    toString previousRequired
  let currentCount := "observed=" ++ toString currentReports.length ++ " required=" ++
    toString currentRequired
  let pending := fun reason blocking => wait s s.status reason "failover-election"
    (some intent.target) (some intent.operationId) blocking config
  if previousReports.length < previousRequired then
    if currentReports.length < currentRequired then
      some (pending "ScaleUpFencedDualQuorumPending"
        ("fresh fenced previous configuration read quorum is insufficient: " ++ previousCount ++
          "; fresh current configuration read quorum is insufficient: " ++ currentCount))
    else some (pending "ScaleUpFencedPreviousQuorumPending"
      ("fresh fenced previous configuration read quorum is insufficient: " ++ previousCount ++
        "; fresh current configuration quorum is satisfied: " ++ currentCount))
  else if currentReports.length < currentRequired then
    some (pending "ScaleUpFencedCurrentQuorumPending"
      ("fresh fenced previous configuration quorum is satisfied: " ++ previousCount ++
        "; fresh current configuration read quorum is insufficient: " ++ currentCount))
  else match fencedCandidate intent currentReports with
  | none => some (pending "ScaleUpFencedCandidatePending"
      "fresh fenced current-configuration evidence has no surviving primary candidate")
  | some candidate => match checkedAddOne provisional.epoch.configurationNumber with
    | none => some (unsafePlan s.status
        (.invalidAcceptedAuthority "scale-up final failover epoch exhausted") config)
    | some number => do
      let finalized := configurationWithPrimary provisional candidate.identity
        ⟨provisional.epoch.dataLossNumber, number⟩
      let carried ← t.scaleUpFailover
      let evidence := { carried with
        finalElection := some
          { selectedPrimaryReplicaId := candidate.identity.replicaId
            witnesses := finalWitnesses (previousReports ++ currentReports)
            previousReadQuorum := previousReports.map (·.identity.replicaId)
            currentReadQuorum := currentReports.map (·.identity.replicaId) } }
      match validateScaleUpFailoverEvidence evidence with
      | .error e => return unsafePlan s.status (.contradictoryReplicaEvidence e.message) config
      | .ok () => return persist (progressStatus s
          (withTransition s.status
            { t with
              transitionId := intent.transitionId .failover finalized
              currentConfiguration := finalized
              electionLsn := some (safePrefix candidate)
              scaleUpFailover := some evidence })
          "ScaleUpFencedElectionFinalized" "failover-election" (some intent.target)
          (some intent.operationId)
          ("fresh epoch-fenced PC and CC evidence selected replica " ++
            toString candidate.identity.replicaId ++ " with safe prefix LSN " ++
            toString (safePrefix candidate)))

/-! ## The transition -/

/-- The evidence that the commands of a transition carry. -/
def configurationEvidence (t : TransitionIntent) : Option ScaleUpConfigurationEvidence :=
  (t.scaleUp.map .admission).or (t.scaleUpFailover.map .failover)

section Transition

variable (s : ObservationSnapshot) (t : TransitionIntent) (evidence : ScaleUpConfigurationEvidence)
  (p : ProvisioningIntent) (config : EvaluationConfig)

def attemptWait (reason phase blocking : String) : Plan :=
  wait s s.status reason phase (some evidence.intent.target) (some evidence.intent.operationId)
    blocking config

/-- The candidate is gone or cannot be used. -/
def candidateFailed : Bool :=
  match s.observationForIdentity evidence.intent.target with
  | none => true
  | some o => match o.agent with
    | .absent | .invalid _ _ => true
    | .report r => decide r.Faulted || !r.healthy
    | _ => false

/-- Everything that is decided before the attempt may send a command: the recovery of the primary,
the cancellation of the attempt, and the fence. -/
def admission : Eval (Option Plan) := do
  let intent := evidence.intent
  let started : Bool := s.status.scaleUpAdmissionStarted = some intent.operationId
  let primaryFailed := replicaFailed s intent.primary
  if t.kind ≠ .scaleUp then
    return none
  if !primaryFailed && s.status.primaryFailure.any fun f => f.primary = intent.primary then
    return some (persist (progressStatus s { s.status with primaryFailure := none }
      "ScaleUpPrimaryRecovered" "failover-recovery" (some intent.target) (some intent.operationId)
      "accepted primary recovered before failover allocation"))
  if started then
    if primaryFailed &&
        decide (intent.previousPolicy.readQuorum ≤
          (recoveryWitnesses s intent intent.previousConfiguration).length ∧
        intent.currentPolicy.readQuorum ≤
          (recoveryWitnesses s intent intent.currentConfiguration).length) then
      return some (beginFailover s t intent config)
    return none
  if primaryFailed then
    let failover ← maybeBeginStableFailover s s.status config
    return some (match failover with
      | some plan => contextualizeDelegatedWait s plan intent.target intent.operationId
          "failover-recovery"
      | none => attemptWait s evidence config "ScaleUpFailoverArbitrationPending"
          "failover-recovery" "accepted primary recovery is pending before scale-up admission")
  let restore ← restoreAcceptedServiceBeforeCleanup s intent.previousConfiguration
    intent.previousPolicy intent.target intent.operationId "failover-recovery" config
  if let some plan := restore then
    return some plan
  if s.desired.replicas ≤ intent.previousPolicy.replicaSetSize then
    return some (freezeCleanup s p s.status "ScaleUpCancelledBeforePreviousCurrent" false config)
  if candidateFailed s evidence then
    return some (freezeCleanup s p s.status "ScaleUpCandidateFailedBeforeAdmission" false config)
  return some (persist (progressStatus s
    { s.status with scaleUpAdmissionStarted := some intent.operationId }
    "ScaleUpAdmissionStarted" "pc-cc" (some intent.target) (some intent.operationId)
    "persisted monotonic admission fence before the first PC/CC command"))

def send (currentOnly : Bool) (m : ConfigurationMember) : Plan :=
  .execute (.ensureConfiguration
    (configurationCommand evidence t.currentConfiguration m currentOnly t.electionLsn))

/-- What one member needs before it has the authority of the pair. -/
def installMember (primary : ReplicaIdentity) (recovering : Bool) (m : ConfigurationMember) :
    Option Plan :=
  let intent := evidence.intent
  let current := t.currentConfiguration
  let started : Bool := s.status.scaleUpAdmissionStarted = some intent.operationId
  match healthyReport s m.identity with
  | none =>
    if t.kind = .failover ∨ recovering then none
    else if m.identity = intent.target ∧ started = false then
      some (freezeCleanup s p s.status "ScaleUpCandidateDisappearedBeforeAdmission" false config)
    else if m.identity ≠ primary then none
    else some (attemptWait s evidence config "ScaleUpParticipantPending" "pc-cc"
      "an exact participant is unavailable")
  | some r =>
    let operationId := intent.commandOperationId .previousCurrent m.identity current
    let installed := if t.kind = .failover ∧ t.electionLsn = none then
        exactFencedPcCcReport r intent current
      else exactPcCcReport r intent current
    if r.pendingOperationId = some (intent.commandOperationId .currentOnly m.identity current) then
      some (send t evidence true m)
    else if installed && settled r m intent .previousCurrent current then none
    else if ∃ pending ∈ r.pendingOperationId, pending ≠ operationId then
      some (attemptWait s evidence config "ScaleUpCommandPending" "pc-cc"
        "one exact authority command remains pending")
    else some (send t evidence false m)

/-- The members in the order in which they receive the authority of the pair. -/
def installOrder (primary : ConfigurationMember) : List ConfigurationMember :=
  t.currentConfiguration.members.filter (fun m => m.identity ≠ primary.identity ∧
    (t.kind ≠ .failover ∨ m.identity ≠ evidence.intent.primary)) ++ [primary]

/-- The elected primary has reached the safe prefix and is closed for writes. -/
def selectedPrimaryReady (primary : ReplicaIdentity) (safeLsn : Int) : Bool :=
  (healthyReport s primary).any fun r =>
    exactPcCcReport r evidence.intent t.currentConfiguration &&
      decide (r.pendingOperationId = none ∧
        r.deactivationEpoch = some t.currentConfiguration.epoch ∧
        (∃ lsn ∈ r.deactivatedLsn, safeLsn ≤ lsn) ∧
        (∃ lsn ∈ r.verifiedReplicationLsn, safeLsn ≤ lsn) ∧ r.catchUpComplete = true ∧
        r.writeStatus = .reconfigurationPending)

/-- The evidence under the pair that the expanded configuration may be installed alone. -/
def awaitDualQuorum (primary : ReplicaIdentity) : Eval (Option Plan) := do
  let intent := evidence.intent
  let current := t.currentConfiguration
  let previousWitnesses :=
    quorumWitnesses s intent current intent.previousConfiguration .previousCurrent
  let currentWitnesses := quorumWitnesses s intent current current .previousCurrent
  let candidateReady := currentWitnesses.any fun w =>
    w.identity = intent.target ∧ intent.catchUpBoundaryLsn ≤ w.verifiedReplicationLsn
  let primaryReady := currentWitnesses.any fun w =>
    w.identity = primary ∧ (t.kind = .failover ∨ w.writeStatus = .granted)
  let quorum := fun policy : EffectivePolicy =>
    if t.kind = .failover then policy.readQuorum else policy.writeQuorum
  if previousWitnesses.length < quorum intent.previousPolicy ∨
      currentWitnesses.length < quorum intent.currentPolicy then
    return some (quorumWait s s.status "ScaleUpDualQuorumUnavailable" "pc-cc" (some intent.target)
      (some intent.operationId)
      "previous and current configuration quorum evidence is insufficient" config)
  if t.kind = .failover then
    let safeLsn ← t.electionLsn
    if !selectedPrimaryReady s t evidence primary safeLsn then
      return some (attemptWait s evidence config "ScaleUpFinalPrimaryCatchupPending" "catch-up"
        "selected primary must durably reach the exact fenced safe prefix while write-closed")
  if !candidateReady || !primaryReady then
    return some (attemptWait s evidence config "ScaleUpDualQuorumPending" "catch-up"
      "both configurations, the exact candidate boundary, and writable primary are required")
  return none

def installPair (primary : ConfigurationMember) : Eval (Option Plan) := do
  let recovering := decide (t.kind = .scaleUp) && replicaFailed s evidence.intent.primary
  if let some plan := (installOrder t evidence primary).findSome?
      (installMember s t evidence p config primary.identity recovering) then
    return some plan
  if recovering then
    return some (beginFailover s t evidence.intent config)
  if t.kind = .failover ∧ t.electionLsn = none then
    return some (← finalizeFencedFailover s t evidence.intent config)
  awaitDualQuorum s t evidence config primary.identity

/-- The member has the expanded configuration alone and has settled. -/
def exactCurrentOnly (m : ConfigurationMember) : Bool :=
  (healthyReport s m.identity).any fun r =>
    exactCurrentOnlyReport r evidence.intent t.currentConfiguration &&
      settled r m evidence.intent .currentOnly t.currentConfiguration

/-- The original primary takes part in a failover only under the authority of the attempt. -/
def retainedOriginalParticipant (m : ConfigurationMember) : Bool :=
  if t.kind ≠ .failover ∨ m.identity ≠ evidence.intent.primary then true
  else (healthyReport s m.identity).any fun r => match evidence with
    | .admission _ => false
    | .failover e => claimsProvisionalFailoverAuthority r e ||
        decide (r.scaleUpIntent = some e.intent ∧ r.epoch = t.currentConfiguration.epoch ∧
          r.currentConfiguration = some t.currentConfiguration)

def convergenceOrder (primary : ConfigurationMember) : List ConfigurationMember :=
  t.currentConfiguration.members.filter (fun m =>
    decide (m.identity ≠ primary.identity) && retainedOriginalParticipant s t evidence m) ++ [primary]

/-- The command of the attempt that an operation id belongs to. -/
def commandOf (m : ConfigurationMember) (operationId : OperationId) : Option EnsureConfiguration :=
  let command := fun currentOnly =>
    configurationCommand evidence t.currentConfiguration m currentOnly t.electionLsn
  if operationId = (command false).operationId then some (command false)
  else if operationId = (command true).operationId then some (command true) else none

/-- A pending command of the attempt is repeated as the member has frozen it. -/
def repeatPending (m : ConfigurationMember) : Option Plan := do
  let r ← healthyReport s m.identity
  let pending ← r.pendingOperationId
  let expected ← commandOf t evidence m pending
  let contradiction := fun what => unsafePlan s.status (.contradictoryReplicaEvidence
    ("scale-up member " ++ toString m.identity.replicaId ++ " " ++ what)) config
  match r.pendingConfiguration with
  | none => contradiction "omitted its pending final configuration"
  | some frozen =>
    if frozen ≠ expected then contradiction "mutated its pending final configuration"
    else Plan.execute (.ensureConfiguration frozen)

/-- The primary goes first once the other members of a write quorum have settled. -/
def prioritizePrimary (primary : ConfigurationMember) : Bool :=
  !exactCurrentOnly s t evidence primary &&
    decide (evidence.intent.currentPolicy.writeQuorum - 1 ≤
      t.currentConfiguration.members.countP fun m =>
        decide (m.identity ≠ primary.identity) && exactCurrentOnly s t evidence m)

/-- `rotate_right(1)`: the last element goes first. -/
def rotateRight {α : Type} (l : List α) : List α := l.getLast?.toList ++ l.dropLast

/-- The member claims the authority of the provisional epoch in another form. -/
def malformedProvisional (r : AgentReport) (m : ConfigurationMember) : Bool :=
  match evidence with
  | .admission _ => false
  | .failover e => claimsProvisionalFailoverAuthority r e && !exactProvisionalFailoverReport r m e

/-- The next command of the current-only phase for one member. -/
def convergeMember (m : ConfigurationMember) : Option Plan := do
  let r ← healthyReport s m.identity
  let intent := evidence.intent
  let current := t.currentConfiguration
  if malformedProvisional evidence r m then
    some (unsafePlan s.status (.contradictoryReplicaEvidence ("scale-up member " ++
      toString m.identity.replicaId ++ " reports malformed provisional failover authority")) config)
  else if needsScaleUpPcCc r m evidence then some (send t evidence false m)
  else if exactCurrentOnlyReport r intent current && settled r m intent .currentOnly current then
    none
  else if ∃ pending ∈ r.pendingOperationId,
      pending ≠ intent.commandOperationId .currentOnly m.identity current then none
  else some (send t evidence true m)

def receipt (witnesses : List ScaleUpWitness) : ScaleUpReceipt where
  intent := evidence.intent
  acceptedConfiguration := t.currentConfiguration
  failoverEvidence := match evidence with
    | .admission _ => none
    | .failover e => ScaleUpFailoverReceiptEvidence.fromEvidence e
  failoverSafeLsn := t.electionLsn
  currentOnlyWriteQuorum := witnesses

def acceptedExpansion (witnesses : List ScaleUpWitness) : AcceptedStatus :=
  { clearEvaluatorConditions s.status with
    observedGeneration := t.specGeneration
    effectivePolicy := some evidence.intent.currentPolicy
    topology := some ⟨t.currentConfiguration⟩
    provisioning := none
    transition := none
    scaleUpCleanup := none
    lastScaleUp := some (receipt t evidence witnesses)
    scaleUpAdmissionStarted := none
    primaryFailure := none
    quorumLoss := none }

def acceptExpansion (primary : ConfigurationMember) : Plan :=
  let intent := evidence.intent
  let current := t.currentConfiguration
  let witnesses := quorumWitnesses s intent current current .currentOnly
  let primaryReady := witnesses.any fun w =>
    w.identity = primary.identity ∧ w.writeStatus = .granted
  if intent.currentPolicy.writeQuorum ≤ witnesses.length && primaryReady then
    match validateScaleUpReceipt (receipt t evidence witnesses) with
    | .error e => unsafePlan s.status (.contradictoryReplicaEvidence e.message) config
    | .ok () =>
      let candidateReady := (healthyReport s intent.target).any fun r =>
        exactCurrentOnlyReport r intent current && decide (r.role = .activeSecondary)
      persist (progressStatus s (acceptedExpansion s t evidence witnesses)
        (if candidateReady then "ScaleUpTopologyAccepted" else "ScaleUpCommittedDegraded")
        (if candidateReady then "current-only" else "local-convergence") (some intent.target)
        (some intent.operationId)
        (if candidateReady then
          "expanded topology committed; stable routing and fresh local evidence remain"
        else "expanded topology committed without exact candidate local acceptance"))
  else attemptWait s evidence config "ScaleUpCurrentOnlyQuorumPending" "current-only"
    "expanded current-only write quorum including the primary is required"

def installCurrentOnly (primary : ConfigurationMember) : Plan :=
  let order := convergenceOrder s t evidence primary
  let plan := publishPhaseIfChanged s s.status "ScaleUpCurrentOnlyInstalling" "current-only"
    (some evidence.intent.target) (some evidence.intent.operationId)
    "installing expanded current-only authority one exact member at a time"
  let plan := plan.or (order.findSome? (repeatPending s t evidence config))
  let plan := plan.or ((if prioritizePrimary s t evidence primary then rotateRight order
    else order).findSome? (convergeMember s t evidence config))
  plan.getD (acceptExpansion s t evidence config primary)

end Transition

def transition (s : ObservationSnapshot) (t : TransitionIntent) (config : EvaluationConfig) :
    Eval Plan := do
  let evidence ← configurationEvidence t
  let some p := s.status.provisioning
    | return unsafePlan s.status (.invalidAcceptedAuthority
        "active scale-up transition lacks exact provisioning provenance") config
  if let some plan ← admission s t evidence p config then
    return plan
  let primary ← configurationPrimary t.currentConfiguration
  let currentOnlyStarted := t.currentConfiguration.members.any fun m =>
    (healthyReport s m.identity).any fun r =>
      exactCurrentOnlyReport r evidence.intent t.currentConfiguration
  let pair ← if currentOnlyStarted then pure none else installPair s t evidence p config primary
  if let some plan := pair then
    return plan
  return installCurrentOnly s t evidence config primary

end Kuberic.Controller.ScaleUp
