import Kuberic.Lib.LastMax
import Kuberic.Protocol.Command
import Kuberic.Protocol.Validation.Configuration

/-!
# Evidence of a membership increase

A membership increase is frozen as an allocation, a provisioning request and an intent.  Quorums of
exact witnesses attest its stages, a failover that falls into it carries the evidence of its own
election, and the receipt of a completed increase retains all of it.
-/

namespace Kuberic

open Check

variable [Sha256]

/-- The largest value of a `u32`. -/
def u32Max : Nat := 4294967295

/-- The smallest of the ids `1 … size` that is not in use. -/
def firstMissingId (size : Nat) (used : List ReplicaId) : Option ReplicaId :=
  ((List.range size).map fun n => (n : Int) + 1).find? fun id => id ∉ used

/-! ## Requests -/

def validateScaleUpProvisioningRequest (s : ScaleUpProvisioning) : Except ValidationError Unit := do
  validatePolicy s.previousPolicy
  validatePolicy s.currentPolicy
  validateConfiguration s.previousConfiguration (some s.previousPolicy)
  rejectIf (s.resourceUid = "" ∨ s.specGeneration = 0 ∨ s.desiredReplicas = 0 ∨
      s.previousPolicy.replicaSetSize = u32Max ∨
      s.currentPolicy.replicaSetSize ≠ s.previousPolicy.replicaSetSize + 1 ∨
      s.desiredReplicas < s.currentPolicy.replicaSetSize ∨
      s.previousPolicy.failoverDelaySeconds ≠ s.currentPolicy.failoverDelaySeconds ∨
      (∃ m ∈ s.previousConfiguration.members, m.identity.replicaId = s.targetReplicaId) ∨
      s.nextConfigurationEpoch = none)
    (.invalidScaleUp "invalid frozen provisioning request")
  rejectIf (firstMissingId s.currentPolicy.replicaSetSize s.previousConfiguration.replicaIds ≠
      some s.targetReplicaId)
    (.invalidScaleUp "scale-up target must restore the first missing ordinal")

/-- The purpose of a provisioning intent names either a replaced replica or an increase. -/
def validateProvisioningPurpose (p : ProvisioningPurpose) : Except ValidationError Unit :=
  match p.kind with
  | .replacement => do
    let replaces ← demand p.replaces
      (.invalidScaleUp "replacement provisioning purpose is malformed")
    rejectIf (p.scaleUp ≠ none ∨ replaces.replicaId ≤ 0 ∨ replaces.instanceId = "" ∨
        replaces.agentGeneration = "")
      (.invalidScaleUp "replacement provisioning purpose is malformed")
  | .scaleUp => rejectIf (p.replaces ≠ none ∨ p.scaleUp = none)
      (.invalidScaleUp "scale-up provisioning purpose is malformed")

def validateScaleUpProvisioning (i : ProvisioningIntent) : Except ValidationError Unit := do
  rejectIf (i.podUid = "" ∨ i.pvcUid = "" ∨ i.operationId = "" ∨ i.replicaId ≤ 0)
    (.invalidScaleUp "invalid candidate identity")
  validateProvisioningPurpose i.purpose
  onSome i.scaleUp fun scaleUp => do
    validateScaleUpProvisioningRequest scaleUp
    rejectIf (i.operationId ≠ i.expectedOperationId)
      (.invalidScaleUp "invalid frozen provisioning request")

def validateScaleUpAllocation (a : ScaleUpAllocation) : Except ValidationError Unit :=
  rejectIf (a.resourceUid = "" ∨ a.specGeneration = 0 ∨ a.desiredReplicas = 0 ∨
      a.previousConfigurationId = "" ∨ a.acceptedConfigurationId = "" ∨ a.targetReplicaId ≤ 0 ∨
      a.operationId = "" ∨ a.operationId ≠ a.expectedOperationId ∨
      (∃ previous ∈ a.previousOperationId, previous = "" ∨ previous = a.operationId) ∨
      a.podUid = some "" ∨ a.pvcUid = some "" ∨ (a.podUid ≠ none ∧ a.pvcUid = none))
    (.invalidScaleUp "invalid durable scale-up allocation")

/-! ## Intent -/

/-- The members of `current` whose logical id `previous` does not have. -/
def ConfigurationDescriptor.addedMembers (previous current : ConfigurationDescriptor) :
    List ConfigurationMember :=
  current.members.filter fun m => ¬∃ old ∈ previous.members,
    old.identity.replicaId = m.identity.replicaId

open ConfigurationDescriptor in
def validateScaleUp (i : ScaleUpIntent) : Except ValidationError Unit := do
  let previous := i.previousConfiguration
  let current := i.currentConfiguration
  validatePolicy i.previousPolicy
  validatePolicy i.currentPolicy
  validateConfiguration previous (some i.previousPolicy)
  validateConfiguration current (some i.currentPolicy)
  rejectIf (i.resourceUid = "" ∨ i.specGeneration = 0 ∨ i.desiredReplicas = 0 ∨ i.buildId = "" ∨
      i.primary.instanceId = "" ∨ i.primary.agentGeneration = "" ∨ i.target.instanceId = "" ∨
      i.target.agentGeneration = "" ∨ i.snapshotBoundaryLsn < 0 ∨
      i.catchUpBoundaryLsn < i.snapshotBoundaryLsn ∨ i.operationId ≠ i.expectedOperationId)
    (.invalidScaleUp "invalid frozen request, build, or boundary")
  rejectIf (i.previousPolicy.replicaSetSize = u32Max ∨
      i.currentPolicy.replicaSetSize ≠ i.previousPolicy.replicaSetSize + 1 ∨
      i.desiredReplicas < i.currentPolicy.replicaSetSize ∨
      i.previousPolicy.failoverDelaySeconds ≠ i.currentPolicy.failoverDelaySeconds ∨
      previous.members.length + 1 ≠ current.members.length)
    (.invalidScaleUp "scale-up must preserve delay and increase membership by exactly one")
  rejectIf (previous.epoch.dataLossNumber < 0 ∨ previous.epoch.configurationNumber < 0 ∨
    current.epoch.dataLossNumber ≠ previous.epoch.dataLossNumber) .transitionDataLossChanged
  rejectIf (∀ next ∈ checkedAddOne previous.epoch.configurationNumber,
    current.epoch.configurationNumber ≠ next) .transitionEpochNotNewer
  -- A valid configuration has a primary member.
  rejectIf ((∀ primary ∈ previous.primaryMember?, i.primary ≠ primary.identity) ∨
      previous.primaryId ≠ current.primaryId ∨
      addedMembers previous current ≠ [⟨i.target, .activeSecondary⟩] ∨
      firstMissingId i.currentPolicy.replicaSetSize previous.replicaIds ≠
        some i.target.replicaId ∨
      ∃ m ∈ previous.members, m ∉ current.members)
    (.invalidScaleUp
      "target must be the next active secondary and retained authority cannot change")

/-! ## Witnesses -/

section Witnesses

variable (i : ScaleUpIntent)

/-- What one witness of a stage is checked for, after the witnesses `seen`. -/
def validateScaleUpWitness (reported eligible : ConfigurationDescriptor) (previousCurrent : Bool)
    (requiredPrimary : Option ReplicaIdentity) (seen : List ReplicaIdentity) (w : ScaleUpWitness) :
    Except ValidationError Unit :=
  rejectIf (w.resourceUid ≠ i.resourceUid ∨ w.processSessionId = "" ∨ w.reportSequence = 0 ∨
      (¬∃ m ∈ eligible.members, m.identity = w.identity) ∨
      ((reported.members.find? fun m => m.identity = w.identity).map (·.role) ≠ some w.role) ∨
      w.identity ∈ seen ∨ w.epoch ≠ reported.epoch ∨
      w.previousConfigurationId ≠
        (if previousCurrent then some i.previousConfiguration.configurationId else none) ∨
      w.currentConfigurationId ≠ reported.configurationId ∨
      w.verifiedReplicationLsn < i.catchUpBoundaryLsn ∨ w.pendingOperationId ≠ none ∨
      (w.writeStatus = .granted ∧ requiredPrimary ≠ some w.identity) ∨
      (previousCurrent = false ∧ requiredPrimary = some w.identity ∧ w.writeStatus ≠ .granted) ∨
      w.retainedOperationId ≠ some (i.commandOperationId
        (if previousCurrent then .previousCurrent else .currentOnly) w.identity reported))
    (.invalidScaleUp "invalid exact scale-up quorum witness")

def validateScaleUpWitnesses (reported eligible : ConfigurationDescriptor)
    (witnesses : List ScaleUpWitness) (quorum : Nat) (previousCurrent : Bool)
    (requiredPrimary : Option ReplicaIdentity) : Except ValidationError Unit := do
  eachAfter (·.identity) (validateScaleUpWitness i reported eligible previousCurrent requiredPrimary)
    [] witnesses
  let identities := (witnesses.map (·.identity)).dedup
  rejectIf (identities.length < quorum ∨ ∃ primary ∈ requiredPrimary, primary ∉ identities)
    (.invalidScaleUp "insufficient scale-up quorum witnesses")

/-- The stage that a recovery witness attests. -/
def recoveryStage (w : ScaleUpWitness) : Option ScaleUpStage :=
  match w.previousConfigurationId with
  | some previous =>
    if previous = i.previousConfiguration.configurationId then some .previousCurrent else none
  | none => some .currentOnly

def validateRecoveryWitness (eligible : ConfigurationDescriptor) (seen : List ReplicaIdentity)
    (w : ScaleUpWitness) : Except ValidationError Unit := do
  let stage ← demand (recoveryStage i w)
    (.invalidScaleUp "invalid exact scale-up recovery witness")
  rejectIf (w.resourceUid ≠ i.resourceUid ∨ w.processSessionId = "" ∨ w.reportSequence = 0 ∨
      (¬∃ m ∈ eligible.members, m.identity = w.identity) ∨
      ((i.currentConfiguration.members.find? fun m => m.identity = w.identity).map (·.role) ≠
        some w.role) ∨
      w.identity ∈ seen ∨ w.epoch ≠ i.currentConfiguration.epoch ∨
      w.currentConfigurationId ≠ i.currentConfiguration.configurationId ∨
      w.verifiedReplicationLsn < i.catchUpBoundaryLsn ∨ w.pendingOperationId ≠ none ∨
      (w.writeStatus = .granted ∧ w.identity ≠ i.primary) ∨
      (stage = .currentOnly ∧ w.identity = i.primary ∧ w.writeStatus ≠ .granted) ∨
      w.retainedOperationId ≠
        some (i.commandOperationId stage w.identity i.currentConfiguration))
    (.invalidScaleUp "invalid exact scale-up recovery witness")

def validateRecoveryWitnesses (eligible : ConfigurationDescriptor) (witnesses : List ScaleUpWitness)
    (quorum : Nat) : Except ValidationError Unit := do
  eachAfter (·.identity) (validateRecoveryWitness i eligible) [] witnesses
  rejectIf ((witnesses.map (·.identity)).dedup.length < quorum)
    (.invalidScaleUp "insufficient scale-up recovery witnesses")

end Witnesses

/-! ## Failover evidence -/

section Failover

variable (e : ScaleUpFailoverEvidence)

def validateFailoverConfiguration (current : ConfigurationDescriptor) (policy : EffectivePolicy) :
    Except ValidationError Unit := do
  let expanded := e.intent.currentConfiguration
  validatePolicy policy
  validateConfiguration current (some policy)
  rejectIf (policy ≠ e.intent.currentPolicy ∨
      current.epoch.dataLossNumber ≠ expanded.epoch.dataLossNumber ∨
      current.epoch.configurationNumber ≤ expanded.epoch.configurationNumber)
    (.invalidScaleUp "failover authority did not advance expanded CC")
  rejectIf (¬SameElements current.exactIdentities expanded.exactIdentities)
    (.invalidScaleUp "failover must preserve exact expanded membership")

/-- What one witness of the final election is checked for, after the witnesses `seen`. -/
def validateFinalWitness (seen : List ReplicaId) (w : ScaleUpFinalWitness) :
    Except ValidationError Unit := do
  let provisional := e.provisionalConfiguration
  rejectIf (w.processSessionId = "" ∨ w.reportSequence = 0 ∨
      (provisional.members.find? fun m => m.identity.replicaId = w.replicaId) = none ∨
      w.replicaId ∈ seen ∨ w.currentProgress < e.intent.catchUpBoundaryLsn ∨ w.committedLsn < 0 ∨
      w.deactivatedLsn < 0 ∨
      some w.fenceOperationId ≠ (provisional.members.find? fun m =>
        m.identity.replicaId = w.replicaId).map fun m =>
          e.intent.commandOperationId .previousCurrent m.identity provisional)
    (.invalidScaleUp "invalid exact final scale-up election witness")

def validateFinalQuorum (f : ScaleUpFinalElectionEvidence) (eligible : ConfigurationDescriptor)
    (witnesses : List ReplicaId) (quorum : Nat) (requiredPrimary : Option ReplicaIdentity) :
    Except ValidationError Unit := do
  eachAfter id (fun seen replicaId => rejectIf (f.witness replicaId = none ∨
      (¬∃ m ∈ eligible.members, m.identity.replicaId = replicaId) ∨ replicaId ∈ seen)
    (.invalidScaleUp "invalid exact final scale-up election quorum")) [] witnesses
  rejectIf (witnesses.dedup.length < quorum ∨
      ∃ primary ∈ requiredPrimary, primary.replicaId ∉ witnesses)
    (.invalidScaleUp "insufficient exact final scale-up election witnesses")

/-- The prefix that a final witness certifies. -/
def ScaleUpFinalWitness.safeLsn (w : ScaleUpFinalWitness) : Int :=
  min w.currentProgress w.deactivatedLsn

/-- What final witnesses are compared by. -/
def ScaleUpFinalWitness.rank (w : ScaleUpFinalWitness) : Int ×ₗ Int ×ₗ Int ×ₗ Int :=
  toLex (w.safeLsn, toLex (w.currentProgress, toLex (w.committedLsn, -w.replicaId)))

/-- The member that a configuration names as its primary, in that role. -/
def ConfigurationDescriptor.namedPrimary? (c : ConfigurationDescriptor) :
    Option ConfigurationMember :=
  c.members.find? fun m => m.identity.replicaId = c.primaryId ∧ m.role = .primary

def validateFinalElection (f : ScaleUpFinalElectionEvidence) : Except ValidationError Unit := do
  let provisional := e.provisionalConfiguration
  let final ← demand (f.finalConfiguration provisional)
    (.invalidScaleUp "final scale-up election selected an unknown primary")
  let safeLsn ← demand f.safeLsn
    (.invalidScaleUp "final scale-up election omitted the selected witness")
  validateFailoverConfiguration e final e.intent.currentPolicy
  rejectIf (safeLsn < e.intent.catchUpBoundaryLsn ∨
      f.selectedPrimaryReplicaId = e.intent.primary.replicaId)
    (.invalidScaleUp "final scale-up election did not advance the provisional fence")
  let primary ← demand final.namedPrimary?
    (.invalidScaleUp "final scale-up election has no primary")
  eachAfter (·.replicaId) (validateFinalWitness e) [] f.witnesses
  validateFinalQuorum f e.intent.previousConfiguration f.previousReadQuorum
    e.intent.previousPolicy.readQuorum none
  validateFinalQuorum f provisional f.currentReadQuorum e.intent.currentPolicy.readQuorum
    (some primary.identity)
  let referenced := (f.previousReadQuorum ++ f.currentReadQuorum).dedup
  rejectIf (referenced.length ≠ f.witnesses.length ∨ ∃ w ∈ f.witnesses, w.replicaId ∉ referenced)
    (.invalidScaleUp "final scale-up election contains unreferenced witnesses")
  let survivors := (f.currentReadQuorum.filter fun id =>
    id ≠ e.intent.primary.replicaId).filterMap f.witness
  let expected ← demand (survivors.lastMax (·.rank))
    (.invalidScaleUp "final scale-up election has no surviving candidate")
  -- The quorum of the provisional configuration contains the selected primary.
  rejectIf (f.witness f.selectedPrimaryReplicaId ≠ some expected)
    (.invalidScaleUp "selected final primary did not certify the exact safe prefix")

def validateScaleUpFailoverEvidence : Except ValidationError Unit := do
  validateScaleUp e.intent
  validateRecoveryWitnesses e.intent e.intent.previousConfiguration e.previousReadQuorum
    e.intent.previousPolicy.readQuorum
  validateRecoveryWitnesses e.intent e.intent.currentConfiguration e.currentReadQuorum
    e.intent.currentPolicy.readQuorum
  validateFailoverConfiguration e e.provisionalConfiguration e.intent.currentPolicy
  rejectIf ((∀ next ∈ checkedAddOne e.intent.currentConfiguration.epoch.configurationNumber,
        e.provisionalConfiguration.epoch.configurationNumber ≠ next) ∨
      e.provisionalConfiguration.primaryId = e.intent.primary.replicaId)
    (.invalidScaleUp "provisional scale-up failover did not advance the expanded authority")
  onSome e.finalElection (validateFinalElection e)

def validateScaleUpFailoverTransition (current : ConfigurationDescriptor)
    (policy : EffectivePolicy) : Except ValidationError Unit := do
  validateScaleUpFailoverEvidence e
  validateFailoverConfiguration e current policy
  rejectIf (current ≠ e.provisionalConfiguration ∧
      (e.finalElection.bind fun f => f.finalConfiguration e.provisionalConfiguration) ≠ some current)
    (.invalidScaleUp "failover authority differs from provisional and final election evidence")

end Failover

/-! ## Cleanup and receipt -/

def validateScaleUpCleanup (c : ScaleUpCleanup) : Except ValidationError Unit := do
  validateScaleUpProvisioning c.provisioning
  let scaleUp ← demand c.provisioning.scaleUp
    (.invalidScaleUp "cleanup requires scale-up provisioning")
  let target := c.provisioning.targetIdentity scaleUp.resourceUid
  rejectIf (c.target ≠ target ∨ c.resources.pod.uid? ≠ some c.provisioning.podUid ∨
      c.resources.pvc.uid? ≠ some c.provisioning.pvcUid ∨
      c.resources.endpoint.name ≠ deriveReplicaEndpointName scaleUp.resourceUid target)
    (.invalidScaleUp "cleanup differs from exact candidate")
  each (fun r => rejectIf r.Malformed
    (.invalidScaleUp "cleanup requires exact identity or positive absence")) c.resources.all

/-- The election that a receipt retains certifies its primary. -/
def validateFailoverReceipt (r : ScaleUpReceipt) (primary : ConfigurationMember) :
    Except ValidationError Unit := do
  let evidence ← demand r.expandedFailoverEvidence
    (.invalidScaleUp "failover receipt has invalid provisional authority")
  let safeLsn ← demand r.failoverSafeLsn
    (.invalidScaleUp "failover receipt omitted its fenced safe LSN")
  validateScaleUpFailoverTransition evidence r.acceptedConfiguration r.intent.currentPolicy
  let final ← demand evidence.finalElection
    (.invalidScaleUp "failover receipt omitted final election evidence")
  rejectIf (final.finalConfiguration evidence.provisionalConfiguration ≠
        some r.acceptedConfiguration ∨ final.safeLsn ≠ some safeLsn)
    (.invalidScaleUp "failover receipt differs from final election evidence")
  rejectIf (¬∃ w ∈ r.currentOnlyWriteQuorum, w.identity = primary.identity ∧
      safeLsn ≤ w.verifiedReplicationLsn ∧ w.writeStatus = .granted)
    (.invalidScaleUp "failover receipt primary did not certify the fenced safe LSN")

/-- An increase without a failover accepts the configuration of its intent. -/
def validateOrdinaryReceipt (r : ScaleUpReceipt) : Except ValidationError Unit := do
  rejectIf (r.acceptedConfiguration ≠ r.intent.currentConfiguration)
    (.invalidScaleUp "ordinary receipt accepted configuration differs from scale-up intent")
  rejectIf (r.failoverSafeLsn ≠ none)
    (.invalidScaleUp "ordinary receipt must not carry a failover-safe LSN")

/-- The authority that a receipt was accepted under. -/
def validateReceiptAuthority (r : ScaleUpReceipt) (primary : ConfigurationMember) :
    Except ValidationError Unit :=
  if r.failoverEvidence.isSome then validateFailoverReceipt r primary else validateOrdinaryReceipt r

def validateScaleUpReceipt (r : ScaleUpReceipt) : Except ValidationError Unit := do
  validateScaleUp r.intent
  let primary ← demand r.acceptedConfiguration.namedPrimary?
    (.invalidScaleUp "receipt accepted configuration has no primary")
  validateReceiptAuthority r primary
  validateScaleUpWitnesses r.intent r.acceptedConfiguration r.acceptedConfiguration
    r.currentOnlyWriteQuorum r.intent.currentPolicy.writeQuorum false (some primary.identity)

end Kuberic
