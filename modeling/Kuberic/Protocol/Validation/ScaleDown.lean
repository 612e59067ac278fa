import Kuberic.Lib.LastMax
import Kuberic.Protocol.Observation
import Kuberic.Protocol.Validation.Configuration

/-!
# Evidence of a secondary removal

The removal of the highest-id secondary is frozen as an intent; the primary prepares it by closing
writes, quorums of exact witnesses attest each stage, and the removed replica attests its own
retirement.  Each certificate is checked against the intent that it carries.
-/

namespace Kuberic

open Check

variable [Sha256]

/-- The members that a removal may take out. -/
def ConfigurationDescriptor.activeSecondaries (c : ConfigurationDescriptor) :
    List ConfigurationMember :=
  c.members.filter fun m => m.role = .activeSecondary

def validateSecondaryScaleDown (i : SecondaryScaleDownIntent) : Except ValidationError Unit := do
  let previous := i.previousConfiguration
  let current := i.currentConfiguration
  validatePolicy i.previousPolicy
  validatePolicy i.currentPolicy
  validateConfiguration previous (some i.previousPolicy)
  validateConfiguration current (some i.currentPolicy)
  rejectIf (∃ m ∈ previous.members, m.identity.instanceId = "" ∨ m.identity.agentGeneration = "")
    (.invalidSecondaryScaleDown "membership requires exact nonempty incarnation and generation")
  rejectIf (i.resourceUid = "" ∨ i.specGeneration = 0 ∨ i.desiredReplicas = 0 ∨
      i.currentPolicy.replicaSetSize < i.desiredReplicas ∨ i.operationId ≠ i.expectedOperationId)
    (.invalidSecondaryScaleDown "invalid frozen request or operation identity")
  rejectIf (previous.epoch.dataLossNumber < 0 ∨ previous.epoch.configurationNumber < 0 ∨
    current.epoch.dataLossNumber ≠ previous.epoch.dataLossNumber) .transitionDataLossChanged
  rejectIf (current.epoch.configurationNumber ≤ previous.epoch.configurationNumber)
    .transitionEpochNotNewer
  rejectIf (i.previousPolicy.failoverDelaySeconds ≠ i.currentPolicy.failoverDelaySeconds ∨
      previous.members.length ≠ current.members.length + 1)
    (.invalidSecondaryScaleDown "removal must preserve delay and reduce membership by exactly one")
  let target ← demand (previous.activeSecondaries.lastMax (·.identity.replicaId))
    (.invalidSecondaryScaleDown "no committed secondary")
  -- A valid configuration has a primary member.
  rejectIf ((∀ p ∈ previous.primaryMember?, i.primary ≠ p.identity) ∨
      i.target ≠ target.identity ∨ previous.primaryId ≠ current.primaryId ∨
      (∃ m ∈ previous.members, m.role ≠ .primary ∧ m.role ≠ .activeSecondary) ∨
      (∃ m ∈ previous.members, m.identity ≠ i.target ∧ m ∉ current.members) ∨
      ∃ m ∈ current.members, m.identity = i.target)
    (.invalidSecondaryScaleDown
      "target must be the highest committed secondary; retained members cannot change")
  each (fun r => rejectIf r.Malformed (.invalidSecondaryScaleDown
    "cleanup requires an exact name and UID or positive absence")) i.cleanup.all
  rejectIf ((∃ uid ∈ i.cleanup.pod.uid?, uid ≠ i.target.instanceId) ∨
      i.cleanup.endpoint.name ≠ deriveReplicaEndpointName i.resourceUid i.target)
    (.invalidSecondaryScaleDown "cleanup identity differs from frozen target")

def validateSecondaryRemovalPreparation (p : SecondaryRemovalPreparation) :
    Except ValidationError Unit := do
  validateSecondaryScaleDown p.intent
  rejectIf (p.operationId ≠ p.intent.commandOperationId .prepare p.intent.primary ∨
      p.processSessionId = "" ∨ p.reportSequence = 0 ∨ p.boundaryLsn < 0)
    (.invalidSecondaryScaleDown "invalid durable primary preparation")

/-! ## Witnesses -/

section Witnesses

variable (p : SecondaryRemovalPreparation) (stage : SecondaryRemovalStage)

/-- The authority that the witnesses of a stage attest. -/
def SecondaryRemovalPreparation.authorityAt : ConfigurationDescriptor :=
  if stage = .prepare then p.intent.previousConfiguration else p.intent.currentConfiguration

/-- The number of witnesses that a stage needs. -/
def SecondaryRemovalPreparation.quorumAt : Nat :=
  if stage = .prepare then p.intent.previousPolicy.readQuorum else p.intent.currentPolicy.writeQuorum

/-- What one witness of a stage is checked for, after the witnesses `seen`. -/
def validateRemovalWitness (seen : List ReplicaIdentity) (w : SecondaryRemovalWitness) :
    Except ValidationError Unit := do
  let intent := p.intent
  let expectedPrevious : Option ConfigurationId :=
    if stage = .previousCurrent then some intent.previousConfiguration.configurationId else none
  rejectIf (w.resourceUid ≠ intent.resourceUid ∨ w.processSessionId = "" ∨ w.reportSequence = 0 ∨
      (¬∃ m ∈ intent.currentConfiguration.members, m.identity = w.identity ∧ m.role = w.role) ∨
      w.identity ∈ seen ∨ w.epoch ≠ (p.authorityAt stage).epoch ∨
      w.previousConfigurationId ≠ expectedPrevious ∨
      w.currentConfigurationId ≠ (p.authorityAt stage).configurationId ∨
      w.verifiedReplicationLsn < 0 ∨
      (stage ≠ .prepare ∧ w.verifiedReplicationLsn < p.boundaryLsn) ∨
      w.pendingOperationId ≠ none ∨ w.writeStatus = .granted ∨
      (stage ≠ .prepare ∧
        w.retainedOperationId ≠ some (intent.commandOperationId stage w.identity)))
    (.invalidSecondaryScaleDown "invalid exact quorum witness authority or verified progress")
  rejectIf (stage = .prepare ∧ w.identity = intent.primary ∧
      ((w.processSessionId = p.processSessionId ∧ w.reportSequence < p.reportSequence) ∨
        w.verifiedReplicationLsn < p.boundaryLsn ∨ w.retainedOperationId ≠ some p.operationId))
    (.invalidSecondaryScaleDown "primary witness does not attest durable preparation")

def validateRemovalWitnesses (witnesses : List SecondaryRemovalWitness) :
    Except ValidationError Unit := do
  eachAfter (·.identity) (validateRemovalWitness p stage) [] witnesses
  let identities := (witnesses.map (·.identity)).dedup
  rejectIf (identities.length < p.quorumAt stage ∨
      (stage ≠ .prepare ∧ p.intent.primary ∉ identities))
    (.invalidSecondaryScaleDown "insufficient exact quorum or missing reduced primary")

end Witnesses

/-- A witness that is not newer than `w` in the same session of the same replica. -/
def SecondaryRemovalWitness.NotFresh (w earlier : SecondaryRemovalWitness) : Prop :=
  earlier.identity = w.identity ∧ earlier.processSessionId = w.processSessionId ∧
    w.reportSequence ≤ earlier.reportSequence

instance (w earlier : SecondaryRemovalWitness) : Decidable (w.NotFresh earlier) := by
  unfold SecondaryRemovalWitness.NotFresh
  infer_instance

def validateSecondaryRemovalEvidence (e : SecondaryRemovalEvidence) (requireReduced : Bool) :
    Except ValidationError Unit := do
  validateSecondaryRemovalPreparation e.preparation
  validateRemovalWitnesses e.preparation .prepare e.previousReadQuorum
  if requireReduced ∨ e.reducedWriteQuorum ≠ [] then do
    validateRemovalWitnesses e.preparation .previousCurrent e.reducedWriteQuorum
    each (fun w => rejectIf ((∃ previous ∈ e.previousReadQuorum, w.NotFresh previous) ∨
        (w.identity = e.preparation.intent.primary ∧
          w.processSessionId = e.preparation.processSessionId ∧
          w.reportSequence ≤ e.preparation.reportSequence))
      (.invalidSecondaryScaleDown "reduced-authority evidence is not fresh")) e.reducedWriteQuorum
  else .ok ()

def validateReplicaRetirement (r : ReplicaRetirementReport) : Except ValidationError Unit := do
  validateSecondaryScaleDown r.intent
  rejectIf (r.operationId ≠ r.intent.commandOperationId .retire r.intent.target ∨
      r.processSessionId = "" ∨ r.reportSequence = 0 ∨
      r.epoch ≠ r.intent.currentConfiguration.epoch ∨ r.role ≠ .none ∨ r.readStatus = .granted ∨
      r.writeStatus = .granted ∨ r.applicationClosed = false ∨ r.peersFenced = false)
    (.invalidSecondaryScaleDown "retirement must attest terminal exact local fencing")

def validateSecondaryScaleDownCleanup (c : SecondaryScaleDownCleanup) :
    Except ValidationError Unit := do
  validateSecondaryRemovalEvidence c.evidence true
  validateRemovalWitnesses c.evidence.preparation .currentOnly c.currentOnlyWriteQuorum
  each (fun w => rejectIf (∃ earlier ∈ c.evidence.previousReadQuorum ++ c.evidence.reducedWriteQuorum,
      w.NotFresh earlier)
    (.invalidSecondaryScaleDown "current-only evidence is not fresh")) c.currentOnlyWriteQuorum
  onSome c.retirement fun retirement => do
    validateReplicaRetirement retirement
    rejectIf (retirement.intent ≠ c.evidence.preparation.intent)
      (.invalidSecondaryScaleDown "retirement does not bind the committed cleanup obligation")

/-! ## Reports -/

section Reports

variable (r : AgentReport)

/-- The accepted removal that a report retains. -/
def validateAcceptedRemovalReport (committed : SecondaryScaleDownCleanup) :
    Except ValidationError Unit := do
  validateSecondaryScaleDownCleanup committed
  let intent := committed.evidence.preparation.intent
  rejectIf (intent.resourceUid ≠ r.resourceUid ∨
      (¬∃ m ∈ intent.currentConfiguration.members, m.identity = r.identity) ∨
      r.epoch < intent.currentConfiguration.epoch ∨
      (r.epoch = intent.currentConfiguration.epoch ∧
        (r.currentConfiguration ≠ some intent.currentConfiguration ∨
          r.previousConfiguration ≠ none ∨
          (∃ p ∈ r.preparedSecondaryRemoval,
            p.intent.previousConfiguration ≠ intent.currentConfiguration) ∨
          r.secondaryRemovalEvidence ≠ some committed.evidence)))
    (.invalidSecondaryScaleDown
      "accepted removal receipt differs from installed current-only authority")

/-- The preparation that a report retains. -/
def validatePreparedRemovalReport (preparation : SecondaryRemovalPreparation) :
    Except ValidationError Unit := do
  validateSecondaryRemovalPreparation preparation
  rejectIf (preparation.intent.primary ≠ r.identity ∨
      preparation.intent.resourceUid ≠ r.resourceUid ∨ r.processSessionId = "" ∨
      r.reportSequence = 0 ∨
      (r.processSessionId = preparation.processSessionId ∧
        r.reportSequence < preparation.reportSequence) ∨
      r.writeStatus = .granted ∨ r.preparedSwitchover ≠ none ∨
      (r.secondaryRemovalEvidence = none ∧
        (r.currentConfiguration ≠ some preparation.intent.previousConfiguration ∨
          r.previousConfiguration ≠ none ∨
          r.epoch ≠ preparation.intent.previousConfiguration.epoch ∨ r.role ≠ .primary)))
    (.invalidSecondaryScaleDown "preparation report differs from write-closed primary")

/-- The admission evidence that a report retains. -/
def validateRemovalEvidenceReport (evidence : SecondaryRemovalEvidence) :
    Except ValidationError Unit := do
  validateSecondaryRemovalEvidence evidence r.previousConfiguration.isNone
  let intent := evidence.preparation.intent
  rejectIf (r.resourceUid ≠ intent.resourceUid ∨ r.processSessionId = "" ∨ r.reportSequence = 0 ∨
      r.currentConfiguration ≠ some intent.currentConfiguration ∨
      r.epoch ≠ intent.currentConfiguration.epoch ∨
      (∃ previous ∈ r.previousConfiguration, previous ≠ intent.previousConfiguration) ∨
      (¬∃ m ∈ intent.currentConfiguration.members, m.identity = r.identity ∧ m.role = r.role) ∨
      (r.previousConfiguration ≠ none ∧ r.writeStatus = .granted) ∨
      ∃ prepared ∈ r.preparedSecondaryRemoval, prepared ≠ evidence.preparation ∧
        ¬(r.previousConfiguration = none ∧
          prepared.intent.previousConfiguration = intent.currentConfiguration ∧
          ∃ c ∈ r.acceptedSecondaryRemoval, c.evidence = evidence))
    (.invalidSecondaryScaleDown "reported reduced authority is not bound to admission evidence")

/-- The retirement that a report attests. -/
def validateRetiredReport (retirement : ReplicaRetirementReport) :
    Except ValidationError Unit := do
  validateReplicaRetirement retirement
  rejectIf (retirement.intent.target ≠ r.identity ∨
      retirement.intent.resourceUid ≠ r.resourceUid ∨ r.processSessionId = "" ∨
      r.reportSequence = 0 ∨
      (retirement.processSessionId = r.processSessionId ∧
        r.reportSequence < retirement.reportSequence) ∨
      retirement.epoch ≠ r.epoch ∨ r.role ≠ .none ∨ r.readStatus = .granted ∨
      r.writeStatus = .granted ∨ r.previousConfiguration ≠ none ∨ r.currentConfiguration ≠ none ∨
      r.pendingOperationId ≠ none ∨ r.retainedOperationId ≠ some retirement.operationId ∨
      r.preparedSecondaryRemoval ≠ none ∨ r.secondaryRemovalEvidence ≠ none ∨
      r.preparedSwitchover ≠ none)
    (.invalidSecondaryScaleDown "retired report still claims active authority")

def validateSecondaryRemovalReport : Except ValidationError Unit := do
  onSome r.acceptedSecondaryRemoval (validateAcceptedRemovalReport r)
  onSome r.preparedSecondaryRemoval (validatePreparedRemovalReport r)
  onSome r.secondaryRemovalEvidence (validateRemovalEvidenceReport r)
  onSome r.retiredReplica (validateRetiredReport r)

end Reports

end Kuberic
