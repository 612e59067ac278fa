import Kuberic.Protocol.Validation.Report

/-!
# Snapshots

A snapshot is accepted if its status is valid for the observed resource, every observation stands
under its own key, every report is newer than the watermark of its session and valid by itself and
against the status, and no two replicas claim to be primary of one configuration.
-/

namespace Kuberic

open Check

variable [Sha256]

section

variable (s : ObservationSnapshot)

/-! ## The status against the resource -/

/-- The replacement cleanups that the status carries. -/
def AcceptedStatus.replacementCleanups (status : AcceptedStatus) : List ReplacementCleanup :=
  status.lastReplacement.toList ++ status.pendingReplacementCleanup.toList

/-- The members of the accepted and of the current configuration. -/
def AcceptedStatus.knownMembers (status : AcceptedStatus) : List ConfigurationMember :=
  (status.accepted.toList.flatMap (·.members)) ++ (status.current.toList.flatMap (·.members))

/-- The storage of another known member is the storage that a cleanup would delete. -/
def ObservationSnapshot.SharesStorage (c : ReplacementCleanup) : Prop :=
  ∃ m ∈ s.status.knownMembers, m.identity ≠ c.target ∧
    ∃ k ∈ s.kubernetesAt m.identity, k.pvcUid ≠ none ∧ k.pvcUid = c.resources.pvc.uid?

instance (c : ReplacementCleanup) : Decidable (s.SharesStorage c) := by
  unfold ObservationSnapshot.SharesStorage
  infer_instance

/-- The removal that is active or being cleaned up. -/
def AcceptedStatus.activeRemoval (status : AcceptedStatus) : Option SecondaryScaleDownIntent :=
  (status.transition.bind (·.secondaryScaleDown)).or
    (status.secondaryScaleDownCleanup.map (·.evidence.preparation.intent))

def validateResourceUids : Except ValidationError Unit := do
  rejectIf (∃ c ∈ s.status.replacementCleanups, c.resourceUid ≠ s.resourceUid)
    .invalidReplacementCleanup
  rejectIf (∃ c ∈ s.status.replacementCleanups, s.SharesStorage c) .invalidReplacementCleanup
  rejectIf (∃ intent ∈ s.status.activeRemoval, intent.resourceUid ≠ s.resourceUid)
    (.invalidSecondaryScaleDown "resource UID mismatch")
  validateAdmissionStarted s.status
  rejectIf (∃ r ∈ s.status.lastSecondaryRemoval,
      r.evidence.preparation.intent.resourceUid ≠ s.resourceUid)
    (.invalidSecondaryScaleDown "completed removal resource UID mismatch")
  rejectIf ((∃ a ∈ s.status.scaleUpAllocation, a.resourceUid ≠ s.resourceUid) ∨
      (∃ c ∈ s.status.scaleUpCleanup,
        ∀ scaleUp ∈ c.provisioning.scaleUp, scaleUp.resourceUid ≠ s.resourceUid) ∨
      ∃ r ∈ s.status.lastScaleUp, r.intent.resourceUid ≠ s.resourceUid)
    (.invalidScaleUp "resource UID mismatch")
  rejectIf (∃ intent ∈ s.status.transition.bind (·.carriedScaleUp),
      intent.resourceUid ≠ s.resourceUid)
    (.invalidScaleUp "active transition resource UID mismatch")

/-- The purpose of a provisioning intent fits the accepted configuration. -/
def validateProvisioningTarget (p : ProvisioningIntent) (accepted : ConfigurationDescriptor) :
    Except ValidationError Unit :=
  match p.purpose.kind with
  | .replacement => do
    let replaces ← demand p.replacement .invalidProvisioningReplacement
    rejectIf (replaces.replicaId = accepted.primaryId ∨ ¬accepted.HasMember replaces)
      .invalidProvisioningReplacement
  | .scaleUp => do
    let scaleUp ← demand p.scaleUp (.invalidScaleUp "missing scale-up provisioning payload")
    rejectIf (scaleUp.resourceUid ≠ s.resourceUid ∨ ¬s.status.Continues scaleUp ∨
        s.status.effectivePolicy ≠ some scaleUp.previousPolicy)
      (.invalidScaleUp "provisioning differs from accepted authority")

def validateProvisioningSnapshot (p : ProvisioningIntent) : Except ValidationError Unit := do
  validateScaleUpProvisioning p
  let target := p.targetIdentity s.resourceUid
  rejectIf (∃ accepted ∈ s.status.accepted, accepted.HasInstance target.observationKey)
    .provisioningReusesAcceptedIncarnation
  let accepted ← demand s.status.accepted .provisioningWithoutTopology
  validateProvisioningTarget s p accepted

/-! ## Observations -/

variable (key : ReplicaObservationKey)

def ReplicaObservationKey.text : String := toString key.replicaId ++ "@" ++ key.instanceId

def validateReportSequence (session : ProcessSessionId) (sequence : Nat) :
    Except ValidationError Unit :=
  onSome ((s.previousReportWatermarks.get? key).filter fun previous =>
      previous.processSessionId = session ∧ sequence ≤ previous.reportSequence) fun previous =>
    .error (.staleReportSequence key.replicaId sequence previous.reportSequence)

/-- An agent without storage belongs to its Pod and PVC and to no established member. -/
def validateUninitialized (kubernetes : Option KubernetesReplicaObservation)
    (r : UninitializedAgentObservation) : Except ValidationError Unit := do
  rejectIf (r.replicaId ≠ key.replicaId ∨ r.podUid ≠ key.instanceId)
    (.replicaObservationKeyMismatch key.text (toString r.replicaId ++ "@" ++ r.podUid))
  rejectIf (r.resourceUid ≠ s.resourceUid) (.replicaResourceMismatch key.replicaId)
  validateReportSequence s key r.processSessionId r.reportSequence
  rejectIf (∀ k ∈ kubernetes, ¬(k.replicaId = key.replicaId ∧ k.podUid = some r.podUid ∧
    k.pvcUid = some r.pvcUid)) .uninitializedScaffoldingMismatch
  rejectIf ((∃ accepted ∈ s.status.accepted, accepted.HasInstance key) ∨
      ∃ t ∈ s.status.transition, t.kind ≠ .bootstrap ∧ t.currentConfiguration.HasInstance key)
    (.establishedStoreMissing key.replicaId)
  rejectIf (∃ p ∈ s.status.provisioning, p.replicaId = key.replicaId ∧
      p.instanceId = key.instanceId ∧ (p.podUid ≠ r.podUid ∨ p.pvcUid ≠ r.pvcUid))
    .uninitializedProvisioningMismatch

/-- The increase that a report retains is the active or the last completed one. -/
def validateReportedScaleUp (reported : ScaleUpIntent) : Except ValidationError Unit :=
  rejectIf (s.status.transition.bind (·.carriedScaleUp) ≠ some reported ∧
      s.status.lastScaleUp.map (·.intent) ≠ some reported)
    (.invalidScaleUp "reported scale-up attempt differs from persisted authority")

def validateReport (r : AgentReport) : Except ValidationError Unit := do
  rejectIf (r.identity.observationKey ≠ key)
    (.replicaObservationKeyMismatch key.text r.identity.observationKey.text)
  rejectIf (r.resourceUid ≠ s.resourceUid) (.replicaResourceMismatch key.replicaId)
  validateReportSequence s key r.processSessionId r.reportSequence
  onSome r.previousConfiguration fun c => validateConfiguration c none
  onSome r.currentConfiguration fun c => validateConfiguration c none
  onSome r.scaleUpIntent (validateReportedScaleUp s)
  validateReportInternal r
  validateReportAuthority s r

def validateObservation (o : ReplicaObservation) : Except ValidationError Unit := do
  rejectIf (∃ k ∈ o.kubernetes, k.replicaId ≠ key.replicaId ∨
    ∃ podUid ∈ k.podUid, podUid ≠ key.instanceId) .kubernetesObservationKeyMismatch
  match o.agent with
  | .uninitialized r => validateUninitialized s key o.kubernetes r
  | .report r => validateReport s key r
  | .absent | .unreachable _ | .invalid _ _ => .ok ()

/-! ## Claims to be primary -/

/-- The epoch and configuration that a report claims to be primary of. -/
def AgentReport.primaryClaim (r : AgentReport) : Option (Epoch × ConfigurationId) :=
  if r.role = .primary then r.currentConfiguration.map fun c => (r.epoch, c.configurationId)
  else none

/-- The reports of a snapshot, in key order. -/
def ObservationSnapshot.reports : List AgentReport :=
  s.replicas.ascending.filterMap fun e => e.2.agent.report?

/-- The replicas that make one claim. -/
def ObservationSnapshot.claimants (claim : Epoch × ConfigurationId) : List ReplicaId :=
  (s.reports.filter fun r => r.primaryClaim = some claim).map (·.identity.replicaId)

/-- The order in which the claims are listed. -/
def claimKey (claim : Epoch × ConfigurationId) : Epoch ×ₗ List Char :=
  toLex (claim.1, claim.2.toList)

/-- The first claim that several replicas make. -/
def ObservationSnapshot.conflictingClaim : Option (Epoch × ConfigurationId) :=
  ((s.reports.filterMap (·.primaryClaim)).insertionSort fun a b => claimKey a ≤ claimKey b).find?
    fun claim => 1 < (s.claimants claim).length

end

/-- Validates accepted status and every observed exact replica incarnation. -/
def validateSnapshot (s : ObservationSnapshot) : Except ValidationError Unit := do
  rejectIf (s.desired.replicas = 0 ∧ s.status.secondaryScaleDownCleanup = none ∧
    ¬∃ t ∈ s.status.transition, t.kind = .secondaryScaleDown) .desiredReplicasZero
  validateStatus s.status
  validateResourceUids s
  onSome s.status.provisioning (validateProvisioningSnapshot s)
  each (fun e => validateObservation s e.1 e.2) s.replicas.ascending
  onSome s.conflictingClaim fun claim => .error (.conflictingPrimaryClaims (s.claimants claim))

end Kuberic
