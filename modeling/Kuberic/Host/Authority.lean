import Kuberic.Protocol.Validation.ScaleDown
import Kuberic.Protocol.Validation.ScaleUp
import Kuberic.Replicator.Configuration

/-!
# The durable authority of a replica

What a replica admits is kept in its database as one `AdmittedAuthority`: the configurations, the
transition that led to them and the evidence of a membership change or a switchover.  The engine
runs under the projection `managed`.  A replica that left the membership keeps a `RetiredAuthority`
instead.
-/

namespace Kuberic

open Check

variable [Sha256]

/-- A validation error, as the mismatch of an authority. -/
def mismatch {α : Type} (x : Except ValidationError α) : Result α :=
  x.mapError fun e => .authorityMismatch e.message

omit [Sha256] in
@[simp] theorem mismatch_eq_ok {α : Type} {x : Except ValidationError α} {a : α} :
    mismatch x = .ok a ↔ x = .ok a := by
  cases x <;> simp [mismatch, Except.mapError]

/-- The configuration has the identity as a member with the role of the primary. -/
def ConfigurationDescriptor.HasPrimary (c : ConfigurationDescriptor) (i : ReplicaIdentity) : Prop :=
  ∃ m ∈ c.members, m.identity = i ∧ m.role = .primary

instance (c : ConfigurationDescriptor) (i : ReplicaIdentity) : Decidable (c.HasPrimary i) := by
  unfold ConfigurationDescriptor.HasPrimary
  infer_instance

structure AdmittedAuthority where
  localIdentity : ReplicaIdentity
  transitionKind : Option TransitionKind
  previousConfiguration : Option ConfigurationDescriptor
  currentConfiguration : ConfigurationDescriptor
  switchoverHandoff : Option SwitchoverHandoff
  secondaryRemoval : Option SecondaryRemovalEvidence
  scaleUp : Option ScaleUpConfigurationEvidence
  deriving DecidableEq

namespace AdmittedAuthority

variable (a : AdmittedAuthority)

def epoch : Epoch := a.currentConfiguration.epoch

/-- `managed_configuration`: the part of the authority that the engine runs under. -/
def managed : ManagedReplicaConfiguration where
  localIdentity := a.localIdentity
  previousConfiguration := a.previousConfiguration
  currentConfiguration := a.currentConfiguration
  switchoverHandoff := a.switchoverHandoff
  secondaryRemoval := a.secondaryRemoval
  scaleUp := a.scaleUp
  buildKind := if a.transitionKind = some .failover then .failover else .provisioning

def primaryIdentity : Option ReplicaIdentity := a.managed.primaryIdentity

def isCurrentOnlyCompletionOf (existing : AdmittedAuthority) : Bool :=
  a.localIdentity == existing.localIdentity &&
    a.currentConfiguration == existing.currentConfiguration &&
    existing.previousConfiguration.isSome && a.previousConfiguration.isNone &&
    a.transitionKind.isNone && a.switchoverHandoff == existing.switchoverHandoff &&
    a.scaleUp == existing.scaleUp &&
    match a.secondaryRemoval, existing.secondaryRemoval with
    | some next, some old => next.preparation == old.preparation &&
        next.previousReadQuorum == old.previousReadQuorum &&
        (old.reducedWriteQuorum.isEmpty || next.reducedWriteQuorum == old.reducedWriteQuorum) &&
        decide (validateSecondaryRemovalEvidence next true = .ok ())
    | none, none => true
    | _, _ => false

/-! ## Validation -/

/-- The authority of a removal is that of its intent. -/
def validateRemoval (evidence : SecondaryRemovalEvidence) : Result Unit := do
  mismatch (validateSecondaryRemovalEvidence evidence a.previousConfiguration.isNone)
  let intent := evidence.preparation.intent
  rejectIf (a.currentConfiguration ≠ intent.currentConfiguration ∨
      a.previousConfiguration ≠ (a.previousConfiguration.map fun _ => intent.previousConfiguration) ∨
      a.transitionKind ≠ (a.previousConfiguration.map fun _ => .secondaryScaleDown) ∨
      a.switchoverHandoff ≠ none ∨ a.scaleUp ≠ none ∨
      ¬∃ m ∈ intent.currentConfiguration.members, m.identity = a.localIdentity)
    (.authorityMismatch "reduction differs from exact prepared authority")

/-- The authority of an increase is that of its intent, or of the failover that carries it. -/
def validateIncrease (evidence : ScaleUpConfigurationEvidence) : Result Unit := do
  let intent := evidence.intent
  mismatch (validateScaleUp intent)
  rejectIf (a.secondaryRemoval ≠ none ∨ a.switchoverHandoff ≠ none)
    (.authorityMismatch "scale-up authority cannot carry removal or switchover evidence")
  match evidence with
  | .admission _ =>
    rejectIf (a.currentConfiguration ≠ intent.currentConfiguration ∨
        a.previousConfiguration ≠
          (a.previousConfiguration.map fun _ => intent.previousConfiguration) ∨
        a.transitionKind ≠ (a.previousConfiguration.map fun _ => .scaleUp))
      (.authorityMismatch "admitted authority differs from exact scale-up intent")
  | .failover evidence => do
    mismatch (validateScaleUpFailoverEvidence evidence)
    mismatch (validateScaleUpFailoverTransition evidence a.currentConfiguration intent.currentPolicy)
    rejectIf (a.previousConfiguration ≠
          (a.previousConfiguration.map fun _ => intent.previousConfiguration) ∨
        a.transitionKind ≠ (a.previousConfiguration.map fun _ => .failover))
      (.authorityMismatch "admitted failover differs from carried scale-up intent")
  rejectIf (¬∃ m ∈ a.currentConfiguration.members, m.identity = a.localIdentity)
    (.authorityMismatch "local identity is outside admitted scale-up authority")

/-- The transition of an authority without a membership change. -/
def validateKind (policy : EffectivePolicy) : Result Unit :=
  match a.previousConfiguration, a.transitionKind with
  | some previous, some .replacement => relationship .replacement previous
  | some previous, some .failover => relationship .failover previous
  | some previous, some .plannedSwitchover => relationship .plannedSwitchover previous
  | none, some .bootstrap | none, none => .ok ()
  | some _, _ => .error (.authorityMismatch
      "Previous Configuration requires replacement, failover, or planned switchover authority")
  | none, some _ => .error (.authorityMismatch
      "non-bootstrap transition requires a Previous Configuration")
where
  relationship (kind : TransitionKind) (previous : ConfigurationDescriptor) : Result Unit :=
    mismatch (validateTransitionRelationship kind (some previous) a.currentConfiguration policy)

/-- The configuration that the handoff of an authority starts from, or compensates. -/
def handoffStarts (handoff : SwitchoverHandoff) (previous : ConfigurationDescriptor) : Prop :=
  if previous.HasPrimary handoff.source then
    previous.configurationId = handoff.startingConfigurationId ∧
      previous.epoch = handoff.startingEpoch ∧
      a.currentConfiguration.primaryId = handoff.target.replicaId
  else
    previous.HasPrimary handoff.target ∧
      a.currentConfiguration.primaryId = handoff.source.replicaId ∧
      previous.epoch.dataLossNumber = handoff.startingEpoch.dataLossNumber ∧
      handoff.startingEpoch.configurationNumber < previous.epoch.configurationNumber

instance (handoff : SwitchoverHandoff) (previous : ConfigurationDescriptor) :
    Decidable (a.handoffStarts handoff previous) := by
  unfold handoffStarts
  infer_instance

/-- The handoff of an authority agrees with its configurations. -/
def validateHandoff : Result Unit :=
  match a.switchoverHandoff with
  | some handoff => rejectIf
      ((a.transitionKind ≠ some .plannedSwitchover ∧ a.previousConfiguration ≠ none) ∨
        handoff.preparationGeneration = 0 ∨
        (∃ previous ∈ a.previousConfiguration, ¬a.handoffStarts handoff previous) ∨
        handoff.startingEpoch.dataLossNumber ≠ a.epoch.dataLossNumber ∨
        a.epoch.configurationNumber ≤ handoff.startingEpoch.configurationNumber ∨
        handoff.source = handoff.target ∨
        (¬∃ m ∈ a.currentConfiguration.members, m.identity = handoff.source) ∨
        (¬∃ m ∈ a.currentConfiguration.members, m.identity = handoff.target) ∨
        (a.currentConfiguration.primaryId ≠ handoff.source.replicaId ∧
          a.currentConfiguration.primaryId ≠ handoff.target.replicaId))
      (.authorityMismatch "switchover handoff contradicts admitted authority")
  | none => rejectIf (a.transitionKind = some .plannedSwitchover)
      (.authorityMismatch "planned switchover authority requires its handoff certificate")

/-- The authority of a transition that keeps the size of the membership. -/
def validateOrdinary : Result Unit := do
  mismatch (validateConfiguration a.currentConfiguration none)
  let policy ← demand (EffectivePolicy.fixed a.currentConfiguration.members.length 0)
    (.authorityMismatch "configuration must contain members")
  a.validateKind policy
  a.validateHandoff
  rejectIf (a.managed.containsMember a.localIdentity = false)
    (.authorityMismatch "local identity is outside admitted authority")

def validate : Result Unit :=
  match a.secondaryRemoval with
  | some evidence => a.validateRemoval evidence
  | none => match a.scaleUp with
    | some evidence => a.validateIncrease evidence
    | none => a.validateOrdinary

end AdmittedAuthority

/-- The terminal authority of a replica that a removal took out of the membership. -/
structure RetiredAuthority where
  committed : SecondaryScaleDownCleanup
  report : ReplicaRetirementReport
  deriving DecidableEq

def RetiredAuthority.validate (r : RetiredAuthority) (identity : ReplicaIdentity) : Result Unit := do
  mismatch (validateSecondaryScaleDownCleanup r.committed)
  mismatch (validateReplicaRetirement r.report)
  rejectIf (r.report.intent ≠ r.committed.evidence.preparation.intent ∨
      r.report.intent.target ≠ identity ∨
      ∃ retirement ∈ r.committed.retirement, retirement ≠ r.report)
    (.authorityMismatch "retirement target or evidence differs")

/-! ## What a valid authority says -/

namespace AdmittedAuthority

variable {a : AdmittedAuthority}

theorem scaleDown_of_evidence {e : SecondaryRemovalEvidence} {reduced : Bool}
    (h : validateSecondaryRemovalEvidence e reduced = .ok ()) :
    validateSecondaryScaleDown e.preparation.intent = .ok () := by
  simp only [validateSecondaryRemovalEvidence, validateSecondaryRemovalPreparation, seq_eq_ok] at h
  exact h.1.1

theorem removal_of_validate {e : SecondaryRemovalEvidence} (h : a.validate = .ok ())
    (he : a.secondaryRemoval = some e) :
    a.currentConfiguration = e.preparation.intent.currentConfiguration ∧
      ∀ p, a.previousConfiguration = some p → p = e.preparation.intent.previousConfiguration := by
  simp only [validate, he, validateRemoval, seq_eq_ok, rejectIf_eq_ok, not_or, not_not] at h
  obtain ⟨-, hcurrent, hprevious, -⟩ := h
  refine ⟨hcurrent, fun p hp => ?_⟩
  rw [hp] at hprevious
  exact Option.some.inj hprevious

end AdmittedAuthority

end Kuberic
