import Kuberic.Lib.Check
import Kuberic.Protocol.Status
import Kuberic.Protocol.Validation.Error
import Mathlib.Data.List.Dedup

/-!
# Configurations, policies and their relationship

A configuration is valid if its id is derived from its content, its logical and exact identities are
distinct, exactly one member is primary and its size and write quorum are those of its policy.  A
transition relates the Previous to the Current Configuration: a newer epoch of the same data-loss
number over the same logical membership, with the exact membership that its kind allows.
-/

namespace Kuberic

open Check

variable [Sha256]

/-! ## Policies and configurations -/

def validatePolicy (policy : EffectivePolicy) : Except ValidationError Unit := do
  let expected ← demand (EffectivePolicy.fixed policy.replicaSetSize policy.failoverDelaySeconds)
    (.invalidEffectivePolicy policy.replicaSetSize)
  rejectIf (policy.writeQuorum ≠ expected.writeQuorum ∨ policy.readQuorum ≠ expected.readQuorum)
    (.invalidEffectivePolicy policy.replicaSetSize)

/-- The logical ids that occur more than once, in ascending order. -/
def duplicateReplicaIds (members : List ConfigurationMember) : List ReplicaId :=
  let ids := members.map (·.identity.replicaId)
  ((ids.filter fun id => 1 < ids.count id).dedup).insertionSort (· ≤ ·)

/-- The part of an identity that must be distinct on its own. -/
def ReplicaIdentity.incarnation (i : ReplicaIdentity) : ReplicaInstanceId × AgentGeneration :=
  (i.instanceId, i.agentGeneration)

/-- Exactly one member is primary, and it is the one that the configuration names. -/
def validatePrimary (c : ConfigurationDescriptor) : Except ValidationError Unit :=
  match c.members.filter fun m => m.role = .primary with
  | [primary] => rejectIf (primary.identity.replicaId ≠ c.primaryId) (.missingPrimary c.primaryId)
  | primaries => .error (.invalidPrimaryCount primaries.length)

/-- Validates one canonical configuration independently; without a policy, its size and quorum are
those of the fixed policy for its members. -/
def validateConfiguration (c : ConfigurationDescriptor) (policy : Option EffectivePolicy) :
    Except ValidationError Unit := do
  rejectIf (c.epoch.dataLossNumber < 0 ∨ c.epoch.configurationNumber < 0) .invalidConfigurationEpoch
  rejectIf (c.members = []) .emptyConfiguration
  rejectIf (c.configurationId ≠ c.expectedId)
    (.configurationIdMismatch c.configurationId c.expectedId)
  rejectIf (duplicateReplicaIds c.members ≠ []) (.duplicateReplicaIds (duplicateReplicaIds c.members))
  each (fun m => rejectIf (m.identity.replicaId ≤ 0) (.invalidReplicaId m.identity.replicaId))
    c.members
  eachAfter (·.identity.incarnation) (fun seen m => rejectIf (m.identity.incarnation ∈ seen)
    (.duplicateReplicaIdentity (m.identity.instanceId ++ "@" ++ m.identity.agentGeneration)))
    [] c.members
  validatePrimary c
  -- The members are not empty here, so there is always an expected policy.
  onSome (policy.or (EffectivePolicy.fixed c.members.length 0)) fun expected => do
    rejectIf (c.members.length ≠ expected.replicaSetSize)
      (.replicaSetSizeMismatch c.members.length expected.replicaSetSize)
    rejectIf (c.writeQuorum ≠ expected.writeQuorum)
      (.writeQuorumMismatch c.writeQuorum expected.writeQuorum)

/-! ## Exact identities -/

def validExactIdentity (i : ReplicaIdentity) : Prop :=
  0 < i.replicaId ∧ i.instanceId ≠ "" ∧ i.agentGeneration ≠ ""

instance (i : ReplicaIdentity) : Decidable (validExactIdentity i) := by
  unfold validExactIdentity
  infer_instance

/-- Two lists with the same elements. -/
def SameElements {α : Type} (a b : List α) : Prop := a ⊆ b ∧ b ⊆ a

instance {α : Type} [DecidableEq α] (a b : List α) : Decidable (SameElements a b) := by
  unfold SameElements
  infer_instance

namespace ConfigurationDescriptor

def exactIdentities (c : ConfigurationDescriptor) : List ReplicaIdentity :=
  c.members.map (·.identity)

def replicaIds (c : ConfigurationDescriptor) : List ReplicaId :=
  c.members.map (·.identity.replicaId)

/-- The first member with the role of the primary. -/
def primaryMember? (c : ConfigurationDescriptor) : Option ConfigurationMember :=
  c.members.find? fun m => m.role = .primary

/-- The members of `previous` that `current` has in another incarnation or not at all. -/
def changedMembers (previous current : ConfigurationDescriptor) : List ConfigurationMember :=
  previous.members.filter fun p =>
    (current.members.find? fun c => c.identity.replicaId = p.identity.replicaId).all
      fun c => c.identity ≠ p.identity

end ConfigurationDescriptor

open ConfigurationDescriptor in
def validSingleNonPrimaryIncarnationChange (previous current : ConfigurationDescriptor) : Bool :=
  match changedMembers previous current with
  | [changed] => changed.identity.replicaId ≠ previous.primaryId
  | _ => false

/-! ## Transitions -/

/-- Validates the relationship between PC, CC, epoch, membership, and policy. -/
def validateTransitionRelationship (kind : TransitionKind)
    (previous : Option ConfigurationDescriptor) (current : ConfigurationDescriptor)
    (policy : EffectivePolicy) : Except ValidationError Unit :=
  match kind with
  | .secondaryScaleDown =>
    .error (.invalidSecondaryScaleDown "requires explicit dual-policy removal intent")
  | .scaleUp => .error (.invalidScaleUp "requires explicit dual-policy scale-up intent")
  | .bootstrap => do
    validatePolicy policy
    validateConfiguration current (some policy)
    rejectIf (previous ≠ none) .bootstrapHasPreviousConfiguration
  | .replacement => do
    let previous ← validateSuccessor previous current policy
    rejectIf (current.primaryId ≠ previous.primaryId) .replacementPrimaryChanged
    rejectIf (validSingleNonPrimaryIncarnationChange previous current = false)
      .invalidReplacementMembership
  | .failover => do
    let previous ← validateSuccessor previous current policy
    rejectIf (¬SameElements previous.exactIdentities current.exactIdentities ∧
      validSingleNonPrimaryIncarnationChange previous current = false) .failoverMembershipChanged
  | .plannedSwitchover => do
    let previous ← validateSuccessor previous current policy
    rejectIf (¬SameElements previous.exactIdentities current.exactIdentities)
      .failoverMembershipChanged
where
  /-- What every transition from a Previous Configuration is checked for. -/
  validateSuccessor (previous : Option ConfigurationDescriptor) (current : ConfigurationDescriptor)
      (policy : EffectivePolicy) : Except ValidationError ConfigurationDescriptor := do
    validatePolicy policy
    validateConfiguration current (some policy)
    let previous ← demand previous .transitionWithoutTopology
    validateConfiguration previous (some policy)
    rejectIf (current.epoch.dataLossNumber ≠ previous.epoch.dataLossNumber)
      .transitionDataLossChanged
    rejectIf (current.epoch.configurationNumber ≤ previous.epoch.configurationNumber)
      .transitionEpochNotNewer
    rejectIf (¬SameElements previous.replicaIds current.replicaIds)
      .transitionLogicalMembershipChanged
    return previous

/-! ## Switchovers -/

def validateSwitchoverHandoff (h : SwitchoverHandoff) : Except ValidationError Unit :=
  rejectIf (h.preparationGeneration = 0 ∨ h.preparationOperationId = "" ∨ h.requestId = "" ∨
    h.source = h.target ∨ ¬validExactIdentity h.source ∨ ¬validExactIdentity h.target ∨
    h.startingConfigurationId = "" ∨ h.startingEpoch.dataLossNumber < 0 ∨
    h.startingEpoch.configurationNumber < 0 ∨ h.handoffLsn < 0) .invalidSwitchoverHandoff

def validateSwitchoverReceipt (r : PlannedSwitchoverReceipt) : Except ValidationError Unit := do
  rejectIf (r.requestId = "" ∨ r.requestedTargetReplicaId ≤ 0) .invalidSwitchoverReceipt
  rejectIf ((∃ target ∈ r.acceptedTarget,
      ¬validExactIdentity target ∨ target.replicaId ≠ r.requestedTargetReplicaId) ∨
    ∃ identity ∈ r.resultingPrimary, ¬validExactIdentity identity) .invalidSwitchoverReceipt
  match r.outcome with
  | .requestedTargetCompleted =>
    rejectIf (r.acceptedTarget = none ∨ r.resultingPrimary ≠ r.acceptedTarget)
      .invalidSwitchoverReceipt
  | .oldPrimaryRestored | .oldPrimaryCompensated =>
    rejectIf (∀ primary ∈ r.resultingPrimary, primary.replicaId = r.requestedTargetReplicaId)
      .invalidSwitchoverReceipt
  | .rejected => .ok ()
  | .unsafeOutcome => rejectIf (r.resultingPrimary ≠ none) .invalidSwitchoverReceipt

/-! ## Replacement cleanup -/

/-- The uid of a resource that was present. -/
def CleanupResourceIdentity.uid? : CleanupResourceIdentity → Option String
  | .present _ uid => some uid
  | .absent _ => none

/-- A resource without a name or with an empty uid. -/
def CleanupResourceIdentity.Malformed (r : CleanupResourceIdentity) : Prop :=
  r.name = "" ∨ r.uid? = some ""

instance (r : CleanupResourceIdentity) : Decidable r.Malformed := by
  unfold CleanupResourceIdentity.Malformed
  infer_instance

def ReplicaCleanupIdentity.all (r : ReplicaCleanupIdentity) : List CleanupResourceIdentity :=
  [r.pod, r.pvc, r.endpoint]

def validateReplacementCleanup (c : ReplacementCleanup) : Except ValidationError Unit := do
  let pod ← demand c.resources.pod.uid? .invalidReplacementCleanup
  let pvc ← demand c.resources.pvc.uid? .invalidReplacementCleanup
  rejectIf (c.target.replicaId ≤ 0 ∨ c.resourceUid = "" ∨ pod = "" ∨ pvc = "" ∨
    pod ≠ c.target.instanceId ∨
    deriveAgentGeneration (deriveInitializationId c.resourceUid c.target.replicaId pod pvc) ≠
      c.target.agentGeneration ∨
    (∃ r ∈ c.resources.all, r.Malformed) ∨
    c.resources.endpoint.name ≠ deriveReplicaEndpointName c.resourceUid c.target)
    .invalidReplacementCleanup

/-! ## What the checks establish -/

omit [Sha256] in
theorem validatePolicy_eq_ok {p : EffectivePolicy} : validatePolicy p = .ok () ↔
    0 < p.replicaSetSize ∧ p.writeQuorum = p.replicaSetSize / 2 + 1 ∧
      p.readQuorum = p.replicaSetSize - p.writeQuorum + 1 := by
  unfold validatePolicy EffectivePolicy.fixed
  by_cases h : p.replicaSetSize = 0
  · simp [h]
  · simp only [h, if_false, demand_bind_eq_ok, Option.some.injEq, exists_eq_left', rejectIf_eq_ok,
      not_or, not_not]
    constructor
    · rintro ⟨hw, hr⟩
      exact ⟨Nat.pos_of_ne_zero h, hw, by omega⟩
    · rintro ⟨-, hw, hr⟩
      exact ⟨hw, by omega⟩

omit [Sha256] in
theorem duplicateReplicaIds_eq_nil {members : List ConfigurationMember} :
    duplicateReplicaIds members = [] ↔ (members.map (·.identity.replicaId)).Nodup := by
  have hmem : ∀ id, id ∈ duplicateReplicaIds members ↔
      id ∈ members.map (·.identity.replicaId) ∧
        1 < (members.map (·.identity.replicaId)).count id := by
    intro id
    rw [duplicateReplicaIds, (List.perm_insertionSort _ _).mem_iff, List.mem_dedup, List.mem_filter]
    simp
  rw [List.eq_nil_iff_forall_not_mem, List.nodup_iff_count_le_one]
  constructor
  · intro h id
    by_cases hid : id ∈ members.map (·.identity.replicaId)
    · exact Nat.le_of_not_lt fun hlt => h id ((hmem id).2 ⟨hid, hlt⟩)
    · rw [List.count_eq_zero_of_not_mem hid]
      exact Nat.zero_le 1
  · intro h id hid
    exact absurd (h id) (Nat.not_le_of_lt ((hmem id).1 hid).2)

/-- The configurations that are accepted whatever their policy. -/
structure ValidConfiguration (c : ConfigurationDescriptor) : Prop where
  epoch_nonneg : 0 ≤ c.epoch.dataLossNumber ∧ 0 ≤ c.epoch.configurationNumber
  members_ne_nil : c.members ≠ []
  id_eq : c.configurationId = c.expectedId
  nodup_replicaIds : c.replicaIds.Nodup
  replicaId_pos : ∀ m ∈ c.members, 0 < m.identity.replicaId
  nodup_incarnations : (c.members.map (·.identity.incarnation)).Nodup
  single_primary : ∃ p, c.members.filter (fun m => m.role = .primary) = [p] ∧
    p.identity.replicaId = c.primaryId

omit [Sha256] in
theorem validatePrimary_eq_ok {c : ConfigurationDescriptor} : validatePrimary c = .ok () ↔
    ∃ p, c.members.filter (fun m => m.role = .primary) = [p] ∧
      p.identity.replicaId = c.primaryId := by
  unfold validatePrimary
  split
  · next p hp => simp [hp]
  · next hp =>
    simp only [reduceCtorEq, false_iff]
    rintro ⟨p, h, -⟩
    exact hp p h

theorem validateConfiguration_eq_ok {c : ConfigurationDescriptor}
    {policy : Option EffectivePolicy} : validateConfiguration c policy = .ok () ↔
      ValidConfiguration c ∧
        ∀ p, policy.or (EffectivePolicy.fixed c.members.length 0) = some p →
          c.members.length = p.replicaSetSize ∧ c.writeQuorum = p.writeQuorum := by
  simp only [validateConfiguration, seq_eq_ok, rejectIf_eq_ok, each_eq_ok, onSome_eq_ok,
    validatePrimary_eq_ok, duplicateReplicaIds_eq_nil, not_or, not_not, not_lt, not_le]
  constructor
  · rintro ⟨hepoch, hne, hid, hids, hpos, hinc, hprimary, hpolicy⟩
    exact ⟨⟨hepoch, hne, hid, hids, hpos, (eachAfter_fresh_eq_ok.1 hinc).1, hprimary⟩, hpolicy⟩
  · rintro ⟨⟨hepoch, hne, hid, hids, hpos, hinc, hprimary⟩, hpolicy⟩
    refine ⟨hepoch, hne, hid, hids, hpos, ?_, hprimary, hpolicy⟩
    exact eachAfter_fresh_eq_ok.2 ⟨hinc, fun _ _ => List.not_mem_nil⟩

theorem validateConfiguration_some_eq_ok {c : ConfigurationDescriptor} {p : EffectivePolicy} :
    validateConfiguration c (some p) = .ok () ↔ ValidConfiguration c ∧
      c.members.length = p.replicaSetSize ∧ c.writeQuorum = p.writeQuorum := by
  rw [validateConfiguration_eq_ok]
  simp

namespace ValidConfiguration

variable {c : ConfigurationDescriptor}

theorem nodup_members (h : ValidConfiguration c) : c.members.Nodup :=
  List.Nodup.of_map _ h.nodup_replicaIds

theorem nodup_exactIdentities (h : ValidConfiguration c) : c.exactIdentities.Nodup := by
  have hids : (c.exactIdentities.map (·.replicaId)).Nodup := by
    rw [ConfigurationDescriptor.exactIdentities, List.map_map]
    exact h.nodup_replicaIds
  exact List.Nodup.of_map _ hids

theorem member_unique (h : ValidConfiguration c) {m n : ConfigurationMember} (hm : m ∈ c.members)
    (hn : n ∈ c.members) (heq : m.identity.replicaId = n.identity.replicaId) : m = n :=
  List.inj_on_of_nodup_map h.nodup_replicaIds hm hn heq

end ValidConfiguration

end Kuberic
