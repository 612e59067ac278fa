import Kuberic.Protocol.Growth
import Kuberic.Protocol.Identifiers

/-!
# What the receipt of a failed-over increase keeps

The receipt of an increase that was finished by a failover drops the provisional configuration of the
failover: it is rebuilt from the intent, in replica-id order and with active secondaries beside the
provisional primary.  The checks of the evidence force the epoch, the write quorum and the exact
members, but neither the order of the members nor the roles beside the primary, so the receipt keeps
the evidence exactly when these are as they are rebuilt.
-/

namespace Kuberic

open Check

/-! ## Canonical configurations -/

/-- Members in replica-id order, all of them active secondaries but the primary. -/
structure ConfigurationDescriptor.Canonical (c : ConfigurationDescriptor) : Prop where
  sorted : c.members.Pairwise fun m n => m.identity.replicaId ≤ n.identity.replicaId
  roles : ∀ m ∈ c.members, m.role = .primary ∨ m.role = .activeSecondary

/-- The member that an identity is rebuilt as. -/
def assignedMember (primaryId : ReplicaId) (identity : ReplicaIdentity) : ConfigurationMember :=
  ⟨identity, if identity.replicaId = primaryId then .primary else .activeSecondary⟩

section

variable [Sha256] {c : ConfigurationDescriptor}

theorem ValidConfiguration.role_eq_primary_iff (h : ValidConfiguration c) {m : ConfigurationMember}
    (hm : m ∈ c.members) : m.role = .primary ↔ m.identity.replicaId = c.primaryId := by
  obtain ⟨p, hfilter, hid⟩ := h.single_primary
  have hp : p ∈ c.members ∧ p.role = .primary := by
    have hmem : p ∈ c.members.filter fun m => m.role = .primary := by simp [hfilter]
    simpa using hmem
  constructor
  · intro hrole
    have hmem : m ∈ c.members.filter fun m => m.role = .primary := by simp [hm, hrole]
    rw [hfilter, List.mem_singleton] at hmem
    rw [hmem, hid]
  · intro hprimary
    rw [h.member_unique hm hp.1 (hprimary.trans hid.symm)]
    exact hp.2

theorem ValidConfiguration.primary_mem (h : ValidConfiguration c) :
    ∃ i ∈ c.exactIdentities, i.replicaId = c.primaryId := by
  obtain ⟨p, hfilter, hid⟩ := h.single_primary
  have hmem : p ∈ c.members.filter fun m => m.role = .primary := by simp [hfilter]
  exact ⟨p.identity, List.mem_map_of_mem (List.mem_filter.1 hmem).1, hid⟩

theorem ValidConfiguration.map_assignedMember (h : ValidConfiguration c)
    (hroles : ∀ m ∈ c.members, m.role = .primary ∨ m.role = .activeSecondary) :
    c.exactIdentities.map (assignedMember c.primaryId) = c.members := by
  rw [ConfigurationDescriptor.exactIdentities, List.map_map]
  refine (List.map_congr_left fun m hm => ?_).trans (List.map_id _)
  have hiff := h.role_eq_primary_iff hm
  have hrole : (if m.identity.replicaId = c.primaryId then ReplicaRole.primary
      else .activeSecondary) = m.role := by
    split_ifs with hprimary
    · exact (hiff.2 hprimary).symm
    · exact ((hroles m hm).resolve_left fun hrole => hprimary (hiff.1 hrole)).symm
  exact congrArg (ConfigurationMember.mk m.identity) hrole

/-- A valid configuration is what its identities, in any order, are rebuilt as exactly when it is
canonical. -/
theorem ValidConfiguration.new_eq_iff (h : ValidConfiguration c) {identities : List ReplicaIdentity}
    (hperm : identities.Perm c.exactIdentities) :
    ConfigurationDescriptor.new c.epoch c.primaryId
        (identities.map (assignedMember c.primaryId)) c.writeQuorum = c ↔ c.Canonical := by
  constructor
  · intro heq
    have hmembers : sortMembers (identities.map (assignedMember c.primaryId)) = c.members :=
      congrArg ConfigurationDescriptor.members heq
    refine ⟨hmembers ▸ sortMembers_pairwise _, fun m hm => ?_⟩
    rw [← hmembers, (sortMembers_perm _).mem_iff] at hm
    obtain ⟨i, -, rfl⟩ := List.mem_map.1 hm
    unfold assignedMember
    split_ifs
    · exact Or.inl rfl
    · exact Or.inr rfl
  · intro hcanonical
    have hmembers : sortMembers (identities.map (assignedMember c.primaryId)) = c.members := by
      have hpermuted : (identities.map (assignedMember c.primaryId)).Perm c.members := by
        have hassigned := h.map_assignedMember hcanonical.roles
        exact hassigned ▸ hperm.map _
      have hnodup : (c.members.map (·.identity.replicaId)).Nodup := h.nodup_replicaIds
      rw [← (sortMembers_eq_iff hnodup).2 hpermuted.symm]
      exact List.Pairwise.insertionSort_eq hcanonical.sorted
    rw [ConfigurationDescriptor.new, hmembers]
    have hid : ConfigurationDescriptor.calculateId c.epoch c.primaryId c.members c.writeQuorum =
        c.configurationId := h.id_eq.symm
    rw [hid]

end

/-! ## Evidence -/

section

variable [Sha256] {e : ScaleUpFailoverEvidence}

/-- What accepted evidence says about its provisional configuration. -/
structure ScaleUpFailoverEvidence.Accepted (e : ScaleUpFailoverEvidence) : Prop where
  increase : ValidIncrease e.intent
  provisional : ValidConfiguration e.provisionalConfiguration
  writeQuorum : e.provisionalConfiguration.writeQuorum = e.intent.currentPolicy.writeQuorum
  dataLoss : e.provisionalConfiguration.epoch.dataLossNumber =
    e.intent.currentConfiguration.epoch.dataLossNumber
  members : SameElements e.provisionalConfiguration.exactIdentities
    e.intent.currentConfiguration.exactIdentities
  number : checkedAddOne e.intent.currentConfiguration.epoch.configurationNumber =
    some e.provisionalConfiguration.epoch.configurationNumber

theorem ScaleUpFailoverEvidence.Accepted.of_validate
    (h : validateScaleUpFailoverEvidence e = .ok ()) : e.Accepted := by
  simp only [validateScaleUpFailoverEvidence, validateFailoverConfiguration, seq_eq_ok,
    rejectIf_eq_ok, not_or, not_not] at h
  obtain ⟨hintent, -, -, ⟨-, hconfiguration, ⟨-, hdata, -⟩, hmembers⟩, ⟨hnumber, -⟩, -⟩ := h
  obtain ⟨hvalid, -, hquorum⟩ := validateConfiguration_some_eq_ok.1 hconfiguration
  push Not at hnumber
  obtain ⟨next, hnext, hnumber⟩ := hnumber
  exact ⟨.of_validate hintent, hvalid, hquorum, hdata, hmembers, hnumber ▸ hnext⟩

theorem ScaleUpFailoverEvidence.Accepted.perm (h : e.Accepted) :
    e.intent.currentConfiguration.exactIdentities.Perm e.provisionalConfiguration.exactIdentities := by
  have hcurrent := (validateConfiguration_some_eq_ok.1 h.increase.current).1
  rw [List.perm_ext_iff_of_nodup hcurrent.nodup_exactIdentities h.provisional.nodup_exactIdentities]
  exact fun i => ⟨fun hi => h.members.2 hi, fun hi => h.members.1 hi⟩

/-- The provisional configuration as it is rebuilt from the intent. -/
def ScaleUpFailoverEvidence.rebuilt (e : ScaleUpFailoverEvidence) : ConfigurationDescriptor :=
  .new e.provisionalConfiguration.epoch e.provisionalConfiguration.primaryId
    (e.intent.currentConfiguration.exactIdentities.map
      (assignedMember e.provisionalConfiguration.primaryId)) e.provisionalConfiguration.writeQuorum

theorem ScaleUpFailoverEvidence.Accepted.expand_eq (h : e.Accepted)
    {r : ScaleUpFailoverReceiptEvidence}
    (hr : ScaleUpFailoverReceiptEvidence.fromEvidence e = some r) :
    r.expand e.intent = some { e with provisionalConfiguration := e.rebuilt } := by
  obtain ⟨f, hf, rfl⟩ := Option.map_eq_some_iff.1 hr
  obtain ⟨i, hi, hid⟩ := h.provisional.primary_mem
  obtain ⟨m, hm, hidentity⟩ := List.mem_map.1 (h.members.1 hi)
  have hany : (e.intent.currentConfiguration.members.any fun m =>
      m.identity.replicaId == e.provisionalConfiguration.primaryId) = true := by
    rw [List.any_eq_true]
    exact ⟨m, hm, by simp [hidentity, hid]⟩
  simp only [ScaleUpFailoverReceiptEvidence.expand, hany, if_true, h.number, Option.map_some,
    ScaleUpFailoverEvidence.rebuilt, ConfigurationDescriptor.exactIdentities, List.map_map,
    ← h.dataLoss, ← h.writeQuorum, ← hf]
  rfl

theorem ScaleUpFailoverEvidence.Accepted.expand_eq_iff (h : e.Accepted)
    {r : ScaleUpFailoverReceiptEvidence}
    (hr : ScaleUpFailoverReceiptEvidence.fromEvidence e = some r) :
    r.expand e.intent = some e ↔ e.provisionalConfiguration.Canonical := by
  rw [h.expand_eq hr, ← h.provisional.new_eq_iff h.perm]
  obtain ⟨intent, provisional, previousReadQuorum, currentReadQuorum, finalElection⟩ := e
  simp [ScaleUpFailoverEvidence.rebuilt]

theorem canonical_of_expand {r : ScaleUpFailoverReceiptEvidence} {intent : ScaleUpIntent}
    (h : r.expand intent = some e) : e.provisionalConfiguration.Canonical ∧ e.intent = intent ∧
      ScaleUpFailoverReceiptEvidence.fromEvidence e = some r := by
  unfold ScaleUpFailoverReceiptEvidence.expand at h
  split_ifs at h
  obtain ⟨number, -, rfl⟩ := Option.map_eq_some_iff.1 h
  refine ⟨⟨sortMembers_pairwise _, fun m hm => ?_⟩, rfl, rfl⟩
  obtain ⟨m', -, rfl⟩ := List.mem_map.1 ((sortMembers_perm _).mem_iff.1 hm)
  dsimp only
  split_ifs
  · exact Or.inl rfl
  · exact Or.inr rfl

/-- The evidence that an accepted receipt stands for is itself accepted. -/
theorem accepted_of_receipt {r : ScaleUpReceipt} {f : ScaleUpFailoverReceiptEvidence}
    (h : validateScaleUpReceipt r = .ok ()) (hf : r.failoverEvidence = some f) :
    ∃ e, f.expand r.intent = some e ∧ validateScaleUpFailoverEvidence e = .ok () := by
  simp only [validateScaleUpReceipt, seq_eq_ok, demand_bind_eq_ok] at h
  obtain ⟨-, primary, -, hauthority, -⟩ := h
  simp only [validateReceiptAuthority, hf, Option.isSome_some, if_true, validateFailoverReceipt,
    demand_bind_eq_ok, seq_eq_ok] at hauthority
  obtain ⟨e, hexpanded, -, -, htransition, -⟩ := hauthority
  simp only [ScaleUpReceipt.expandedFailoverEvidence, hf, Option.bind_some] at hexpanded
  simp only [validateScaleUpFailoverTransition, seq_eq_ok] at htransition
  exact ⟨e, hexpanded, htransition.1⟩

/-- Accepted evidence with a final election has a receipt, which expands to the evidence exactly when
the provisional configuration is canonical; and an accepted receipt stands for exactly one such
evidence. -/
theorem failoverReceipt_lossless_iff :
    (∀ e : ScaleUpFailoverEvidence, validateScaleUpFailoverEvidence e = .ok () →
      e.finalElection ≠ none → ∃ r, ScaleUpFailoverReceiptEvidence.fromEvidence e = some r ∧
        (r.expand e.intent = some e ↔ e.provisionalConfiguration.Canonical)) ∧
    ∀ r : ScaleUpReceipt, validateScaleUpReceipt r = .ok () → ∀ f ∈ r.failoverEvidence,
      ∃! e : ScaleUpFailoverEvidence, validateScaleUpFailoverEvidence e = .ok () ∧
        e.provisionalConfiguration.Canonical ∧ e.intent = r.intent ∧
        ScaleUpFailoverReceiptEvidence.fromEvidence e = some f := by
  constructor
  · intro e h hfinal
    obtain ⟨f, hf⟩ := Option.ne_none_iff_exists'.1 hfinal
    obtain ⟨r, hr⟩ : ∃ r, ScaleUpFailoverReceiptEvidence.fromEvidence e = some r :=
      ⟨_, by rw [ScaleUpFailoverReceiptEvidence.fromEvidence, hf, Option.map_some]⟩
    exact ⟨r, hr, (ScaleUpFailoverEvidence.Accepted.of_validate h).expand_eq_iff hr⟩
  · intro r h f hf
    obtain ⟨e, hexpand, haccepted⟩ := accepted_of_receipt h hf
    refine ⟨e, ⟨haccepted, canonical_of_expand hexpand⟩, ?_⟩
    rintro e' ⟨haccepted', hcanonical, hintent, hreceipt⟩
    have hexpand' := ((ScaleUpFailoverEvidence.Accepted.of_validate haccepted').expand_eq_iff
      hreceipt).2 hcanonical
    rw [hintent, hexpand] at hexpand'
    exact (Option.some.inj hexpand').symm

end

/-! ## A demoted primary

The primary 2 of the increase fails over to replica 1, and the provisional configuration lists it as
an idle secondary. -/

namespace DemotedPrimary

open ThreeToFour

attribute [local instance] checksum

def provisional : ConfigurationDescriptor :=
  .new ⟨1, 3⟩ 1 [⟨identity 1, .primary⟩, ⟨identity 2, .idleSecondary⟩,
    ⟨identity 3, .activeSecondary⟩, ⟨identity 4, .activeSecondary⟩] 3

/-- A secondary that attests the expanded configuration. -/
def recoveryWitness (id : ReplicaId) : ScaleUpWitness where
  resourceUid := "uid"
  identity := identity id
  role := .activeSecondary
  processSessionId := "session"
  reportSequence := 1
  epoch := intent.currentConfiguration.epoch
  previousConfigurationId := none
  currentConfigurationId := intent.currentConfiguration.configurationId
  verifiedReplicationLsn := 7
  writeStatus := .notPrimary
  pendingOperationId := none
  retainedOperationId :=
    some (intent.commandOperationId .currentOnly (identity id) intent.currentConfiguration)

def finalWitness (id : ReplicaId) : ScaleUpFinalWitness where
  replicaId := id
  processSessionId := "session"
  reportSequence := 1
  currentProgress := 7
  committedLsn := 0
  deactivatedLsn := 7
  fenceOperationId := intent.commandOperationId .previousCurrent (identity id) provisional

def evidence : ScaleUpFailoverEvidence where
  intent := intent
  provisionalConfiguration := provisional
  previousReadQuorum := [recoveryWitness 1, recoveryWitness 4]
  currentReadQuorum := [recoveryWitness 1, recoveryWitness 3]
  finalElection := some ⟨1, [finalWitness 1, finalWitness 4], [1, 4], [1, 4]⟩

def receipt : ScaleUpFailoverReceiptEvidence :=
  ⟨1, evidence.previousReadQuorum, evidence.currentReadQuorum,
    ⟨1, [finalWitness 1, finalWitness 4], [1, 4], [1, 4]⟩⟩

/-- The evidence is accepted; its receipt expands to other evidence, which is refused. -/
theorem receipt_refused :
    validateScaleUpFailoverEvidence evidence = .ok () ∧
      ScaleUpFailoverReceiptEvidence.fromEvidence evidence = some receipt ∧
      receipt.expand evidence.intent ≠ some evidence ∧
      (receipt.expand evidence.intent).map validateScaleUpFailoverEvidence =
        some (.error (.invalidScaleUp "invalid exact final scale-up election witness")) := by
  exact ⟨by decide +kernel, rfl, by decide +kernel, by decide +kernel⟩

end DemotedPrimary

end Kuberic
