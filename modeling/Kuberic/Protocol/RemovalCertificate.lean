import Kuberic.Protocol.Validation.ScaleDown
import Mathlib.Data.Finset.Card

/-!
# What the certificate of a removal proves

The certificate of a secondary removal is a chain of witness lists over two configurations.  If the
validator accepts it, the reduced configuration is the previous one without its highest-id
secondary, each list of witnesses meets the quorums that could have committed or elected at its
stage, and the reports of one session grow from stage to stage.
-/

namespace Kuberic

open Check

/-! ## Quorums of a configuration -/

/-- Every set of at least `quorum` members of `c` contains one of the identities. -/
def ConfigurationDescriptor.MeetsAll (c : ConfigurationDescriptor) (quorum : Nat)
    (identities : List ReplicaIdentity) : Prop :=
  ∀ q : Finset ReplicaIdentity, (∀ i ∈ q, ∃ m ∈ c.members, m.identity = i) → quorum ≤ q.card →
    ∃ i ∈ identities, i ∈ q

/-- Distinct members meet every set of members that is too large to be disjoint from them. -/
theorem meetsAll_of_card {c : ConfigurationDescriptor} (hc : c.exactIdentities.Nodup)
    {identities : List ReplicaIdentity} (hnodup : identities.Nodup)
    (hsub : identities ⊆ c.exactIdentities) {quorum : Nat}
    (hcard : c.members.length < identities.length + quorum) : c.MeetsAll quorum identities := by
  intro q hq hquorum
  have hqsub : q ⊆ c.exactIdentities.toFinset := by
    intro i hi
    obtain ⟨m, hm, rfl⟩ := hq i hi
    exact List.mem_toFinset.2 (List.mem_map_of_mem hm)
  have hisub : identities.toFinset ⊆ c.exactIdentities.toFinset := by
    intro i hi
    exact List.mem_toFinset.2 (hsub (List.mem_toFinset.1 hi))
  have hlt : c.exactIdentities.toFinset.card < identities.toFinset.card + q.card := by
    rw [List.toFinset_card_of_nodup hc, List.toFinset_card_of_nodup hnodup,
      ConfigurationDescriptor.exactIdentities, List.length_map]
    omega
  obtain ⟨i, hi⟩ := Finset.inter_nonempty_of_card_lt_card_add_card hisub hqsub hlt
  rw [Finset.mem_inter] at hi
  exact ⟨i, List.mem_toFinset.1 hi.1, hi.2⟩

section

variable [Sha256]

/-! ## The intent of a removal -/

/-- What a valid intent says about its two configurations. -/
structure ValidRemoval (i : SecondaryScaleDownIntent) : Prop where
  previousPolicy : validatePolicy i.previousPolicy = .ok ()
  currentPolicy : validatePolicy i.currentPolicy = .ok ()
  previous : validateConfiguration i.previousConfiguration (some i.previousPolicy) = .ok ()
  current : validateConfiguration i.currentConfiguration (some i.currentPolicy) = .ok ()
  dataLossNumber : i.currentConfiguration.epoch.dataLossNumber =
    i.previousConfiguration.epoch.dataLossNumber
  configurationNumber : i.previousConfiguration.epoch.configurationNumber <
    i.currentConfiguration.epoch.configurationNumber
  length : i.previousConfiguration.members.length = i.currentConfiguration.members.length + 1
  primary : ∃ p, i.previousConfiguration.primaryMember? = some p ∧ i.primary = p.identity
  target : ∃ t, i.previousConfiguration.activeSecondaries.lastMax (·.identity.replicaId) = some t ∧
    i.target = t.identity
  primaryId : i.previousConfiguration.primaryId = i.currentConfiguration.primaryId
  retained : ∀ m ∈ i.previousConfiguration.members, m.identity ≠ i.target →
    m ∈ i.currentConfiguration.members
  excluded : ∀ m ∈ i.currentConfiguration.members, m.identity ≠ i.target

theorem ValidRemoval.of_validate {i : SecondaryScaleDownIntent}
    (h : validateSecondaryScaleDown i = .ok ()) : ValidRemoval i := by
  simp only [validateSecondaryScaleDown, seq_eq_ok, demand_bind_eq_ok, rejectIf_eq_ok, not_or,
    not_lt, not_le, not_exists, not_and, not_not] at h
  obtain ⟨hpp, hcp, hprev, hcur, -, -, ⟨-, -, hdata⟩, hnum, ⟨-, hlen⟩, t, ht,
    ⟨hprimary, htarget, hid, -, hretained, hexcluded⟩, -⟩ := h
  push Not at hprimary
  obtain ⟨p, hp, hpi⟩ := hprimary
  exact ⟨hpp, hcp, hprev, hcur, hdata, hnum, hlen, ⟨p, hp, hpi⟩, ⟨t, ht, htarget⟩, hid, hretained,
    hexcluded⟩

namespace ValidRemoval

variable {i : SecondaryScaleDownIntent}

theorem members_perm (h : ValidRemoval i) : i.currentConfiguration.members.Perm
    (i.previousConfiguration.members.filter fun m => m.identity ≠ i.target) := by
  have hprev := (validateConfiguration_some_eq_ok.1 h.previous).1
  have hcur := (validateConfiguration_some_eq_ok.1 h.current).1
  obtain ⟨t, ht, htarget⟩ := h.target
  have htmem : t ∈ i.previousConfiguration.members :=
    (List.mem_filter.1 (List.mem_of_lastMax ht)).1
  -- The kept members are all in the reduced membership and there are as many of them.
  have hkept : (i.previousConfiguration.members.filter fun m => m.identity ≠ i.target) =
      i.previousConfiguration.members.erase t := by
    rw [hprev.nodup_members.erase_eq_filter]
    refine List.filter_congr fun m hm => ?_
    by_cases hmt : m = t
    · simp [hmt, htarget]
    · have hne : m.identity ≠ i.target := by
        intro heq
        exact hmt (hprev.member_unique hm htmem (by rw [heq, htarget]))
      simp [hne, hmt]
  have hsub : (i.previousConfiguration.members.filter fun m => m.identity ≠ i.target) ⊆
      i.currentConfiguration.members := by
    intro m hm
    rw [List.mem_filter, decide_eq_true_eq] at hm
    exact h.retained m hm.1 hm.2
  have hnodup : (i.previousConfiguration.members.filter fun m => m.identity ≠ i.target).Nodup :=
    hprev.nodup_members.filter _
  have hlen : i.currentConfiguration.members.length ≤
      (i.previousConfiguration.members.filter fun m => m.identity ≠ i.target).length := by
    rw [hkept, List.length_erase_of_mem htmem, h.length]
    omega
  exact ((hnodup.subperm hsub).perm_of_length_le hlen).symm

theorem target_highest (h : ValidRemoval i) : ∃ t ∈ i.previousConfiguration.members,
    t.identity = i.target ∧ t.role = .activeSecondary ∧
      ∀ m ∈ i.previousConfiguration.members, m.role = .activeSecondary →
        m.identity.replicaId ≤ t.identity.replicaId := by
  obtain ⟨t, ht, htarget⟩ := h.target
  have htmem := List.mem_filter.1 (List.mem_of_lastMax ht)
  refine ⟨t, htmem.1, htarget.symm, by simpa using htmem.2, ?_⟩
  intro m hm hrole
  exact List.key_le_lastMax ht (List.mem_filter.2 ⟨hm, by simpa using hrole⟩)

theorem primary_kept (h : ValidRemoval i) : ∃ p, p ∈ i.previousConfiguration.members ∧
    p ∈ i.currentConfiguration.members ∧ p.identity = i.primary ∧ p.role = .primary ∧
      p.identity.replicaId = i.previousConfiguration.primaryId := by
  obtain ⟨p, hp, hpi⟩ := h.primary
  obtain ⟨t, ht, htarget⟩ := h.target
  have hprev := (validateConfiguration_some_eq_ok.1 h.previous).1
  have hpmem : p ∈ i.previousConfiguration.members := List.mem_of_find?_eq_some hp
  have hprole : p.role = .primary := by simpa using List.find?_some hp
  have htmem := List.mem_filter.1 (List.mem_of_lastMax ht)
  have hne : p.identity ≠ i.target := by
    intro heq
    have hpt : p = t := hprev.member_unique hpmem htmem.1 (by rw [heq, htarget])
    have htrole : t.role = .activeSecondary := by simpa using htmem.2
    rw [← hpt, hprole] at htrole
    cases htrole
  obtain ⟨q, hq, hqid⟩ := hprev.single_primary
  have hpq : p ∈ i.previousConfiguration.members.filter (fun m => m.role = .primary) :=
    List.mem_filter.2 ⟨hpmem, by simpa using hprole⟩
  rw [hq, List.mem_singleton] at hpq
  exact ⟨p, hpmem, h.retained p hpmem hne, hpi.symm, hprole, hpq ▸ hqid⟩

theorem identities_subset (h : ValidRemoval i) :
    i.currentConfiguration.exactIdentities ⊆ i.previousConfiguration.exactIdentities := by
  intro j hj
  obtain ⟨m, hm, rfl⟩ := List.mem_map.1 hj
  have hmem := (List.mem_filter.1 (h.members_perm.mem_iff.1 hm)).1
  exact List.mem_map_of_mem hmem

theorem epoch_lt (h : ValidRemoval i) :
    i.previousConfiguration.epoch < i.currentConfiguration.epoch :=
  Epoch.lt_iff.2 (Or.inr ⟨h.dataLossNumber.symm, h.configurationNumber⟩)

end ValidRemoval

/-! ## Witnesses -/

/-- What the witnesses of a stage establish. -/
structure RemovalWitnesses (p : SecondaryRemovalPreparation) (stage : SecondaryRemovalStage)
    (witnesses : List SecondaryRemovalWitness) : Prop where
  nodup : (witnesses.map (·.identity)).Nodup
  member : ∀ w ∈ witnesses, ∃ m ∈ p.intent.currentConfiguration.members,
    m.identity = w.identity ∧ m.role = w.role
  verified : stage ≠ .prepare → ∀ w ∈ witnesses, p.boundaryLsn ≤ w.verifiedReplicationLsn
  quorum : p.quorumAt stage ≤ witnesses.length
  primary : stage ≠ .prepare → ∃ w ∈ witnesses, w.identity = p.intent.primary

theorem RemovalWitnesses.of_validate {p : SecondaryRemovalPreparation}
    {stage : SecondaryRemovalStage} {witnesses : List SecondaryRemovalWitness}
    (h : validateRemovalWitnesses p stage witnesses = .ok ()) :
    RemovalWitnesses p stage witnesses := by
  simp only [validateRemovalWitnesses, seq_eq_ok, rejectIf_eq_ok, not_or, not_lt, not_and,
    not_not] at h
  obtain ⟨hloop, hquorum, hprimary⟩ := h
  have hwitness : ∀ seen w, validateRemovalWitness p stage seen w = .ok () →
      w.identity ∉ seen ∧ (∃ m ∈ p.intent.currentConfiguration.members,
        m.identity = w.identity ∧ m.role = w.role) ∧
      (stage ≠ .prepare → p.boundaryLsn ≤ w.verifiedReplicationLsn) := by
    intro seen w hw
    simp only [validateRemovalWitness, seq_eq_ok, rejectIf_eq_ok, not_or, not_lt, not_and,
      not_not] at hw
    obtain ⟨⟨-, -, -, hmember, hfresh, -, -, -, -, hverified, -⟩, -⟩ := hw
    exact ⟨hfresh, hmember, hverified⟩
  have hnodup : (witnesses.map (·.identity)).Nodup :=
    (nodup_of_eachAfter (fun seen w hw => (hwitness seen w hw).1) hloop).1
  rw [hnodup.dedup] at hquorum hprimary
  refine ⟨hnodup, ?_, ?_, by simpa using hquorum, ?_⟩
  · intro w hw
    obtain ⟨seen, hok⟩ := of_eachAfter hloop w hw
    exact (hwitness seen w hok).2.1
  · intro hstage w hw
    obtain ⟨seen, hok⟩ := of_eachAfter hloop w hw
    exact (hwitness seen w hok).2.2 hstage
  · intro hstage
    obtain ⟨w, hw, heq⟩ := List.mem_map.1 (hprimary hstage)
    exact ⟨w, hw, heq⟩

namespace RemovalWitnesses

variable {p : SecondaryRemovalPreparation} {stage : SecondaryRemovalStage}
  {witnesses : List SecondaryRemovalWitness}

omit [Sha256] in
theorem subset_current (h : RemovalWitnesses p stage witnesses) :
    witnesses.map (·.identity) ⊆ p.intent.currentConfiguration.exactIdentities := by
  intro j hj
  obtain ⟨w, hw, rfl⟩ := List.mem_map.1 hj
  obtain ⟨m, hm, hid, -⟩ := h.member w hw
  exact List.mem_map.2 ⟨m, hm, hid⟩

/-- The witnesses of the preparation meet every write quorum of the previous configuration. -/
theorem meets_previous_write (h : RemovalWitnesses p .prepare witnesses)
    (hi : ValidRemoval p.intent) : p.intent.previousConfiguration.MeetsAll
      p.intent.previousConfiguration.writeQuorum (witnesses.map (·.identity)) := by
  obtain ⟨hvalid, hsize, hwrite⟩ := validateConfiguration_some_eq_ok.1 hi.previous
  obtain ⟨-, hw, hr⟩ := validatePolicy_eq_ok.1 hi.previousPolicy
  have hquorum : p.intent.previousPolicy.readQuorum ≤ witnesses.length := h.quorum
  refine meetsAll_of_card hvalid.nodup_exactIdentities h.nodup
    (fun j hj => hi.identities_subset (h.subset_current hj)) ?_
  rw [List.length_map]
  omega

/-- The witnesses of a later stage meet the quorums of the reduced configuration. -/
theorem meets_current (h : RemovalWitnesses p stage witnesses) (hstage : stage ≠ .prepare)
    (hi : ValidRemoval p.intent) :
    p.intent.currentConfiguration.MeetsAll p.intent.currentPolicy.readQuorum
        (witnesses.map (·.identity)) ∧
      p.intent.currentConfiguration.MeetsAll p.intent.currentConfiguration.writeQuorum
        (witnesses.map (·.identity)) := by
  obtain ⟨hvalid, hsize, hwrite⟩ := validateConfiguration_some_eq_ok.1 hi.current
  obtain ⟨hpos, hw, hr⟩ := validatePolicy_eq_ok.1 hi.currentPolicy
  have hquorum : p.intent.currentPolicy.writeQuorum ≤ witnesses.length := by
    simpa [SecondaryRemovalPreparation.quorumAt, hstage] using h.quorum
  have hmeets : ∀ quorum, p.intent.currentConfiguration.members.length <
      witnesses.length + quorum → p.intent.currentConfiguration.MeetsAll quorum
        (witnesses.map (·.identity)) := by
    intro quorum hlt
    exact meetsAll_of_card hvalid.nodup_exactIdentities h.nodup h.subset_current
      (by rwa [List.length_map])
  exact ⟨hmeets _ (by omega), hmeets _ (by omega)⟩

end RemovalWitnesses

/-! ## The certificate -/

/-- Distinct members of the reduced configuration, the primary among them, that hold the prepared
boundary and meet its read and write quorums. -/
structure ReducedQuorum (p : SecondaryRemovalPreparation)
    (witnesses : List SecondaryRemovalWitness) : Prop where
  distinct : (witnesses.map (·.identity)).Nodup
  members : ∀ w ∈ witnesses, ∃ m ∈ p.intent.currentConfiguration.members, m.identity = w.identity
  primary : ∃ w ∈ witnesses, w.identity = p.intent.primary
  verified : ∀ w ∈ witnesses, p.boundaryLsn ≤ w.verifiedReplicationLsn
  meetsRead : p.intent.currentConfiguration.MeetsAll p.intent.currentPolicy.readQuorum
    (witnesses.map (·.identity))
  meetsWrite : p.intent.currentConfiguration.MeetsAll p.intent.currentConfiguration.writeQuorum
    (witnesses.map (·.identity))

theorem ReducedQuorum.of_witnesses {p : SecondaryRemovalPreparation}
    {stage : SecondaryRemovalStage} {witnesses : List SecondaryRemovalWitness}
    (h : RemovalWitnesses p stage witnesses) (hstage : stage ≠ .prepare)
    (hi : ValidRemoval p.intent) : ReducedQuorum p witnesses where
  distinct := h.nodup
  members := by
    intro w hw
    obtain ⟨m, hm, hid, -⟩ := h.member w hw
    exact ⟨m, hm, hid⟩
  primary := h.primary hstage
  verified := h.verified hstage
  meetsRead := (h.meets_current hstage hi).1
  meetsWrite := (h.meets_current hstage hi).2

/-- The reports of `later` are newer than those of `earlier` in the same session of a replica. -/
def Fresher (earlier later : List SecondaryRemovalWitness) : Prop :=
  ∀ v ∈ earlier, ∀ w ∈ later, v.identity = w.identity → v.processSessionId = w.processSessionId →
    v.reportSequence < w.reportSequence

omit [Sha256] in
theorem fresher_of_not_notFresh {earlier later : List SecondaryRemovalWitness}
    (h : ∀ w ∈ later, ¬∃ v ∈ earlier, w.NotFresh v) : Fresher earlier later := by
  intro v hv w hw hid hsession
  by_contra hle
  exact h w hw ⟨v, hv, hid, hsession, Nat.le_of_not_lt hle⟩

/-- A removal certificate proves a safe reduction: it takes out the highest-id secondary and nothing
else, its witnesses meet the quorums of both configurations, and they are newer from stage to
stage. -/
theorem removalCertificate_safe {c : SecondaryScaleDownCleanup}
    (h : validateSecondaryScaleDownCleanup c = .ok ()) :
    let p := c.evidence.preparation
    let previous := p.intent.previousConfiguration
    let current := p.intent.currentConfiguration
    (∃ t ∈ previous.members, t.identity = p.intent.target ∧ t.role = .activeSecondary ∧
      (∀ m ∈ previous.members, m.role = .activeSecondary →
        m.identity.replicaId ≤ t.identity.replicaId) ∧
      current.members.Perm (previous.members.erase t)) ∧
    (∃ q, q ∈ previous.members ∧ q ∈ current.members ∧ q.identity = p.intent.primary ∧
      q.role = .primary ∧ previous.primaryId = q.identity.replicaId ∧
      current.primaryId = q.identity.replicaId) ∧
    previous.epoch < current.epoch ∧
    previous.MeetsAll previous.writeQuorum (c.evidence.previousReadQuorum.map (·.identity)) ∧
    ReducedQuorum p c.evidence.reducedWriteQuorum ∧ ReducedQuorum p c.currentOnlyWriteQuorum ∧
    Fresher c.evidence.previousReadQuorum c.evidence.reducedWriteQuorum ∧
    Fresher c.evidence.previousReadQuorum c.currentOnlyWriteQuorum ∧
    Fresher c.evidence.reducedWriteQuorum c.currentOnlyWriteQuorum := by
  simp only [validateSecondaryScaleDownCleanup, validateSecondaryRemovalEvidence,
    validateSecondaryRemovalPreparation, true_or, if_true, seq_eq_ok, each_eq_ok,
    rejectIf_eq_ok] at h
  obtain ⟨⟨⟨hintent, -⟩, hprevious, hreduced, hreducedFresh⟩, hcurrent, hcurrentFresh, -⟩ := h
  have hi := ValidRemoval.of_validate hintent
  have hreduced' := RemovalWitnesses.of_validate hreduced
  have hcurrent' := RemovalWitnesses.of_validate hcurrent
  dsimp only
  refine ⟨?_, ?_, hi.epoch_lt, (RemovalWitnesses.of_validate hprevious).meets_previous_write hi,
    .of_witnesses hreduced' (by decide) hi, .of_witnesses hcurrent' (by decide) hi, ?_, ?_, ?_⟩
  · obtain ⟨t, htmem, htid, htrole, htmax⟩ := hi.target_highest
    refine ⟨t, htmem, htid, htrole, htmax, ?_⟩
    have hprev := (validateConfiguration_some_eq_ok.1 hi.previous).1
    refine hi.members_perm.trans (List.Perm.of_eq ?_)
    rw [hprev.nodup_members.erase_eq_filter]
    refine List.filter_congr fun m hm => ?_
    have hiff : m.identity = c.evidence.preparation.intent.target ↔ m = t :=
      ⟨fun heq => hprev.member_unique hm htmem (by rw [heq, htid]), fun heq => heq ▸ htid⟩
    rw [Bool.eq_iff_iff]
    simp [hiff]
  · obtain ⟨q, hqp, hqc, hqid, hqrole, hqprimary⟩ := hi.primary_kept
    exact ⟨q, hqp, hqc, hqid, hqrole, hqprimary.symm, hi.primaryId ▸ hqprimary.symm⟩
  · exact fresher_of_not_notFresh fun w hw hex => hreducedFresh w hw (Or.inl hex)
  · refine fresher_of_not_notFresh fun w hw hex => hcurrentFresh w hw ?_
    obtain ⟨v, hv, hnot⟩ := hex
    exact ⟨v, List.mem_append_left _ hv, hnot⟩
  · refine fresher_of_not_notFresh fun w hw hex => hcurrentFresh w hw ?_
    obtain ⟨v, hv, hnot⟩ := hex
    exact ⟨v, List.mem_append_right _ hv, hnot⟩

end

/-! ## A reduction that keeps the highest id

Replicas 1 and 2 are secondaries of the primary 3: the removal takes out replica 2. -/

namespace ThreeToTwo

attribute [local instance] checksum

def identity (id : ReplicaId) : ReplicaIdentity := ⟨id, "pod-" ++ toString id, "generation"⟩

def policy (size : Nat) : EffectivePolicy := ⟨size, size / 2 + 1, size - size / 2, 30⟩

def configuration (number : Int) (secondaries : List ReplicaId) : ConfigurationDescriptor :=
  .new ⟨1, number⟩ 3
    (secondaries.map (fun id => ⟨identity id, .activeSecondary⟩) ++ [⟨identity 3, .primary⟩])
    2

def intent : SecondaryScaleDownIntent :=
  let i : SecondaryScaleDownIntent :=
    { operationId := ""
      resourceUid := "uid"
      specGeneration := 1
      desiredReplicas := 2
      previousConfiguration := configuration 1 [1, 2]
      currentConfiguration := configuration 2 [1]
      previousPolicy := policy 3
      currentPolicy := policy 2
      primary := identity 3
      target := identity 2
      cleanup :=
        ⟨.absent "pod", .absent "pvc", .absent (deriveReplicaEndpointName "uid" (identity 2))⟩ }
  { i with operationId := i.expectedOperationId }

def preparation : SecondaryRemovalPreparation :=
  ⟨intent, intent.commandOperationId .prepare (identity 3), "session", 1, 7⟩

/-- The report of a replica at a stage, with the given sequence. -/
def witnessAt (stage : SecondaryRemovalStage) (sequence : Nat) (id : ReplicaId) :
    SecondaryRemovalWitness :=
  { resourceUid := "uid"
    identity := identity id
    role := if id = 3 then .primary else .activeSecondary
    processSessionId := "session"
    reportSequence := sequence
    epoch := (preparation.authorityAt stage).epoch
    previousConfigurationId :=
      if stage = .previousCurrent then some intent.previousConfiguration.configurationId else none
    currentConfigurationId := (preparation.authorityAt stage).configurationId
    verifiedReplicationLsn := 7
    writeStatus := .reconfigurationPending
    pendingOperationId := none
    retainedOperationId := some (intent.commandOperationId stage (identity id)) }

def cleanup : SecondaryScaleDownCleanup where
  evidence :=
    { preparation := preparation
      previousReadQuorum := [witnessAt .prepare 2 1, witnessAt .prepare 2 3]
      reducedWriteQuorum := [witnessAt .previousCurrent 3 1, witnessAt .previousCurrent 3 3] }
  currentOnlyWriteQuorum := [witnessAt .currentOnly 4 1, witnessAt .currentOnly 4 3]
  retirement := none

theorem validate_cleanup : validateSecondaryScaleDownCleanup cleanup = .ok () := by decide +kernel

/-- The certificate is accepted, and the highest-id member of the previous configuration is its
primary, which stays. -/
theorem highest_member_retained :
    validateSecondaryScaleDownCleanup cleanup = .ok () ∧
      ∃ m ∈ intent.previousConfiguration.members,
        (∀ n ∈ intent.previousConfiguration.members,
          n.identity.replicaId ≤ m.identity.replicaId) ∧
        m.role = .primary ∧ m ∈ intent.currentConfiguration.members :=
  ⟨validate_cleanup, by decide +kernel⟩

theorem removalCertificate_safe_three_to_two :
    intent.previousConfiguration.epoch < intent.currentConfiguration.epoch ∧
      ReducedQuorum preparation cleanup.currentOnlyWriteQuorum := by
  obtain ⟨-, -, hepoch, -, -, hcurrent, -⟩ := removalCertificate_safe validate_cleanup
  exact ⟨hepoch, hcurrent⟩

end ThreeToTwo

end Kuberic
