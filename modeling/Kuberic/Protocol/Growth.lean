import Kuberic.Protocol.Validation.ScaleUp
import Mathlib.Data.Finset.Card
import Mathlib.Order.Bounds.Basic

/-!
# What a valid membership increase keeps

An accepted intent adds one active secondary to the previous members and changes nothing else.  Its
two configurations have consecutive sizes, so that the write quorums of both intersect, and what
reads a quorum of each sees every write of either.
-/

namespace Kuberic

open Check

/-! ## Quorums across two configurations -/

/-- The set contains at least `n` members of the configuration. -/
def ConfigurationDescriptor.Holds (c : ConfigurationDescriptor) (n : Nat)
    (s : Finset ReplicaIdentity) : Prop :=
  n ≤ (s ∩ c.exactIdentities.toFinset).card

theorem ConfigurationDescriptor.Holds.inter_nonempty {c d : ConfigurationDescriptor} {n m : Nat}
    {q r : Finset ReplicaIdentity} (hq : c.Holds n q) (hr : d.Holds m r)
    (hsub : c.exactIdentities ⊆ d.exactIdentities) (hlt : d.members.length < n + m) :
    (q ∩ r).Nonempty := by
  have hsub' : q ∩ c.exactIdentities.toFinset ⊆ d.exactIdentities.toFinset := by
    intro i hi
    exact List.mem_toFinset.2 (hsub (List.mem_toFinset.1 (Finset.mem_inter.1 hi).2))
  have hcard : d.exactIdentities.toFinset.card ≤ d.members.length := by
    refine (List.toFinset_card_le _).trans_eq ?_
    rw [ConfigurationDescriptor.exactIdentities, List.length_map]
  have hq' : n ≤ (q ∩ c.exactIdentities.toFinset).card := hq
  have hr' : m ≤ (r ∩ d.exactIdentities.toFinset).card := hr
  obtain ⟨i, hi⟩ := Finset.inter_nonempty_of_card_lt_card_add_card hsub' Finset.inter_subset_right
    (show _ < _ + (r ∩ d.exactIdentities.toFinset).card by omega)
  simp only [Finset.mem_inter] at hi
  exact ⟨i, Finset.mem_inter.2 ⟨hi.1.1, hi.2.1⟩⟩

/-! ## The added member -/

theorem isLeast_of_firstMissingId {size : Nat} {used : List ReplicaId} {id : ReplicaId}
    (h : firstMissingId size used = some id) : IsLeast {id : Int | 0 < id ∧ id ∉ used} id := by
  simp only [firstMissingId, bind_pure_comp, List.map_eq_map, List.map_map] at h
  obtain ⟨hid, k, hk, hget, hbefore⟩ := List.find?_eq_some_iff_getElem.1 h
  simp only [List.getElem_map, List.getElem_range, Function.comp_apply] at hget hbefore
  change (k : Int) + 1 = id at hget
  refine ⟨⟨by omega, by simpa using hid⟩, ?_⟩
  rintro other ⟨hpos, hother⟩
  by_contra hlt
  -- An unused id below the found one would have been found first.
  have hused := hbefore (other - 1).toNat (by omega)
  have hcast : ((other - 1).toNat : Int) + 1 = other := by omega
  rw [hcast] at hused
  simp [hother] at hused

section

variable [Sha256]

/-- What a valid intent says about its two configurations. -/
structure ValidIncrease (i : ScaleUpIntent) : Prop where
  previousPolicy : validatePolicy i.previousPolicy = .ok ()
  currentPolicy : validatePolicy i.currentPolicy = .ok ()
  previous : validateConfiguration i.previousConfiguration (some i.previousPolicy) = .ok ()
  current : validateConfiguration i.currentConfiguration (some i.currentPolicy) = .ok ()
  size : i.currentPolicy.replicaSetSize = i.previousPolicy.replicaSetSize + 1
  length : i.previousConfiguration.members.length + 1 = i.currentConfiguration.members.length
  epoch : i.currentConfiguration.epoch = ⟨i.previousConfiguration.epoch.dataLossNumber,
    i.previousConfiguration.epoch.configurationNumber + 1⟩
  primaryId : i.currentConfiguration.primaryId = i.previousConfiguration.primaryId
  added : i.previousConfiguration.addedMembers i.currentConfiguration =
    [⟨i.target, .activeSecondary⟩]
  target : IsLeast {id : Int | 0 < id ∧ id ∉ i.previousConfiguration.replicaIds} i.target.replicaId
  retained : ∀ m ∈ i.previousConfiguration.members, m ∈ i.currentConfiguration.members

namespace ValidIncrease

omit [Sha256] in
theorem eq_of_checkedAddOne {n m : Int}
    (h : ¬∀ next ∈ checkedAddOne n, m ≠ next) : m = n + 1 := by
  push Not at h
  obtain ⟨next, hnext, rfl⟩ := h
  unfold checkedAddOne at hnext
  split at hnext
  · cases hnext
    rfl
  · cases hnext

theorem of_validate {i : ScaleUpIntent} (h : validateScaleUp i = .ok ()) : ValidIncrease i := by
  simp only [validateScaleUp, seq_eq_ok, rejectIf_eq_ok, not_or, not_lt, not_not] at h
  obtain ⟨hpp, hcp, hprev, hcur, -, ⟨-, hsize, -, -, hlen⟩, ⟨-, -, hdata⟩, hnum,
    -, hid, hadded, hmissing, hretained⟩ := h
  push Not at hretained
  refine ⟨hpp, hcp, hprev, hcur, hsize, hlen, ?_, hid.symm, hadded,
    isLeast_of_firstMissingId hmissing, hretained⟩
  rw [← hdata, ← eq_of_checkedAddOne hnum]

variable {i : ScaleUpIntent}

theorem target_mem (h : ValidIncrease i) :
    (⟨i.target, .activeSecondary⟩ : ConfigurationMember) ∈ i.currentConfiguration.members := by
  have hmem : (⟨i.target, .activeSecondary⟩ : ConfigurationMember) ∈
      i.previousConfiguration.addedMembers i.currentConfiguration := by
    rw [h.added]
    exact List.mem_singleton_self _
  exact (List.mem_filter.1 hmem).1

theorem target_not_mem (h : ValidIncrease i) {role : ReplicaRole} :
    (⟨i.target, role⟩ : ConfigurationMember) ∉ i.previousConfiguration.members := by
  intro hmem
  exact h.target.1.2 (List.mem_map.2 ⟨_, hmem, rfl⟩)

theorem members_perm (h : ValidIncrease i) : i.currentConfiguration.members.Perm
    (⟨i.target, .activeSecondary⟩ :: i.previousConfiguration.members) := by
  have hnodup := (validateConfiguration_some_eq_ok.1 h.previous).1.nodup_members
  have hsub : (⟨i.target, .activeSecondary⟩ :: i.previousConfiguration.members) ⊆
      i.currentConfiguration.members :=
    List.cons_subset.2 ⟨h.target_mem, h.retained⟩
  have hsubperm := List.subperm_of_subset (hnodup.cons h.target_not_mem) hsub
  refine (hsubperm.perm_of_length_le ?_).symm
  rw [List.length_cons, h.length]

theorem identities_subset (h : ValidIncrease i) :
    i.previousConfiguration.exactIdentities ⊆ i.currentConfiguration.exactIdentities :=
  List.map_subset _ h.retained

theorem quorums (h : ValidIncrease i) :
    i.currentConfiguration.members.length <
        i.previousPolicy.writeQuorum + i.currentPolicy.writeQuorum ∧
      i.previousConfiguration.members.length <
        i.previousPolicy.readQuorum + i.previousPolicy.writeQuorum ∧
      i.currentConfiguration.members.length <
        i.currentPolicy.readQuorum + i.currentPolicy.writeQuorum := by
  obtain ⟨-, hwp, hrp⟩ := validatePolicy_eq_ok.1 h.previousPolicy
  obtain ⟨-, hwc, hrc⟩ := validatePolicy_eq_ok.1 h.currentPolicy
  obtain ⟨-, hp, -⟩ := validateConfiguration_some_eq_ok.1 h.previous
  obtain ⟨-, hc, -⟩ := validateConfiguration_some_eq_ok.1 h.current
  have hsize := h.size
  omega

end ValidIncrease

/-- Growth by one member: an accepted intent adds the lowest free id as an active secondary under
the next epoch and the same primary.  Write quorums of the two configurations meet, and a set that
holds a read quorum of each meets the write quorums of both. -/
theorem increase_keeps_quorum_intersection {i : ScaleUpIntent} (h : validateScaleUp i = .ok ()) :
    i.currentConfiguration.members.Perm
        (⟨i.target, .activeSecondary⟩ :: i.previousConfiguration.members) ∧
      IsLeast {id : Int | 0 < id ∧ ∀ m ∈ i.previousConfiguration.members,
        m.identity.replicaId ≠ id} i.target.replicaId ∧
      i.currentConfiguration.epoch = ⟨i.previousConfiguration.epoch.dataLossNumber,
        i.previousConfiguration.epoch.configurationNumber + 1⟩ ∧
      i.currentConfiguration.primaryId = i.previousConfiguration.primaryId ∧
      (∀ q r, i.previousConfiguration.Holds i.previousPolicy.writeQuorum q →
        i.currentConfiguration.Holds i.currentPolicy.writeQuorum r → (q ∩ r).Nonempty) ∧
      ∀ s, i.previousConfiguration.Holds i.previousPolicy.readQuorum s →
        i.currentConfiguration.Holds i.currentPolicy.readQuorum s →
          (∀ q, i.previousConfiguration.Holds i.previousPolicy.writeQuorum q → (s ∩ q).Nonempty) ∧
            ∀ q, i.currentConfiguration.Holds i.currentPolicy.writeQuorum q →
              (s ∩ q).Nonempty := by
  have hv := ValidIncrease.of_validate h
  obtain ⟨hww, hprevious, hcurrent⟩ := hv.quorums
  refine ⟨hv.members_perm, ?_, hv.epoch, hv.primaryId, ?_, ?_⟩
  · have heq : {id : Int | 0 < id ∧ ∀ m ∈ i.previousConfiguration.members,
        m.identity.replicaId ≠ id} = {id | 0 < id ∧ id ∉ i.previousConfiguration.replicaIds} := by
      ext id
      simp [ConfigurationDescriptor.replicaIds]
    rw [heq]
    exact hv.target
  · intro q r hq hr
    exact hq.inter_nonempty hr hv.identities_subset hww
  · intro s hsp hsc
    exact ⟨fun q hq => hsp.inter_nonempty hq (List.Subset.refl _) hprevious,
      fun q hq => hsc.inter_nonempty hq (List.Subset.refl _) hcurrent⟩

end

/-! ## Three replicas become four

Replicas 1 and 4 are secondaries of the primary 2: the increase adds replica 3. -/

namespace ThreeToFour

attribute [local instance] checksum

def identity (id : ReplicaId) : ReplicaIdentity :=
  ⟨id, "pod-" ++ toString id, deriveAgentGeneration
    (deriveInitializationId "uid" id ("pod-" ++ toString id) ("pvc-" ++ toString id))⟩

def configuration (number : Int) (secondaries : List ReplicaId) (writeQuorum : Nat) :
    ConfigurationDescriptor :=
  .new ⟨1, number⟩ 2
    (secondaries.map (fun id => ⟨identity id, .activeSecondary⟩) ++ [⟨identity 2, .primary⟩])
    writeQuorum

def provisioning : ProvisioningIntent :=
  let p : ProvisioningIntent :=
    { purpose := ⟨.scaleUp, none, some
        ⟨"uid", 1, 4, configuration 1 [1, 4] 2, ⟨3, 2, 2, 30⟩, ⟨4, 3, 2, 30⟩, 3⟩⟩
      podUid := "pod-3"
      pvcUid := "pvc-3"
      operationId := "" }
  { p with operationId := p.expectedOperationId }

def intent : ScaleUpIntent :=
  let i : ScaleUpIntent :=
    { operationId := ""
      resourceUid := "uid"
      specGeneration := 1
      desiredReplicas := 4
      previousConfiguration := configuration 1 [1, 4] 2
      currentConfiguration := configuration 2 [1, 3, 4] 3
      previousPolicy := ⟨3, 2, 2, 30⟩
      currentPolicy := ⟨4, 3, 2, 30⟩
      primary := identity 2
      target := identity 3
      buildId := (provisioning.scaleUpBuildId "uid").getD ""
      snapshotBoundaryLsn := 5
      catchUpBoundaryLsn := 7 }
  { i with operationId := i.expectedOperationId }

/-- The increase is accepted, and its target takes the gap below the highest id. -/
theorem increase_three_to_four : validateScaleUp intent = .ok () ∧
    IsLeast {id : Int | 0 < id ∧ ∀ m ∈ intent.previousConfiguration.members,
      m.identity.replicaId ≠ id} 3 := by
  have h : validateScaleUp intent = .ok () := by decide +kernel
  exact ⟨h, (increase_keeps_quorum_intersection h).2.1⟩

end ThreeToFour

end Kuberic
