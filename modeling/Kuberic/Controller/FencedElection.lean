import Kuberic.Controller.ScaleUpRun
import Kuberic.Protocol.FailoverReceipt

/-!
# What the final election of a failed-over increase keeps

The election that ends the failover of an increase counts fenced witnesses of a read quorum of both
configurations.  It selects the longest certified prefix among the counted members of the expanded
configuration, the failed primary excepted.  A prefix that a write quorum holds may be certified only
by a witness that is counted and not compared: the failed primary itself, or a witness that is
counted for the previous configuration alone.  The election keeps every such prefix exactly when, in
both configurations, the members that may hold more than the selected primary are fewer than a write
quorum.
-/

namespace Kuberic

open Check

/-- How many members of the configuration hold the prefix. -/
def ConfigurationDescriptor.holding (c : ConfigurationDescriptor) (progress : ReplicaId → Int)
    (lsn : Int) : Nat :=
  c.members.countP fun m => lsn ≤ progress m.identity.replicaId

namespace ScaleUpFinalElectionEvidence

/-! ## Progress that the witnesses allow -/

section

variable (f : ScaleUpFinalElectionEvidence)

/-- Each counted witness holds exactly what it certifies. -/
def Certified (progress : ReplicaId → Int) : Prop :=
  ∀ id ∈ f.previousReadQuorum ++ f.currentReadQuorum, ∀ w ∈ f.witness id, progress id = w.safeLsn

/-- The replica may hold the prefix: no witness certifies less. -/
def allows (lsn : Int) (id : ReplicaId) : Bool := (f.witness id).all fun w => lsn ≤ w.safeLsn

/-- How many members of the configuration may hold the prefix. -/
def mayHold (c : ConfigurationDescriptor) (lsn : Int) : Nat :=
  c.members.countP fun m => f.allows lsn m.identity.replicaId

/-- Every witness is counted for one of the two quorums. -/
def AllCounted : Prop :=
  ∀ id, ∀ w ∈ f.witness id, id ∈ f.previousReadQuorum ++ f.currentReadQuorum

/-- The progress under which the members without a witness hold the prefix. -/
def greatest (lsn : Int) (id : ReplicaId) : Int := ((f.witness id).map (·.safeLsn)).getD lsn

end

variable {f : ScaleUpFinalElectionEvidence} {c : ConfigurationDescriptor}

theorem allows_eq_true {lsn : Int} {id : ReplicaId} :
    f.allows lsn id = true ↔ ∀ w ∈ f.witness id, lsn ≤ w.safeLsn := by
  simp [allows, Option.all_eq_true]

theorem mayHold_anti {lsn lsn' : Int} (h : lsn ≤ lsn') : f.mayHold c lsn' ≤ f.mayHold c lsn := by
  refine List.countP_mono_left fun m _ hm => ?_
  rw [allows_eq_true] at hm ⊢
  exact fun w hw => h.trans (hm w hw)

theorem holding_le_mayHold (hcounted : f.AllCounted) {progress : ReplicaId → Int}
    (h : f.Certified progress) (lsn : Int) : c.holding progress lsn ≤ f.mayHold c lsn := by
  refine List.countP_mono_left fun m _ hm => ?_
  rw [decide_eq_true_eq] at hm
  refine allows_eq_true.2 fun w hw => ?_
  exact h _ (hcounted _ w hw) w hw ▸ hm

theorem certified_greatest (lsn : Int) : f.Certified (f.greatest lsn) := by
  intro id _ w hw
  rw [greatest, Option.mem_def.1 hw, Option.map_some, Option.getD_some]

theorem holding_greatest (lsn : Int) : c.holding (f.greatest lsn) lsn = f.mayHold c lsn := by
  refine List.countP_congr fun m _ => ?_
  rw [decide_eq_true_eq, allows_eq_true, greatest]
  cases f.witness m.identity.replicaId <;> simp

/-- A quorum can hold a prefix above `safe` exactly when as many members may hold the next one. -/
theorem le_of_holding_iff (hcounted : f.AllCounted) {quorum : Nat} {safe : Int} :
    (∀ progress, f.Certified progress → ∀ lsn, quorum ≤ c.holding progress lsn → lsn ≤ safe) ↔
      f.mayHold c (safe + 1) < quorum := by
  constructor
  · intro h
    by_contra hle
    have hquorum : quorum ≤ c.holding (f.greatest (safe + 1)) (safe + 1) := by
      rw [holding_greatest]
      exact Nat.not_lt.1 hle
    have hsafe := h _ (certified_greatest _) _ hquorum
    omega
  · intro hlt progress hcertified lsn hquorum
    by_contra hsafe
    have hholding := holding_le_mayHold (c := c) hcounted hcertified lsn
    have hanti : f.mayHold c lsn ≤ f.mayHold c (safe + 1) := mayHold_anti (by omega)
    omega

end ScaleUpFinalElectionEvidence

/-! ## The two configurations of an increase -/

variable {f : ScaleUpFinalElectionEvidence}

namespace ScaleUpFailoverEvidence

/-- Every prefix that a write quorum of either configuration can hold is within the safe LSN of the
election. -/
def KeepsCommitted (e : ScaleUpFailoverEvidence) (f : ScaleUpFinalElectionEvidence) : Prop :=
  ∃ safe ∈ f.safeLsn, ∀ progress, f.Certified progress → ∀ lsn,
    (e.intent.currentPolicy.writeQuorum ≤ e.intent.currentConfiguration.holding progress lsn →
      lsn ≤ safe) ∧
    (e.intent.previousPolicy.writeQuorum ≤ e.intent.previousConfiguration.holding progress lsn →
      lsn ≤ safe)

/-- In both configurations, fewer members than a write quorum have no witness or one that certifies
more than the safe LSN of the election. -/
def Covered (e : ScaleUpFailoverEvidence) (f : ScaleUpFinalElectionEvidence) : Prop :=
  ∃ safe ∈ f.safeLsn,
    f.mayHold e.intent.currentConfiguration (safe + 1) < e.intent.currentPolicy.writeQuorum ∧
    f.mayHold e.intent.previousConfiguration (safe + 1) < e.intent.previousPolicy.writeQuorum

theorem keepsCommitted_iff_covered {e : ScaleUpFailoverEvidence} (hcounted : f.AllCounted) :
    e.KeepsCommitted f ↔ e.Covered f := by
  refine exists_congr fun safe => and_congr_right fun _ => ?_
  rw [← ScaleUpFinalElectionEvidence.le_of_holding_iff hcounted,
    ← ScaleUpFinalElectionEvidence.le_of_holding_iff hcounted]
  exact ⟨fun h => ⟨fun p hp lsn => (h p hp lsn).1, fun p hp lsn => (h p hp lsn).2⟩,
    fun h p hp lsn => ⟨h.1 p hp lsn, h.2 p hp lsn⟩⟩

end ScaleUpFailoverEvidence

/-! ## What an accepted election counts -/

/-- The counted members are distinct members with a witness, and a quorum. -/
structure ScaleUpFinalElectionEvidence.Counts (f : ScaleUpFinalElectionEvidence)
    (eligible : ConfigurationDescriptor) (counted : List ReplicaId) (quorum : Nat) : Prop where
  nodup : counted.Nodup
  mem : ∀ id ∈ counted, (∃ w, f.witness id = some w) ∧
    ∃ m ∈ eligible.members, m.identity.replicaId = id
  quorum_le : quorum ≤ counted.length

theorem ScaleUpFinalElectionEvidence.Counts.of_validate {eligible : ConfigurationDescriptor}
    {counted : List ReplicaId} {quorum : Nat} {primary : Option ReplicaIdentity}
    (h : validateFinalQuorum f eligible counted quorum primary = .ok ()) :
    f.Counts eligible counted quorum := by
  simp only [validateFinalQuorum, seq_eq_ok, rejectIf_eq_ok, not_or, not_lt] at h
  obtain ⟨heach, hquorum, -⟩ := h
  have hnodup : counted.Nodup := by
    have hkeys := (nodup_of_eachAfter (fun seen id hid => by simp_all) heach).1
    rwa [List.map_id] at hkeys
  refine ⟨hnodup, fun id hid => ?_, ?_⟩
  · obtain ⟨seen, hseen⟩ := of_eachAfter heach id hid
    simp only [rejectIf_eq_ok, not_or, not_not] at hseen
    exact ⟨Option.ne_none_iff_exists'.1 hseen.1, hseen.2.1⟩
  · rwa [hnodup.dedup] at hquorum

theorem ScaleUpFinalElectionEvidence.Counts.mayHold_lt {eligible c : ConfigurationDescriptor}
    {counted : List ReplicaId} {read write : Nat} (h : f.Counts eligible counted read)
    (hids : eligible.replicaIds ⊆ c.replicaIds) (hintersect : c.members.length < read + write)
    {safe : Int} (hsafe : ∀ w ∈ f.witnesses, w.safeLsn ≤ safe) :
    f.mayHold c (safe + 1) < write := by
  have hcounted : read ≤ c.members.countP fun m =>
      decide ¬f.allows (safe + 1) m.identity.replicaId = true := by
    refine h.quorum_le.trans ?_
    rw [List.countP_eq_length_filter, ← List.length_map (f := fun m : ConfigurationMember =>
      m.identity.replicaId)]
    refine (List.subperm_of_subset h.nodup fun id hid => ?_).length_le
    obtain ⟨⟨w, hw⟩, m, hm, hmid⟩ := h.mem id hid
    obtain ⟨m', hm', hid'⟩ := List.mem_map.1 (hids (List.mem_map.2 ⟨m, hm, hmid⟩))
    refine List.mem_map.2 ⟨m', List.mem_filter.2 ⟨hm', ?_⟩, hid'⟩
    have hle := hsafe w (List.mem_of_find?_eq_some hw)
    rw [decide_eq_true_eq, hid', allows_eq_true]
    intro hallows
    have := hallows w hw
    omega
  have hsplit := List.length_eq_countP_add_countP (l := c.members) fun m =>
    f.allows (safe + 1) m.identity.replicaId
  unfold mayHold
  omega

section

variable [Sha256] {e : ScaleUpFailoverEvidence} {f : ScaleUpFinalElectionEvidence}

/-- What accepted evidence says about its final election. -/
structure ScaleUpFailoverEvidence.Elected (e : ScaleUpFailoverEvidence)
    (f : ScaleUpFinalElectionEvidence) : Prop where
  safe : ∃ safe, f.safeLsn = some safe
  previous : f.Counts e.intent.previousConfiguration f.previousReadQuorum
    e.intent.previousPolicy.readQuorum
  current : f.Counts e.provisionalConfiguration f.currentReadQuorum
    e.intent.currentPolicy.readQuorum
  allCounted : f.AllCounted

theorem ScaleUpFailoverEvidence.Elected.of_validate
    (h : validateScaleUpFailoverEvidence e = .ok ()) (hf : e.finalElection = some f) :
    e.Elected f := by
  simp only [validateScaleUpFailoverEvidence, seq_eq_ok, onSome_eq_ok, hf, Option.mem_def,
    Option.some.injEq, forall_eq'] at h
  have hfinal : validateFinalElection e f = .ok () := h.2.2.2.2.2
  simp only [validateFinalElection, demand_bind_eq_ok, seq_eq_ok] at hfinal
  obtain ⟨final, -, safe, hsafe, -, -, primary, -, -, hprevious, hcurrent, hreferenced, -⟩ :=
    hfinal
  simp only [rejectIf_eq_ok, not_or, not_exists, not_and, not_not, List.mem_dedup] at hreferenced
  refine ⟨⟨safe, hsafe⟩, .of_validate hprevious, .of_validate hcurrent, fun id w hw => ?_⟩
  have hid : w.replicaId = id := by simpa using List.find?_some hw
  exact hid ▸ hreferenced.2 w (List.mem_of_find?_eq_some hw)

theorem ScaleUpFailoverEvidence.Elected.covered (h : e.Elected f) (haccepted : e.Accepted)
    (hsafe : ∀ w ∈ f.witnesses, ∀ safe ∈ f.safeLsn, w.safeLsn ≤ safe) : e.Covered f := by
  obtain ⟨safe, hf⟩ := h.safe
  obtain ⟨-, hprevious, hcurrent⟩ := haccepted.increase.quorums
  have hids : e.provisionalConfiguration.replicaIds ⊆ e.intent.currentConfiguration.replicaIds := by
    intro id hid
    obtain ⟨m, hm, rfl⟩ := List.mem_map.1 hid
    obtain ⟨m', hm', heq⟩ := List.mem_map.1 (haccepted.members.1 (List.mem_map_of_mem hm))
    exact List.mem_map.2 ⟨m', hm', by rw [heq]⟩
  exact ⟨safe, hf, h.current.mayHold_lt hids hcurrent fun w hw => hsafe w hw safe hf,
    h.previous.mayHold_lt (List.Subset.refl _) hprevious fun w hw => hsafe w hw safe hf⟩

end

namespace Controller.ScaleUp

/-! ## The election that the controller freezes -/

section

variable {status : AcceptedStatus}

theorem progressStatus_transition {s : ObservationSnapshot} {reason phase blocking : String}
    {target : Option ReplicaIdentity} {attempt : Option OperationId} :
    (progressStatus s status reason phase target attempt blocking).transition =
      status.transition := by
  simp only [progressStatus, waitingStatus, clearRuntimeConditions, AcceptedStatus.withCondition,
    AcceptedStatus.withoutCondition]

theorem unsafePlan_transition {st : AcceptedStatus} {reason : UnsafeReason}
    {config : EvaluationConfig} (h : st ∈ (unsafePlan status reason config).statuses) :
    st.transition = status.transition := by
  rw [List.mem_singleton.1 h]
  simp only [clearRuntimeConditions, AcceptedStatus.withCondition, AcceptedStatus.withoutCondition]

variable [Sha256]

/-- What `finalizeFencedFailover` persists keeps the transition or carries an accepted election. -/
theorem accepted_of_finalizeFencedFailover {s : ObservationSnapshot} {t : TransitionIntent}
    {intent : ScaleUpIntent} {config : EvaluationConfig} {plan : Plan}
    (h : finalizeFencedFailover s t intent config = some plan) (hstatus : status ∈ plan.statuses) :
    (plan.changes = [] ∧ status.transition = s.status.transition) ∨
      ∃ t' e f, status.transition = some t' ∧ t'.scaleUpFailover = some e ∧
        e.finalElection = some f ∧ validateScaleUpFailoverEvidence e = .ok () := by
  simp only [finalizeFencedFailover] at h
  split at h
  · split at h <;>
      (cases h; cases List.mem_singleton.1 hstatus; exact .inl ⟨rfl, progressStatus_transition⟩)
  split at h
  · cases h
    cases List.mem_singleton.1 hstatus
    exact .inl ⟨rfl, progressStatus_transition⟩
  split at h
  · cases h
    cases List.mem_singleton.1 hstatus
    exact .inl ⟨rfl, progressStatus_transition⟩
  split at h
  · cases h
    exact .inl ⟨rfl, unsafePlan_transition hstatus⟩
  obtain ⟨carried, -, h⟩ := Option.bind_eq_some_iff.mp h
  split at h
  · cases h
    exact .inl ⟨rfl, unsafePlan_transition hstatus⟩
  · rename_i haccepted
    cases h
    cases List.mem_singleton.1 hstatus
    exact .inr ⟨_, _, _, progressStatus_transition, rfl, rfl, haccepted⟩

/-- An accepted final election keeps every prefix that a write quorum can hold exactly when it is
covered, and it is covered when no witness certifies more than the selected one.  The controller
freezes accepted elections only. -/
theorem finalElection_keepsCommitted_iff :
    (∀ (e : ScaleUpFailoverEvidence) (f : ScaleUpFinalElectionEvidence),
      validateScaleUpFailoverEvidence e = .ok () → e.finalElection = some f →
      (e.KeepsCommitted f ↔ e.Covered f) ∧
        ((∀ w ∈ f.witnesses, ∀ safe ∈ f.safeLsn, w.safeLsn ≤ safe) → e.Covered f)) ∧
    ∀ (s : ObservationSnapshot) (t : TransitionIntent) (intent : ScaleUpIntent)
      (config : EvaluationConfig) (plan : Plan) (status : AcceptedStatus),
      finalizeFencedFailover s t intent config = some plan → status ∈ plan.statuses →
      (plan.changes = [] ∧ status.transition = s.status.transition) ∨
        ∃ t' e f, status.transition = some t' ∧ t'.scaleUpFailover = some e ∧
          e.finalElection = some f ∧ validateScaleUpFailoverEvidence e = .ok () ∧
          (e.KeepsCommitted f ↔ e.Covered f) := by
  have hiff {e : ScaleUpFailoverEvidence} {f : ScaleUpFinalElectionEvidence}
      (h : validateScaleUpFailoverEvidence e = .ok ()) (hf : e.finalElection = some f) :
      e.KeepsCommitted f ↔ e.Covered f :=
    ScaleUpFailoverEvidence.keepsCommitted_iff_covered
      (ScaleUpFailoverEvidence.Elected.of_validate h hf).allCounted
  constructor
  · intro e f h hf
    exact ⟨hiff h hf, (ScaleUpFailoverEvidence.Elected.of_validate h hf).covered (.of_validate h)⟩
  · intro s t intent config plan status h hstatus
    refine (accepted_of_finalizeFencedFailover h hstatus).imp_right ?_
    rintro ⟨t', e, f, ht', he, hf, haccepted⟩
    exact ⟨t', e, f, ht', he, hf, haccepted, hiff haccepted hf⟩

end

/-! ## The failed primary returns

Replica 2 fails as the primary of an increase, and returns fenced with a longer prefix than replica 1,
the only other member that reports. -/

namespace ReturnedPrimary

attribute [local instance] checksum

open ThreeToFour
open FourthReplica hiding failover observed evidence

def failover : TransitionIntent := failoverTransition expansion intent (FourthReplica.evidence none)

/-- A member that the provisional configuration fenced at the given LSN. -/
def fenced (m : ConfigurationMember) (lsn : Int) : AgentReport :=
  { report failover .previousCurrent m with
    currentProgress := lsn
    verifiedReplicationLsn := some lsn
    deactivatedLsn := some lsn }

def observed : ObservationSnapshot :=
  snapshot failover
    [fenced ⟨identity 1, .activeSecondary⟩ 7, fenced ⟨identity 2, .activeSecondary⟩ 10]

def election : ScaleUpFinalElectionEvidence :=
  ⟨1, [fencedWitness 1 7, fencedWitness 2 10], [1, 2], [1, 2]⟩

def evidence : ScaleUpFailoverEvidence := FourthReplica.evidence (some election)

def finalized : TransitionIntent := elected election

def frozen : AcceptedStatus :=
  progressStatus observed (withTransition observed.status finalized)
    "ScaleUpFencedElectionFinalized" "failover-election" (some intent.target)
    (some intent.operationId)
    "fresh epoch-fenced PC and CC evidence selected replica 1 with safe prefix LSN 7"

/-- Every member but the selected one holds the write at LSN 10. -/
def progress (id : ReplicaId) : Int := if id = 1 then 7 else 10

/-- The controller freezes an accepted election at LSN 7, while write quorums of both configurations
may hold LSN 10. -/
theorem election_drops_committed :
    finalizeFencedFailover observed failover intent {} = some (persist frozen) ∧
      frozen.transition = some finalized ∧ finalized.scaleUpFailover = some evidence ∧
      validateScaleUpFailoverEvidence evidence = .ok () ∧
      evidence.finalElection = some election ∧ election.safeLsn = some 7 ∧
      election.Certified progress ∧
      intent.currentPolicy.writeQuorum ≤ intent.currentConfiguration.holding progress 10 ∧
      intent.previousPolicy.writeQuorum ≤ intent.previousConfiguration.holding progress 10 ∧
      ¬evidence.KeepsCommitted election := by
  have hsafe : election.safeLsn = some 7 := by decide
  have hcertified : election.Certified progress := by
    unfold ScaleUpFinalElectionEvidence.Certified
    decide +kernel
  have hcurrent : intent.currentPolicy.writeQuorum ≤
      intent.currentConfiguration.holding progress 10 := by decide +kernel
  have hprevious : intent.previousPolicy.writeQuorum ≤
      intent.previousConfiguration.holding progress 10 := by decide +kernel
  refine ⟨by decide +kernel, rfl, rfl, by decide +kernel, rfl, hsafe, hcertified, hcurrent,
    hprevious, ?_⟩
  rintro ⟨safe, hmem, hkeeps⟩
  have hle : 10 ≤ safe := (hkeeps progress hcertified 10).1 hcurrent
  rw [hsafe] at hmem
  cases hmem
  omega

/-- The election of replica 1 beside a member with the same prefix. -/
def level : ScaleUpFinalElectionEvidence :=
  ⟨1, [fencedWitness 1 7, fencedWitness 4 7], [1, 4], [1, 4]⟩

theorem finalElection_keepsCommitted_iff_level :
    (FourthReplica.evidence (some level)).KeepsCommitted level ∧
      ∃ t e f, frozen.transition = some t ∧ t.scaleUpFailover = some e ∧
        e.finalElection = some f ∧ validateScaleUpFailoverEvidence e = .ok () ∧
        (e.KeepsCommitted f ↔ e.Covered f) := by
  obtain ⟨haccepted, hfrozen⟩ := finalElection_keepsCommitted_iff
  obtain ⟨hiff, hcovered⟩ :=
    haccepted (FourthReplica.evidence (some level)) level (by decide +kernel) rfl
  refine ⟨hiff.2 (hcovered (by decide +kernel)), ?_⟩
  exact (hfrozen observed failover intent {} (persist frozen) frozen (by decide +kernel)
    List.mem_cons_self).resolve_left fun h => by cases h.1

end ReturnedPrimary

end Controller.ScaleUp

end Kuberic
