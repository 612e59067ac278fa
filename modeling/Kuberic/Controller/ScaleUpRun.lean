import Kuberic.Controller.Evaluate
import Kuberic.Protocol.FailoverReceipt

/-!
# Runs of a scale-up transition

As for a replacement, one report of the expanded configuration alone is enough for the controller to
skip the evidence under the pair.  Over the runs of one transition, in its ordinary and in its
failover form, the first command for the expanded configuration alone follows that evidence, and the
expanded topology is accepted with a receipt of a write quorum.
-/

namespace Kuberic.Controller.ScaleUp

open Check

/-! ## The evidence -/

/-- So many members of `c` are settled under the pair and have verified the boundary. -/
def AttestedBy (s : ObservationSnapshot) (intent : ScaleUpIntent)
    (c current : ConfigurationDescriptor) (n : Nat) : Prop :=
  ∃ members : List ConfigurationMember, members.Sublist c.members ∧ n ≤ members.length ∧
    ∀ m ∈ members, ∃ r, s.reportAt m.identity = some r ∧
      r.At (some intent.previousConfiguration) current ∧ r.scaleUpIntent = some intent ∧
      r.pendingOperationId = none ∧ ∃ lsn ∈ r.verifiedReplicationLsn, intent.catchUpBoundaryLsn ≤ lsn

/-- A report under the pair that carries the identity. -/
def ReportsPair (s : ObservationSnapshot) (intent : ScaleUpIntent)
    (current : ConfigurationDescriptor) (identity : ReplicaIdentity)
    (P : AgentReport → Prop) : Prop :=
  ∃ slot r, s.reportAt slot = some r ∧ r.identity = identity ∧
    r.At (some intent.previousConfiguration) current ∧ P r

/-- Write quorums of both configurations, the candidate at its boundary and a primary that grants
writes. -/
structure AdmissionEvidence (s : ObservationSnapshot) (t : TransitionIntent)
    (intent : ScaleUpIntent) : Prop where
  previousQuorum : AttestedBy s intent intent.previousConfiguration t.currentConfiguration
    intent.previousPolicy.writeQuorum
  currentQuorum : AttestedBy s intent t.currentConfiguration t.currentConfiguration
    intent.currentPolicy.writeQuorum
  candidate : ReportsPair s intent t.currentConfiguration intent.target fun r =>
    ∃ lsn ∈ r.verifiedReplicationLsn, intent.catchUpBoundaryLsn ≤ lsn
  granted : ∃ primary, configurationPrimary t.currentConfiguration = some primary ∧
    ReportsPair s intent t.currentConfiguration primary.identity fun r => r.writeStatus = .granted

/-- Read quorums of both configurations, and an elected primary that is fenced, has reached the safe
prefix and is closed for writes. -/
structure ElectionEvidence (s : ObservationSnapshot) (t : TransitionIntent)
    (intent : ScaleUpIntent) : Prop where
  previousQuorum : AttestedBy s intent intent.previousConfiguration t.currentConfiguration
    intent.previousPolicy.readQuorum
  currentQuorum : AttestedBy s intent t.currentConfiguration t.currentConfiguration
    intent.currentPolicy.readQuorum
  selected : ∃ primary safeLsn r, configurationPrimary t.currentConfiguration = some primary ∧
    t.electionLsn = some safeLsn ∧ s.reportAt primary.identity = some r ∧
    r.At (some intent.previousConfiguration) t.currentConfiguration ∧
    r.deactivationEpoch = some t.currentConfiguration.epoch ∧
    (∃ lsn ∈ r.deactivatedLsn, safeLsn ≤ lsn) ∧
    (∃ lsn ∈ r.verifiedReplicationLsn, safeLsn ≤ lsn) ∧ r.catchUpComplete = true ∧
    r.writeStatus = .reconfigurationPending

/-- The evidence that the form of the transition asks for. -/
def JointEvidence (s : ObservationSnapshot) (t : TransitionIntent) (intent : ScaleUpIntent) : Prop :=
  if t.kind = .failover then ElectionEvidence s t intent else AdmissionEvidence s t intent

section

variable {s : ObservationSnapshot} {t : TransitionIntent} {intent : ScaleUpIntent}
  {config : EvaluationConfig}

theorem reportAt_of_healthyReport {i : ReplicaIdentity} {r : AgentReport}
    (h : healthyReport s i = some r) : s.reportAt i = some r := by
  unfold healthyReport at h
  obtain ⟨o, ho, h⟩ := Option.bind_eq_some_iff.mp h
  split at h
  · obtain ⟨hr, -⟩ := Option.filter_eq_some_iff.mp h
    simp [ObservationSnapshot.reportAt, ho, hr]
  · cases h

theorem exists_sublist_of_length_filterMap {α β : Type} {f : α → Option β} {l : List α} {n : Nat}
    (h : n ≤ (l.filterMap f).length) :
    ∃ l' : List α, l'.Sublist l ∧ n ≤ l'.length ∧ ∀ a ∈ l', ∃ b, f a = some b := by
  refine ⟨l.filter fun a => (f a).isSome, List.filter_sublist, ?_, ?_⟩
  · rwa [← List.countP_eq_length_filter, ← List.length_filterMap_eq_countP]
  · intro a ha
    exact Option.isSome_iff_exists.mp (List.mem_filter.mp ha).2

theorem witness_eq_some {r : AgentReport} {w : ScaleUpWitness} (h : witness r = some w) :
    w.identity = r.identity ∧ w.writeStatus = r.writeStatus ∧
      r.verifiedReplicationLsn = some w.verifiedReplicationLsn := by
  obtain ⟨current, -, h⟩ := Option.bind_eq_some_iff.mp h
  obtain ⟨verified, hverified, h⟩ := Option.bind_eq_some_iff.mp h
  cases h
  exact ⟨rfl, rfl, hverified⟩

/-! ## Plans that neither send nor accept the expanded configuration -/

theorem progressStatus_topology (status : AcceptedStatus) (reason phase : String)
    (target : Option ReplicaIdentity) (attempt : Option OperationId) (blocking : String) :
    (progressStatus s status reason phase target attempt blocking).topology = status.topology :=
  waitingStatus_topology _ _

theorem progressStatus_lastScaleUp (status : AcceptedStatus) (reason phase : String)
    (target : Option ReplicaIdentity) (attempt : Option OperationId) (blocking : String) :
    (progressStatus s status reason phase target attempt blocking).lastScaleUp =
      status.lastScaleUp := by
  simp only [progressStatus, waitingStatus, clearRuntimeConditions, AcceptedStatus.withCondition,
    AcceptedStatus.withoutCondition]

variable {topology : Option AcceptedTopology} {plan : Plan} {c : ConfigurationDescriptor}

theorem keeps_progressWait {kind : WaitReason} {status : AcceptedStatus}
    {reason phase blocking : String} {target : Option ReplicaIdentity}
    {attempt : Option OperationId} :
    (progressWait kind s status reason phase target attempt blocking config).Keeps c
      status.topology :=
  keeps_wait (progressStatus_topology _ _ _ _ _ _)

theorem keeps_progress {status : AcceptedStatus} {reason phase blocking : String}
    {target : Option ReplicaIdentity} {attempt : Option OperationId}
    (h : status.topology = topology) :
    (persist (progressStatus s status reason phase target attempt blocking)).Keeps c topology :=
  keeps_persist ((progressStatus_topology _ _ _ _ _ _).trans h)

theorem keeps_restoreAcceptedService {accepted : ConfigurationDescriptor}
    {policy : EffectivePolicy} {target : ReplicaIdentity} {attempt : OperationId} {phase : String}
    (h : restoreAcceptedServiceBeforeCleanup s accepted policy target attempt phase config =
      some (some plan)) : plan.Keeps c s.status.topology := by
  simp only [restoreAcceptedServiceBeforeCleanup, Option.bind_eq_bind, Option.bind_eq_some_iff,
    Option.pure_def] at h
  obtain ⟨primary, -, h⟩ := h
  split at h
  swap
  · cases h
    exact keeps_progressWait
  split at h
  · cases h
    exact keeps_progressWait
  split at h
  · cases h
    exact keeps_execute fun honly => Bool.noConfusion honly
  split at h
  · cases h
    exact keeps_apply rfl fun _ h => absurd h List.not_mem_nil
  split at h
  · cases h
    refine keeps_of_statuses not_false rfl fun status hst => ?_
    split_ifs at hst <;> exact absurd hst List.not_mem_nil
  · simp at h

theorem keeps_contextualizeDelegatedWait {target : ReplicaIdentity} {attempt : OperationId}
    {phase : String} (h : plan.Keeps c topology) :
    (contextualizeDelegatedWait s plan target attempt phase).Keeps c topology := by
  unfold contextualizeDelegatedWait
  split
  · exact keeps_wait ((progressStatus_topology _ _ _ _ _ _).trans
      (h.persists _ (List.mem_singleton_self _)))
  · exact h

variable {primary : ConfigurationMember}

theorem mem_members_of_primary {c : ConfigurationDescriptor}
    (h : configurationPrimary c = some primary) : primary ∈ c.members :=
  List.mem_of_find?_eq_some h

/-! ## The evidence is there -/

variable [Sha256]

variable {current : ConfigurationDescriptor} {m : ConfigurationMember}

theorem memberWitness_pair {w : ScaleUpWitness}
    (h : memberWitness s intent current .previousCurrent m = some w) :
    ∃ r, s.reportAt m.identity = some r ∧ witness r = some w ∧
      r.At (some intent.previousConfiguration) current ∧ r.scaleUpIntent = some intent ∧
      r.pendingOperationId = none ∧
      ∃ lsn ∈ r.verifiedReplicationLsn, intent.catchUpBoundaryLsn ≤ lsn := by
  obtain ⟨r, hr, h⟩ := Option.bind_eq_some_iff.mp h
  simp only [reduceCtorEq, if_false, Option.ite_none_right_eq_some, Bool.and_eq_true] at h
  obtain ⟨⟨hexact, hsettled⟩, hwitness⟩ := h
  obtain ⟨hat, hintent, hverified⟩ := of_decide_eq_true hexact
  obtain ⟨hpending, -⟩ := of_decide_eq_true hsettled
  exact ⟨r, reportAt_of_healthyReport hr, hwitness, hat, hintent, hpending, hverified⟩

theorem attestedBy_of_quorumWitnesses {c : ConfigurationDescriptor} {n : Nat}
    (h : n ≤ (quorumWitnesses s intent current c .previousCurrent).length) :
    AttestedBy s intent c current n := by
  obtain ⟨members, hsub, hlen, hmembers⟩ := exists_sublist_of_length_filterMap h
  refine ⟨members, hsub, hlen, ?_⟩
  intro m hm
  obtain ⟨w, hw⟩ := hmembers m hm
  obtain ⟨r, hr, -, hrest⟩ := memberWitness_pair hw
  exact ⟨r, hr, hrest⟩

theorem reportsPair_of_any {c : ConfigurationDescriptor} {identity : ReplicaIdentity}
    {p : ScaleUpWitness → Bool} {P : AgentReport → Prop}
    (hp : ∀ r w, witness r = some w → p w = true → r.identity = identity ∧ P r)
    (h : (quorumWitnesses s intent current c .previousCurrent).any p = true) :
    ReportsPair s intent current identity P := by
  obtain ⟨w, hw, hpw⟩ := List.any_eq_true.mp h
  obtain ⟨m, -, hm⟩ := List.mem_filterMap.mp hw
  obtain ⟨r, hr, hwitness, hat, -⟩ := memberWitness_pair hm
  obtain ⟨hid, hP⟩ := hp r w hwitness hpw
  exact ⟨m.identity, r, hr, hid, hat, hP⟩

/-- The controller leaves the phase of the pair only with the evidence. -/
theorem awaitDualQuorum_eq_none {evidence : ScaleUpConfigurationEvidence}
    (hprimary : configurationPrimary t.currentConfiguration = some primary)
    (h : awaitDualQuorum s t evidence config primary.identity = some none) :
    JointEvidence s t evidence.intent := by
  by_cases hkind : t.kind = .failover
  · simp only [JointEvidence, if_pos hkind]
    simp only [awaitDualQuorum, if_pos hkind, Option.bind_eq_bind, Option.pure_def] at h
    split at h
    · simp at h
    next hquorum =>
    simp only [not_or, not_lt] at hquorum
    obtain ⟨safeLsn, hsafe, h⟩ := Option.bind_eq_some_iff.mp h
    split at h
    · simp at h
    next hselected =>
    refine ⟨attestedBy_of_quorumWitnesses hquorum.1, attestedBy_of_quorumWitnesses hquorum.2, ?_⟩
    simp only [Bool.not_eq_true', Bool.not_eq_false, selectedPrimaryReady] at hselected
    obtain ⟨r, hr, hready⟩ := (Option.any_eq_true _ _).mp hselected
    obtain ⟨hexact, hready⟩ := Bool.and_eq_true_iff.mp hready
    obtain ⟨-, hrest⟩ := of_decide_eq_true hready
    exact ⟨primary, safeLsn, r, hprimary, hsafe, reportAt_of_healthyReport hr,
      (of_decide_eq_true hexact).1, hrest⟩
  · simp only [JointEvidence, if_neg hkind]
    simp only [awaitDualQuorum, Option.pure_def, hkind, if_false, false_or] at h
    split at h
    · simp at h
    next hquorum =>
    simp only [not_or, not_lt] at hquorum
    split at h
    · simp at h
    next hready =>
    simp only [Bool.or_eq_true, Bool.not_eq_true', not_or, Bool.not_eq_false] at hready
    refine ⟨attestedBy_of_quorumWitnesses hquorum.1, attestedBy_of_quorumWitnesses hquorum.2,
      reportsPair_of_any ?_ hready.1, primary, hprimary, reportsPair_of_any ?_ hready.2⟩
    · intro r w hw hp
      obtain ⟨hid, hlsn⟩ := of_decide_eq_true hp
      obtain ⟨hidentity, -, hverified⟩ := witness_eq_some hw
      exact ⟨hidentity.symm.trans hid, _, hverified, hlsn⟩
    · intro r w hw hp
      obtain ⟨hid, hwrite⟩ := of_decide_eq_true hp
      obtain ⟨hidentity, hstatus, -⟩ := witness_eq_some hw
      exact ⟨hidentity.symm.trans hid, hstatus.symm.trans hwrite⟩

theorem keeps_freezeCleanup {p : ProvisioningIntent} {status : AcceptedStatus} {reason : String} :
    (freezeCleanup s p status reason false config).Keeps c status.topology := by
  unfold freezeCleanup
  dsimp only
  split
  · exact keeps_progressWait
  split
  · exact keeps_unsafePlan rfl
  · exact keeps_apply rfl (List.forall_mem_singleton.2 (progressStatus_topology _ _ _ _ _ _))

theorem keeps_beginFailover : (beginFailover s t intent config).Keeps c s.status.topology := by
  simp only [beginFailover]
  split
  · split <;> exact keeps_progressWait
  split
  · exact keeps_progressWait
  split
  · exact keeps_progressWait
  split
  · exact keeps_unsafePlan rfl
  split
  · exact keeps_unsafePlan rfl
  · exact keeps_apply statuses_fenceRouting
      (List.forall_mem_singleton.2 (progressStatus_topology _ _ _ _ _ _))

theorem keeps_finalizeFencedFailover (h : finalizeFencedFailover s t intent config = some plan) :
    plan.Keeps c s.status.topology := by
  simp only [finalizeFencedFailover] at h
  split at h
  · split at h <;> (cases h; exact keeps_progressWait)
  split at h
  · cases h
    exact keeps_progressWait
  split at h
  · cases h
    exact keeps_progressWait
  split at h
  · cases h
    exact keeps_unsafePlan rfl
  obtain ⟨carried, -, h⟩ := Option.bind_eq_some_iff.mp h
  split at h
  · cases h
    exact keeps_unsafePlan rfl
  · cases h
    exact keeps_progress rfl

variable {evidence : ScaleUpConfigurationEvidence} {p : ProvisioningIntent}

theorem keeps_admission (h : admission s t evidence p config = some (some plan)) :
    plan.Keeps c s.status.topology := by
  simp only [admission, Option.bind_eq_bind, Option.pure_def] at h
  split at h
  · simp at h
  split at h
  · cases h
    exact keeps_progress rfl
  split at h
  · split at h
    · cases h
      exact keeps_beginFailover
    · simp at h
  split at h
  · obtain ⟨failover, hfailover, h⟩ := Option.bind_eq_some_iff.mp h
    cases h
    split
    · exact keeps_contextualizeDelegatedWait (Controller.keeps_beginFailover hfailover)
    · exact keeps_progressWait
  obtain ⟨restore, hrestore, h⟩ := Option.bind_eq_some_iff.mp h
  split at h
  · cases h
    exact keeps_restoreAcceptedService hrestore
  split at h
  · cases h
    exact keeps_freezeCleanup
  split at h
  · cases h
    exact keeps_freezeCleanup
  · cases h
    exact keeps_progress rfl

/-! ## The two phases -/

/-- A member of the expanded configuration reports it alone, or a pending command for it. -/
def CurrentOnlyKnown (s : ObservationSnapshot) (t : TransitionIntent) (intent : ScaleUpIntent) :
    Prop :=
  ∃ m ∈ t.currentConfiguration.members, ∃ r, s.reportAt m.identity = some r ∧
    (r.At none t.currentConfiguration ∨ r.pendingOperationId =
      some (intent.commandOperationId .currentOnly m.identity t.currentConfiguration))

/-- The receipt of a write quorum that has the expanded configuration alone. -/
structure CommitReceipt (t : TransitionIntent) (intent : ScaleUpIntent) (receipt : ScaleUpReceipt) :
    Prop where
  intent_eq : receipt.intent = intent
  accepted : receipt.acceptedConfiguration = t.currentConfiguration
  valid : validateScaleUpReceipt receipt = .ok ()
  quorum : intent.currentPolicy.writeQuorum ≤ receipt.currentOnlyWriteQuorum.length
  distinct : (receipt.currentOnlyWriteQuorum.map (·.identity)).Nodup
  currentOnly : ∀ w ∈ receipt.currentOnlyWriteQuorum, w.previousConfigurationId = none ∧
    w.epoch = t.currentConfiguration.epoch ∧
    w.currentConfigurationId = t.currentConfiguration.configurationId
  primary : ∃ primary, configurationPrimary t.currentConfiguration = some primary ∧
    ∃ w ∈ receipt.currentOnlyWriteQuorum, w.identity = primary.identity ∧ w.writeStatus = .granted

/-- Everything that the evaluation of a scale-up transition can return. -/
def ExpansionOutcome (s : ObservationSnapshot) (t : TransitionIntent) (intent : ScaleUpIntent)
    (plan : Plan) : Prop :=
  plan.Keeps t.currentConfiguration s.status.topology ∨
    (plan.statuses = [] ∧ (CurrentOnlyKnown s t intent ∨ JointEvidence s t intent)) ∨
    (¬plan.SendsCurrentOnly t.currentConfiguration ∧ ∀ status ∈ plan.statuses,
      ∃ receipt, status.lastScaleUp = some receipt ∧ CommitReceipt t intent receipt)

theorem keeps_send : (send t evidence false m).Keeps c topology :=
  keeps_execute fun honly => Bool.noConfusion honly

theorem installMember_outcome {primary : ReplicaIdentity} {recovering : Bool}
    (hm : m ∈ t.currentConfiguration.members)
    (h : installMember s t evidence p config primary recovering m = some plan) :
    ExpansionOutcome s t evidence.intent plan := by
  simp only [installMember] at h
  split at h
  · split at h
    · cases h
    split at h
    · cases h
      exact .inl keeps_freezeCleanup
    split at h
    · cases h
    · cases h
      exact .inl keeps_progressWait
  next r hr =>
  generalize (if t.kind = .failover ∧ t.electionLsn = none then
    exactFencedPcCcReport r evidence.intent t.currentConfiguration
    else exactPcCcReport r evidence.intent t.currentConfiguration) = installed at h
  split at h
  · next hpending =>
    cases h
    exact .inr (.inl ⟨rfl, .inl ⟨m, hm, r, reportAt_of_healthyReport hr, .inr hpending⟩⟩)
  split at h
  · cases h
  split at h
  · cases h
    exact .inl keeps_progressWait
  · cases h
    exact .inl keeps_send

theorem keeps_awaitDualQuorum {primary : ReplicaIdentity}
    (h : awaitDualQuorum s t evidence config primary = some (some plan)) :
    plan.Keeps c s.status.topology := by
  by_cases hkind : t.kind = .failover
  · simp only [awaitDualQuorum, if_pos hkind, Option.bind_eq_bind, Option.pure_def] at h
    split at h
    · cases h
      exact keeps_progressWait
    obtain ⟨safeLsn, -, h⟩ := Option.bind_eq_some_iff.mp h
    split at h
    · cases h
      exact keeps_progressWait
    split at h
    · cases h
      exact keeps_progressWait
    · simp at h
  · simp only [awaitDualQuorum, Option.pure_def, hkind, if_false, false_or] at h
    split at h
    · cases h
      exact keeps_progressWait
    split at h
    · cases h
      exact keeps_progressWait
    · simp at h

theorem installPair_outcome (hprimary : configurationPrimary t.currentConfiguration = some primary)
    (h : installPair s t evidence p config primary = some (some plan)) :
    ExpansionOutcome s t evidence.intent plan := by
  simp only [installPair, Option.bind_eq_bind, Option.pure_def] at h
  split at h
  · next hfind =>
    cases h
    obtain ⟨m, hm, hplan⟩ := List.exists_of_findSome?_eq_some hfind
    refine installMember_outcome ?_ hplan
    rcases List.mem_append.mp hm with hm | hm
    · exact (List.mem_filter.mp hm).1
    · rw [List.mem_singleton.mp hm]
      exact mem_members_of_primary hprimary
  split at h
  · cases h
    exact .inl keeps_beginFailover
  split at h
  · obtain ⟨plan', hfinalize, h⟩ := Option.bind_eq_some_iff.mp h
    cases h
    exact .inl (keeps_finalizeFencedFailover hfinalize)
  · exact .inl (keeps_awaitDualQuorum h)

theorem installPair_eq_none (hprimary : configurationPrimary t.currentConfiguration = some primary)
    (h : installPair s t evidence p config primary = some none) :
    JointEvidence s t evidence.intent := by
  simp only [installPair, Option.bind_eq_bind, Option.pure_def] at h
  split at h
  · simp at h
  split at h
  · simp at h
  split at h
  · obtain ⟨plan', -, h⟩ := Option.bind_eq_some_iff.mp h
    simp at h
  · exact awaitDualQuorum_eq_none hprimary h

/-- The validator of receipts asks for distinct witnesses of the expanded configuration alone. -/
theorem CommitReceipt.of_validate {r : ScaleUpReceipt} (hintent : r.intent = intent)
    (haccepted : r.acceptedConfiguration = t.currentConfiguration)
    (hvalid : validateScaleUpReceipt r = .ok ())
    (hquorum : intent.currentPolicy.writeQuorum ≤ r.currentOnlyWriteQuorum.length)
    (hprimary : configurationPrimary t.currentConfiguration = some primary)
    (hgranted : ∃ w ∈ r.currentOnlyWriteQuorum, w.identity = primary.identity ∧
      w.writeStatus = .granted) : CommitReceipt t intent r := by
  have hwitnesses := hvalid
  simp only [validateScaleUpReceipt, seq_eq_ok, demand_bind_eq_ok] at hwitnesses
  obtain ⟨-, named, -, -, hwitnesses⟩ := hwitnesses
  simp only [validateScaleUpWitnesses, seq_eq_ok] at hwitnesses
  refine ⟨hintent, haccepted, hvalid, hquorum, ?_, ?_, primary, hprimary, hgranted⟩
  · refine (nodup_of_eachAfter ?_ hwitnesses.1).1
    intro seen w hw
    simp only [validateScaleUpWitness, rejectIf_eq_ok, not_or] at hw
    tauto
  · intro w hw
    obtain ⟨seen, hcheck⟩ := of_eachAfter hwitnesses.1 w hw
    simp only [validateScaleUpWitness, rejectIf_eq_ok, not_or, not_not, haccepted] at hcheck
    obtain ⟨-, -, -, -, -, -, hepoch, hprevious, hcurrent, -⟩ := hcheck
    exact ⟨hprevious, hepoch, hcurrent⟩

theorem acceptExpansion_outcome
    (hprimary : configurationPrimary t.currentConfiguration = some primary) :
    ExpansionOutcome s t evidence.intent (acceptExpansion s t evidence config primary) := by
  simp only [acceptExpansion]
  split
  swap
  · exact .inl keeps_progressWait
  next hready =>
  obtain ⟨hquorum, hgranted⟩ := Bool.and_eq_true_iff.mp hready
  split
  · exact .inl (keeps_unsafePlan rfl)
  next hvalid =>
  refine .inr (.inr ⟨not_false, fun status hst => ?_⟩)
  rw [statuses_persist, List.mem_singleton] at hst
  refine ⟨receipt t evidence
    (quorumWitnesses s evidence.intent t.currentConfiguration t.currentConfiguration .currentOnly),
    ?_, ?_⟩
  · rw [hst, progressStatus_lastScaleUp, acceptedExpansion]
  · refine .of_validate rfl rfl hvalid (of_decide_eq_true hquorum) hprimary ?_
    obtain ⟨w, hw, hwitness⟩ := List.any_eq_true.mp hgranted
    exact ⟨w, hw, of_decide_eq_true hwitness⟩

theorem repeatPending_cases (h : repeatPending s t evidence config m = some plan) :
    plan.Keeps c s.status.topology ∨ plan.statuses = [] := by
  obtain ⟨r, -, h⟩ := Option.bind_eq_some_iff.mp h
  obtain ⟨pending, -, h⟩ := Option.bind_eq_some_iff.mp h
  obtain ⟨expected, -, h⟩ := Option.bind_eq_some_iff.mp h
  dsimp only at h
  split at h
  · cases h
    exact .inl (keeps_unsafePlan rfl)
  split at h
  · cases h
    exact .inl (keeps_unsafePlan rfl)
  · cases h
    exact .inr rfl

theorem convergeMember_cases (h : convergeMember s t evidence config m = some plan) :
    plan.Keeps c s.status.topology ∨ plan.statuses = [] := by
  obtain ⟨r, -, h⟩ := Option.bind_eq_some_iff.mp h
  dsimp only at h
  split at h
  · cases h
    exact .inl (keeps_unsafePlan rfl)
  split at h
  · cases h
    exact .inl keeps_send
  split at h
  · cases h
  split at h
  · cases h
  · cases h
    exact .inr rfl

theorem installCurrentOnly_outcome
    (hprimary : configurationPrimary t.currentConfiguration = some primary)
    (hevidence : CurrentOnlyKnown s t evidence.intent ∨ JointEvidence s t evidence.intent) :
    ExpansionOutcome s t evidence.intent (installCurrentOnly s t evidence config primary) := by
  unfold installCurrentOnly
  dsimp only
  cases hpublish : publishPhaseIfChanged s s.status "ScaleUpCurrentOnlyInstalling" "current-only"
    (some evidence.intent.target) (some evidence.intent.operationId)
    "installing expanded current-only authority one exact member at a time" with
  | some plan =>
    simp only [publishPhaseIfChanged] at hpublish
    split at hpublish
    · cases hpublish
    · cases hpublish
      exact .inl (keeps_progress rfl)
  | none =>
    rw [Option.none_or]
    cases hrepeat : (convergenceOrder s t evidence primary).findSome?
      (repeatPending s t evidence config) with
    | some plan =>
      obtain ⟨m, -, hm⟩ := List.exists_of_findSome?_eq_some hrepeat
      exact (repeatPending_cases hm).imp_right fun hnone => .inl ⟨hnone, hevidence⟩
    | none =>
      rw [Option.none_or]
      cases hconverge : (if prioritizePrimary s t evidence primary then
          rotateRight (convergenceOrder s t evidence primary)
        else convergenceOrder s t evidence primary).findSome?
          (convergeMember s t evidence config) with
      | some plan =>
        obtain ⟨m, -, hm⟩ := List.exists_of_findSome?_eq_some hconverge
        exact (convergeMember_cases hm).imp_right fun hnone => .inl ⟨hnone, hevidence⟩
      | none => exact acceptExpansion_outcome hprimary

theorem transition_outcome (hevidence : configurationEvidence t = some evidence)
    (h : transition s t config = some plan) : ExpansionOutcome s t evidence.intent plan := by
  simp only [transition, hevidence, Option.bind_eq_bind, Option.bind_some, Option.pure_def] at h
  split at h
  swap
  · cases h
    exact .inl (keeps_unsafePlan rfl)
  obtain ⟨admitted, hadmitted, h⟩ := Option.bind_eq_some_iff.mp h
  cases admitted with
  | some plan' =>
    cases h
    exact .inl (keeps_admission hadmitted)
  | none =>
    obtain ⟨primary, hprimary, h⟩ := Option.bind_eq_some_iff.mp h
    split at h
    · next hstarted =>
      cases h
      obtain ⟨m, hm, hany⟩ := List.any_eq_true.mp hstarted
      obtain ⟨r, hr, hexact⟩ := (Option.any_eq_true _ _).mp hany
      exact installCurrentOnly_outcome hprimary (.inl ⟨m, hm, r, reportAt_of_healthyReport hr,
        .inl (of_decide_eq_true hexact).1⟩)
    obtain ⟨pair, hpair, h⟩ := Option.bind_eq_some_iff.mp h
    cases pair with
    | some plan' =>
      cases h
      exact installPair_outcome hprimary hpair
    | none =>
      cases h
      exact installCurrentOnly_outcome hprimary (.inr (installPair_eq_none hprimary hpair))

theorem evaluate_outcome [OtherTransitions] (hevidence : configurationEvidence t = some evidence)
    (hform : t.kind = .scaleUp ∨ t.kind = .failover) (ht : s.status.transition = some t)
    (hpending : s.status.accepted ≠ some t.currentConfiguration)
    (h : plan ∈ (evaluate s config).join) : ExpansionOutcome s t evidence.intent plan := by
  have hkind : t.kind ≠ .plannedSwitchover := by
    rcases hform with hform | hform <;> simp [hform]
  rcases evaluate_cases ht hkind hpending h with hkeeps | ⟨-, hdispatch⟩
  · exact .inl hkeeps
  unfold dispatch at hdispatch
  split at hdispatch
  · exact transition_outcome hevidence hdispatch
  split at hdispatch
  · cases hdispatch
    exact .inl ReplacementCleanup.keeps_waiting
  have hcarries : t.scaleUp.isSome ∨ t.scaleUpFailover.isSome := by
    by_contra hnone
    simp only [not_or, Bool.not_eq_true, Option.isSome_eq_false_iff, Option.isNone_iff_eq_none]
      at hnone
    simp [configurationEvidence, hnone.1, hnone.2] at hevidence
  rcases hform with hform | hform <;>
    (simp only [evaluateTransition, hform, if_pos hcarries] at hdispatch
     cases hdispatch
     exact .inl (keeps_wait rfl))

end

/-! ## Runs of one transition -/

section

variable [Sha256] [OtherTransitions]

/-- The snapshots that the controller evaluates while one expansion is pending, in order.  A replica
reports the expanded configuration alone, or a pending command for it, only after such a command. -/
structure ExpansionRun (t : TransitionIntent) (intent : ScaleUpIntent) (config : EvaluationConfig)
    (run : List ObservationSnapshot) : Prop where
  carried : (configurationEvidence t).map (·.intent) = some intent
  form : t.kind = .scaleUp ∨ t.kind = .failover
  transition : ∀ s ∈ run, s.status.transition = some t
  pending : ∀ s ∈ run, s.status.accepted ≠ some t.currentConfiguration
  truthful : ∀ before s after, run = before ++ s :: after → CurrentOnlyKnown s t intent →
    ∃ s' ∈ before, SendsCurrentOnly t config s'

end

/-! ## From three to four replicas -/

namespace FourthReplica

attribute [local instance] checksum noOtherTransitions

open ThreeToFour

def config : EvaluationConfig := { allowScaleUp := true }

def expansion : TransitionIntent :=
  { plainTransition (intent.transitionId .scaleUp intent.currentConfiguration) .scaleUp 1
      intent.currentPolicy (some intent.previousConfiguration.configurationId)
      intent.currentConfiguration with
    buildId := some intent.buildId
    scaleUp := some intent }

def provisional : ConfigurationDescriptor :=
  .new ⟨1, 3⟩ 1 [⟨identity 1, .primary⟩, ⟨identity 2, .activeSecondary⟩,
    ⟨identity 3, .activeSecondary⟩, ⟨identity 4, .activeSecondary⟩] 3

/-- A witness that the provisional configuration fenced. -/
def fencedWitness (id : ReplicaId) (lsn : Int) : ScaleUpFinalWitness where
  replicaId := id
  processSessionId := "session"
  reportSequence := 1
  currentProgress := lsn
  committedLsn := 0
  deactivatedLsn := lsn
  fenceOperationId := intent.commandOperationId .previousCurrent (identity id) provisional

/-- Replica 2 has failed, and replica 1 coordinates the failover. -/
def evidence (election : Option ScaleUpFinalElectionEvidence) : ScaleUpFailoverEvidence where
  intent := intent
  provisionalConfiguration := provisional
  previousReadQuorum := [DemotedPrimary.recoveryWitness 1, DemotedPrimary.recoveryWitness 4]
  currentReadQuorum := [DemotedPrimary.recoveryWitness 1, DemotedPrimary.recoveryWitness 3]
  finalElection := election

def final : ConfigurationDescriptor := configurationWithPrimary provisional (identity 1) ⟨1, 4⟩

/-- The failover form, after an election that selected replica 1. -/
def elected (election : ScaleUpFinalElectionEvidence) : TransitionIntent :=
  { plainTransition (intent.transitionId .failover final) .failover 1 intent.currentPolicy
      (some intent.previousConfiguration.configurationId) final with
    buildId := some intent.buildId
    electionLsn := some 7
    scaleUpFailover := some (evidence (some election)) }

def failover : TransitionIntent :=
  elected ⟨1, [fencedWitness 1 7, fencedWitness 4 7], [1, 4], [1, 4]⟩

/-- The report of a settled member under the pair, or under the expanded configuration alone. -/
def report (t : TransitionIntent) (stage : ScaleUpStage) (m : ConfigurationMember) : AgentReport :=
  { protocolVersion := 9
    resourceUid := "uid"
    identity := m.identity
    processSessionId := "session"
    reportSequence := 1
    role := m.role
    readStatus := if m.role = .primary then .granted else .notPrimary
    writeStatus := if m.role ≠ .primary then .notPrimary
      else if t.kind = .failover ∧ stage = .previousCurrent then .reconfigurationPending
      else .granted
    healthy := true
    epoch := t.currentConfiguration.epoch
    previousConfiguration :=
      if stage = .currentOnly then none else some intent.previousConfiguration
    currentConfiguration := some t.currentConfiguration
    currentProgress := 7
    verifiedReplicationLsn := some 7
    catchUpComplete := true
    deactivatedLsn := some 7
    deactivationEpoch := some t.currentConfiguration.epoch
    retainedOperationId :=
      some (intent.commandOperationId stage m.identity t.currentConfiguration)
    scaleUpIntent := some intent }

def observation (r : AgentReport) : ReplicaObservation where
  kubernetes := some
    { replicaId := r.identity.replicaId
      podName := r.identity.instanceId
      podUid := some r.identity.instanceId
      pvcName := "pvc"
      pvcUid := some "pvc"
      podReady := true
      peerEndpointReady := true }
  agent := .report r

/-- The observation of these reports while the transition is pending. -/
def snapshot (t : TransitionIntent) (reports : List AgentReport) : ObservationSnapshot :=
  let s : ObservationSnapshot :=
    { resourceUid := "uid"
      desired := { replicas := 4, image := "image", failoverDelaySeconds := 30 }
      status :=
        { initialized := true
          observedGeneration := 1
          effectivePolicy := some intent.previousPolicy
          topology := some ⟨intent.previousConfiguration⟩
          provisioning := some provisioning
          transition := some t
          scaleUpAdmissionStarted := some intent.operationId }
      replicas := reports.foldl (fun replicas r =>
        replicas.insert r.identity.observationKey (observation r)) ∅ }
  { s with
    status := progressStatus s s.status "ScaleUpCurrentOnlyInstalling" "current-only"
      (some intent.target) (some intent.operationId)
      "installing expanded current-only authority one exact member at a time" }

/-- All members report but a failed primary. -/
def observed (t : TransitionIntent) (stage : ScaleUpStage) : ObservationSnapshot :=
  snapshot t ((t.currentConfiguration.members.filter fun m =>
    t.kind ≠ .failover ∨ m.identity ≠ intent.primary).map (report t stage))

/-- The pair is attested, then the expanded configuration alone. -/
def evaluations (t : TransitionIntent) : List ObservationSnapshot :=
  [observed t .previousCurrent, observed t .currentOnly]

theorem evaluations_run {t : TransitionIntent}
    (hcarried : (configurationEvidence t).map (·.intent) = some intent)
    (hform : t.kind = .scaleUp ∨ t.kind = .failover)
    (hstatus : ∀ s ∈ evaluations t, s.status.transition = some t ∧
      s.status.accepted ≠ some t.currentConfiguration)
    (hpair : ∀ m ∈ t.currentConfiguration.members,
      ∀ r ∈ (observed t .previousCurrent).reportAt m.identity,
        r.previousConfiguration ≠ none ∧ r.pendingOperationId = none)
    (hsends : SendsCurrentOnly t config (observed t .previousCurrent)) :
    ExpansionRun t intent config (evaluations t) := by
  refine ⟨hcarried, hform, fun s hs => (hstatus s hs).1, fun s hs => (hstatus s hs).2, ?_⟩
  intro before s after hrun hknown
  cases before with
  | nil =>
    cases hrun
    obtain ⟨m, hm, r, hr, hat | hpending⟩ := hknown
    · exact absurd hat.2.1 (hpair m hm r hr).1
    · rw [(hpair m hm r hr).2] at hpending
      cases hpending
  | cons first before =>
    obtain ⟨rfl, -⟩ := List.cons.inj hrun
    exact ⟨_, List.mem_cons_self, hsends⟩

theorem evaluations_commit {t : TransitionIntent} {P : ScaleUpReceipt → Prop}
    (haccepts : AcceptsTopology t config (observed t .currentOnly))
    (h : ∀ s ∈ evaluations t, ∀ plan ∈ (evaluate s config).join, ∀ status ∈ plan.statuses,
      status.topology = some ⟨t.currentConfiguration⟩ →
      ∃ receipt, status.lastScaleUp = some receipt ∧ P receipt) : ∃ receipt, P receipt := by
  obtain ⟨plan, hplan, status, hstatus, htopology⟩ := haccepts
  obtain ⟨receipt, -, hreceipt⟩ := h _ (by simp [evaluations]) plan hplan status hstatus htopology
  exact ⟨receipt, hreceipt⟩

end FourthReplica

end Kuberic.Controller.ScaleUp
