import Kuberic.Controller.Evaluate
import Kuberic.Protocol.Growth

/-!
# Runs of a replacement

The controller infers the phase of a transition from the reports of each snapshot: a single report
of the current configuration alone is enough to go on with the current-only commands.  What makes
that safe is the history of the reports.  A replica has the current configuration alone only after a
command that says so, and the first of these commands is sent from a snapshot in which a write
quorum of either configuration has the authority of the pair and the primary has caught up.
-/

namespace Kuberic.Controller

open Check

/-! ## What a replacement sends and accepts -/

/-- Some report of the snapshot shows this identity under the given authority. -/
def ReportsAuthority (s : ObservationSnapshot) (previous : Option ConfigurationDescriptor)
    (current : ConfigurationDescriptor) (identity : ReplicaIdentity) : Prop :=
  ∃ slot r, s.reportAt slot = some r ∧ r.identity = identity ∧ r.At previous current

/-- A write quorum of `c` has the given authority. -/
def WriteQuorumReports (s : ObservationSnapshot) (c : ConfigurationDescriptor)
    (previous : Option ConfigurationDescriptor) (current : ConfigurationDescriptor) : Prop :=
  ∃ members : List ConfigurationMember, members.Sublist c.members ∧
    c.writeQuorum ≤ members.length ∧
    ∀ m ∈ members, ReportsAuthority s previous current m.identity

/-- The primary reports under the pair that it has caught up. -/
def CatchUpReported (s : ObservationSnapshot) (previous current : ConfigurationDescriptor) :
    Prop :=
  ∃ primary slot r, current.primaryById? = some primary ∧ s.reportAt slot = some r ∧
    r.identity = primary.identity ∧ r.At (some previous) current ∧ r.catchUpComplete = true

/-- The primary has caught up, and write quorums of both configurations have the authority of the
pair. -/
structure JointQuorum (s : ObservationSnapshot) (previous current : ConfigurationDescriptor) :
    Prop where
  caughtUp : CatchUpReported s previous current
  previousQuorum : WriteQuorumReports s previous (some previous) current
  currentQuorum : WriteQuorumReports s current (some previous) current

/-- The primary has the current configuration alone with writes granted, and so has a write
quorum. -/
structure CurrentOnlyQuorum (s : ObservationSnapshot) (current : ConfigurationDescriptor) :
    Prop where
  granted : ∃ primary slot r, current.primaryById? = some primary ∧ s.reportAt slot = some r ∧
    r.identity = primary.identity ∧ r.At none current ∧ r.writeStatus = .granted
  currentQuorum : WriteQuorumReports s current none current

/-- A member of the current configuration reports it alone. -/
def CurrentOnlyReported (s : ObservationSnapshot) (current : ConfigurationDescriptor) : Prop :=
  ∃ m ∈ current.members, ∃ r, s.reportAt m.identity = some r ∧ r.At none current

/-- Everything that the evaluation of a replacement can return: a plan that neither sends nor accepts
the current configuration alone, a command for it, or the accepted topology. -/
def ReplacementOutcome (s : ObservationSnapshot) (previous current : ConfigurationDescriptor)
    (plan : Plan) : Prop :=
  plan.Keeps current s.status.topology ∨
    (plan.statuses = [] ∧ (CurrentOnlyReported s current ∨ JointQuorum s previous current)) ∨
    (¬plan.SendsCurrentOnly current ∧ CurrentOnlyReported s current ∧ CurrentOnlyQuorum s current)

section

variable {s : ObservationSnapshot} {t : TransitionIntent} {config : EvaluationConfig}
  {status : AcceptedStatus} {plan : Plan} {previous current : ConfigurationDescriptor}

theorem writeQuorumReports_of_reportQuorum {c : ConfigurationDescriptor}
    {authority : Option ConfigurationDescriptor} {reports : List AgentReport}
    (hreports : ∀ r ∈ reports, (∃ slot, s.reportAt slot = some r) ∧ r.At authority current)
    (h : configurationReportQuorum c reports = true) :
    WriteQuorumReports s c authority current := by
  refine ⟨c.members.filter fun m => reports.any fun r => r.identity = m.identity,
    List.filter_sublist, ?_, ?_⟩
  · rw [← List.countP_eq_length_filter]
    exact of_decide_eq_true h
  · intro m hm
    obtain ⟨r, hr, hid⟩ := List.any_eq_true.mp (List.mem_filter.mp hm).2
    obtain ⟨⟨slot, hslot⟩, hat⟩ := hreports r hr
    exact ⟨slot, r, hslot, of_decide_eq_true hid, hat⟩

theorem mem_replacementPcCcReports {r : AgentReport}
    (h : r ∈ replacementPcCcReports s previous current) :
    (∃ slot, s.reportAt slot = some r) ∧ r.At (some previous) current := by
  obtain ⟨m, -, hm⟩ := List.mem_filterMap.mp h
  obtain ⟨hreport, hat⟩ := Option.filter_eq_some_iff.mp hm
  exact ⟨⟨m.identity, hreport⟩, of_decide_eq_true hat⟩

theorem mem_replacementCurrentOnlyReports {r : AgentReport}
    (h : r ∈ replacementCurrentOnlyReports s current) :
    ∃ m ∈ current.members, s.reportAt m.identity = some r ∧ r.At none current := by
  obtain ⟨m, hmem, hm⟩ := List.mem_filterMap.mp h
  obtain ⟨hreport, hat⟩ := Option.filter_eq_some_iff.mp hm
  exact ⟨m, hmem, hreport, of_decide_eq_true hat⟩

theorem keeps_replacementInstall {primary : ConfigurationMember} {c : ConfigurationDescriptor}
    {topology : Option AcceptedTopology}
    (h : replacementInstall s t previous current primary = some plan) : plan.Keeps c topology := by
  obtain ⟨member, -, h⟩ := List.exists_of_findSome?_eq_some h
  obtain ⟨report, -, h⟩ := Option.bind_eq_some_iff.mp h
  dsimp only at h
  split_ifs at h
  cases h
  exact keeps_execute fun honly => Bool.noConfusion honly

theorem statuses_replacementActivate {primary : ConfigurationMember}
    (h : replacementActivate s t previous current primary = some plan) : plan.statuses = [] := by
  obtain ⟨member, -, h⟩ := List.exists_of_findSome?_eq_some h
  obtain ⟨report, -, h⟩ := Option.bind_eq_some_iff.mp h
  dsimp only at h
  split_ifs at h <;> (cases h; rfl)

theorem evaluateReplacementTransition_outcome (hprevious : s.status.accepted = some previous)
    (hstatus : status.topology = s.status.topology)
    (h : evaluateReplacementTransition s t status config = some plan) :
    ReplacementOutcome s previous t.currentConfiguration plan := by
  simp only [evaluateReplacementTransition, hprevious, Option.bind_eq_bind, Option.bind_some,
    Option.bind_eq_some_iff, Option.pure_def] at h
  obtain ⟨primary, hprimary, h⟩ := h
  split at h
  · cases hinstall : replacementInstall s t previous t.currentConfiguration primary with
    | none =>
      rw [hinstall] at h
      cases h
      exact .inl (keeps_wait hstatus)
    | some install =>
      rw [hinstall] at h
      cases h
      exact .inl (keeps_replacementInstall hinstall)
  next hphase =>
  -- The phase follows from one report, or from the joint quorum.
  have hphase' : CurrentOnlyReported s t.currentConfiguration ∨
      JointQuorum s previous t.currentConfiguration := by
    simp only [Bool.not_eq_true', Bool.not_eq_false, Bool.or_eq_true, Bool.and_eq_true] at hphase
    rcases hphase with hstarted | ⟨⟨hcaughtUp, hquorum⟩, hquorum'⟩
    · obtain ⟨m, hm, hany⟩ := List.any_eq_true.mp hstarted
      obtain ⟨r, hr, hat⟩ := (Option.any_eq_true _ _).mp hany
      exact .inl ⟨m, hm, r, hr, of_decide_eq_true hat⟩
    · obtain ⟨r, hr, hcomplete⟩ := (Option.any_eq_true _ _).mp hcaughtUp
      obtain ⟨⟨slot, hslot⟩, hat⟩ := mem_replacementPcCcReports (List.mem_of_find?_eq_some hr)
      have hid : r.identity = primary.identity := by simpa using List.find?_some hr
      exact .inr ⟨⟨primary, slot, r, hprimary, hslot, hid, hat, hcomplete⟩,
        writeQuorumReports_of_reportQuorum (fun _ => mem_replacementPcCcReports) hquorum,
        writeQuorumReports_of_reportQuorum (fun _ => mem_replacementPcCcReports) hquorum'⟩
  split at h
  · next activate hactivate =>
    cases h
    exact .inr (.inl ⟨statuses_replacementActivate hactivate, hphase'⟩)
  split at h
  · next hready =>
    cases h
    obtain ⟨hgranted, hquorum⟩ := Bool.and_eq_true_iff.mp hready
    obtain ⟨r, hr, hreport⟩ := List.any_eq_true.mp hgranted
    obtain ⟨hid, hwrite⟩ := of_decide_eq_true hreport
    obtain ⟨m, hm, hslot, hat⟩ := mem_replacementCurrentOnlyReports hr
    refine .inr (.inr ⟨not_false, ⟨m, hm, r, hslot, hat⟩,
      ⟨primary, m.identity, r, hprimary, hslot, hid, hat, hwrite⟩, ?_⟩)
    refine writeQuorumReports_of_reportQuorum (fun r hr => ?_) hquorum
    obtain ⟨m, -, hslot, hat⟩ := mem_replacementCurrentOnlyReports hr
    exact ⟨⟨m.identity, hslot⟩, hat⟩
  · cases h
    exact .inl (keeps_wait hstatus)

theorem pendingStatus_topology : (pendingStatus s t).topology = s.status.topology := by
  unfold pendingStatus
  cases (desiredSpecState s t.currentConfiguration t.effectivePolicy).2 <;>
    simp [transitionStatus, AcceptedStatus.withCondition, AcceptedStatus.withoutCondition]

variable [Sha256]

theorem ordinary_of_valid (hkind : t.kind = .replacement) (ht : s.status.transition = some t)
    (h : validateSnapshot s = .ok ()) : validateOrdinaryTransition s.status t = .ok () := by
  simp only [validateSnapshot, seq_eq_ok] at h
  have hstatus := h.2.1
  simp only [validateStatus, seq_eq_ok, onSome_eq_ok] at hstatus
  obtain ⟨-, -, -, -, -, -, -, -, -, -, -, -, -, -, -, htransition⟩ := hstatus
  have := htransition t ht
  unfold validateTransition at this
  rw [hkind] at this
  exact this

variable [OtherTransitions]

theorem evaluateTransition_replacement (hkind : t.kind = .replacement)
    (hprevious : s.status.accepted = some previous)
    (h : evaluateTransition s t config = some plan) :
    ReplacementOutcome s previous t.currentConfiguration plan := by
  simp only [evaluateTransition, hkind] at h
  split at h
  · cases h
    exact .inl (keeps_wait rfl)
  split at h
  · cases h
    exact .inl (keeps_persist pendingStatus_topology)
  simp only [Option.bind_eq_bind, Option.bind_eq_some_iff] at h
  obtain ⟨failover, hfailover, h⟩ := h
  cases failover with
  | some failover =>
    cases h
    have hkeeps : plan.Keeps t.currentConfiguration _ := keeps_beginFailover hfailover
    rw [pendingStatus_topology] at hkeeps
    exact .inl hkeeps
  | none => exact evaluateReplacementTransition_outcome hprevious pendingStatus_topology h

theorem evaluate_replacement (hkind : t.kind = .replacement) (ht : s.status.transition = some t)
    (hprevious : s.status.accepted = some previous) (hpending : previous ≠ t.currentConfiguration)
    (h : plan ∈ (evaluate s config).join) :
    ReplacementOutcome s previous t.currentConfiguration plan := by
  have hc : s.status.accepted ≠ some t.currentConfiguration := by
    rw [hprevious]
    exact fun heq => hpending (Option.some.inj heq)
  rcases evaluate_cases ht (by simp [hkind]) hc h with hkeeps | ⟨hvalid, hdispatch⟩
  · exact .inl hkeeps
  unfold dispatch at hdispatch
  split at hdispatch
  · next hcarries =>
    have hordinary := ordinary_of_valid hkind ht hvalid
    simp only [validateOrdinaryTransition, seq_eq_ok, rejectIf_eq_ok, not_or, not_not] at hordinary
    simp [hordinary.2.1] at hcarries
  split at hdispatch
  · cases hdispatch
    exact .inl ReplacementCleanup.keeps_waiting
  · exact evaluateTransition_replacement hkind hprevious hdispatch

end

/-! ## Runs of one replacement -/

section

variable [Sha256] [OtherTransitions]

/-- The snapshots that the controller evaluates while one replacement is pending, in order.  A replica
reports the current configuration alone only after a command for it. -/
structure ReplacementRun (t : TransitionIntent) (previous : ConfigurationDescriptor)
    (config : EvaluationConfig) (run : List ObservationSnapshot) : Prop where
  kind : t.kind = .replacement
  pending : previous ≠ t.currentConfiguration
  transition : ∀ s ∈ run, s.status.transition = some t
  accepted : ∀ s ∈ run, s.status.accepted = some previous
  truthful : ∀ before s after, run = before ++ s :: after →
    CurrentOnlyReported s t.currentConfiguration → ∃ s' ∈ before, SendsCurrentOnly t config s'

/-- A write quorum of the configuration holds the LSN. -/
def CommittedUnder (c : ConfigurationDescriptor) (holds : ReplicaIdentity → Int → Prop)
    (lsn : Int) : Prop :=
  ∃ q, c.Holds c.writeQuorum q ∧ ∀ i ∈ q, holds i lsn

variable {t : TransitionIntent} {previous : ConfigurationDescriptor} {config : EvaluationConfig}
  {run before after : List ObservationSnapshot} {s : ObservationSnapshot}

theorem ReplacementRun.outcome {plan : Plan} (h : ReplacementRun t previous config run)
    (hs : s ∈ run) (hplan : plan ∈ (evaluate s config).join) :
    ReplacementOutcome s previous t.currentConfiguration plan :=
  evaluate_replacement h.kind (h.transition s hs) (h.accepted s hs) h.pending hplan

theorem ReplacementRun.jointQuorum_of_first (h : ReplacementRun t previous config run)
    (hrun : run = before ++ s :: after) (hsends : SendsCurrentOnly t config s)
    (hfirst : ∀ s' ∈ before, ¬SendsCurrentOnly t config s') :
    JointQuorum s previous t.currentConfiguration := by
  obtain ⟨plan, hplan, hsends⟩ := hsends
  rcases h.outcome (by simp [hrun]) hplan with hkeeps | ⟨-, hreported | hjoint⟩ | ⟨hnone, -⟩
  · exact absurd hsends hkeeps.sends
  · obtain ⟨s', hs', hsends'⟩ := h.truthful before s after hrun hreported
    exact absurd hsends' (hfirst s' hs')
  · exact hjoint
  · exact absurd hsends hnone

theorem ReplacementRun.not_keeps {plan : Plan} {status : AcceptedStatus}
    (h : ReplacementRun t previous config run) (hmem : s ∈ run) (hstatus : status ∈ plan.statuses)
    (htopology : status.topology = some ⟨t.currentConfiguration⟩) :
    ¬plan.Keeps t.currentConfiguration s.status.topology := by
  intro hkeeps
  have haccepted := h.accepted s hmem
  rw [AcceptedStatus.accepted, ← hkeeps.persists status hstatus, htopology] at haccepted
  exact h.pending (Option.some.inj haccepted).symm

theorem ReplacementRun.currentOnly_of_accepts (h : ReplacementRun t previous config run)
    (hmem : s ∈ run) (haccepts : AcceptsTopology t config s) :
    CurrentOnlyReported s t.currentConfiguration ∧ CurrentOnlyQuorum s t.currentConfiguration := by
  obtain ⟨plan, hplan, status, hstatus, htopology⟩ := haccepts
  rcases h.outcome hmem hplan with hkeeps | ⟨hnone, -⟩ | ⟨-, haccepted⟩
  · exact absurd hkeeps (h.not_keeps hmem hstatus htopology)
  · rw [hnone] at hstatus
    exact absurd hstatus List.not_mem_nil
  · exact haccepted

open Classical in
/-- Before the topology is accepted there was a joint quorum. -/
theorem ReplacementRun.exists_jointQuorum (h : ReplacementRun t previous config run)
    (hmem : s ∈ run) (haccepts : AcceptsTopology t config s) :
    ∃ s' ∈ run, JointQuorum s' previous t.currentConfiguration := by
  obtain ⟨before, after, hrun⟩ := List.append_of_mem hmem
  obtain ⟨sender, hsender, hsends⟩ :=
    h.truthful before s after hrun (h.currentOnly_of_accepts hmem haccepts).1
  -- The first snapshot of the run from which such a command is sent.
  have hsome : (run.find? fun s => SendsCurrentOnly t config s).isSome := by
    rw [List.find?_isSome]
    exact ⟨sender, by simp [hrun, hsender], by simpa using hsends⟩
  obtain ⟨first, hfirst⟩ := Option.isSome_iff_exists.mp hsome
  obtain ⟨hsends', pre, post, hsplit, hnone⟩ := List.find?_eq_some_iff_append.mp hfirst
  refine ⟨first, List.mem_of_find?_eq_some hfirst, h.jointQuorum_of_first hsplit ?_ ?_⟩
  · simpa using hsends'
  · simpa using hnone

/-- Under the frozen policy every read quorum meets every write quorum. -/
theorem ReplacementRun.members_lt (h : ReplacementRun t previous config run) (hmem : s ∈ run)
    (haccepts : AcceptsTopology t config s) :
    t.currentConfiguration.members.length <
      t.currentConfiguration.writeQuorum + t.effectivePolicy.readQuorum := by
  obtain ⟨plan, hplan, status, hstatus, htopology⟩ := haccepts
  have hc : s.status.accepted ≠ some t.currentConfiguration := by
    rw [h.accepted s hmem]
    exact fun heq => h.pending (Option.some.inj heq)
  rcases evaluate_cases (h.transition s hmem) (by simp [h.kind]) hc hplan with hkeeps | ⟨hvalid, -⟩
  · exact absurd hkeeps (h.not_keeps hmem hstatus htopology)
  have hordinary := ordinary_of_valid h.kind (h.transition s hmem) hvalid
  simp only [validateOrdinaryTransition, seq_eq_ok] at hordinary
  obtain ⟨-, -, -, hpolicy, hconfiguration, -⟩ := hordinary
  obtain ⟨hpos, hwrite, hread⟩ := validatePolicy_eq_ok.mp hpolicy
  obtain ⟨-, hlength, hquorum⟩ := validateConfiguration_some_eq_ok.mp hconfiguration
  omega

end

/-! ## A replacement of the only secondary -/

namespace SecondaryReplaced

attribute [local instance] checksum noOtherTransitions

def old : ReplicaIdentity :=
  ⟨1, "pod-1", deriveAgentGeneration (deriveInitializationId "uid" 1 "pod-1" "pvc-1")⟩

def new : ReplicaIdentity := ⟨1, "pod-3", "generation-3"⟩

def primary : ReplicaIdentity := ⟨2, "pod-2", "generation-2"⟩

def configuration (number : Int) (secondary : ReplicaIdentity) : ConfigurationDescriptor :=
  .new ⟨1, number⟩ 2 [⟨secondary, .activeSecondary⟩, ⟨primary, .primary⟩] 2

def policy : EffectivePolicy := ⟨2, 2, 1, 30⟩

/-- What is cleaned up of the replaced incarnation. -/
def cleanup : ReplacementCleanup :=
  ⟨"uid", old, .present "pod-1" "pod-1", .present "pvc-1" "pvc-1",
    .present (deriveReplicaEndpointName "uid" old) "endpoint-1"⟩

def transition : TransitionIntent :=
  { plainTransition (cleanup.transitionId .replacement (configuration 2 new).configurationId)
      .replacement 1 policy (some (configuration 1 old).configurationId) (configuration 2 new) with
    buildId := some "build" }

/-- The report of a replica under the pair, or under the current configuration alone. -/
def report (currentOnly : Bool) (m : ConfigurationMember) : AgentReport :=
  { protocolVersion := 9
    resourceUid := "uid"
    identity := m.identity
    processSessionId := "session"
    reportSequence := 1
    role := m.role
    readStatus := if m.role = .primary then .granted else .notPrimary
    writeStatus := if m.role = .primary then .granted else .notPrimary
    healthy := true
    epoch := ⟨1, 2⟩
    previousConfiguration := if currentOnly then none else some (configuration 1 old)
    currentConfiguration := some (configuration 2 new)
    catchUpComplete := decide (m.role = .primary)
    retainedOperationId := some (if currentOnly then replacementCurrentOnlyOperationId transition m
      else replacementInstallOperationId transition m) }

def observed (currentOnly : Bool) (members : List ConfigurationMember) : ObservationSnapshot :=
  let status : AcceptedStatus :=
    { initialized := true
      observedGeneration := 1
      effectivePolicy := some policy
      topology := some ⟨configuration 1 old⟩
      transition := some transition
      pendingReplacementCleanup := some cleanup }
  let s : ObservationSnapshot :=
    { resourceUid := "uid"
      desired := { replicas := 2, image := "image", failoverDelaySeconds := 30 }
      status := status
      replicas := members.foldl (fun replicas m => replicas.insert m.identity.observationKey
        ⟨none, .report (report currentOnly m)⟩) ∅ }
  { s with status := pendingStatus s transition }

/-- Every replica has the authority of the pair. -/
def joint : ObservationSnapshot :=
  observed false ((configuration 1 old).members ++ (configuration 2 new).members)

/-- The members of the new configuration have it alone. -/
def activated : ObservationSnapshot := observed true (configuration 2 new).members

def evaluations : List ObservationSnapshot := [joint, activated]

theorem joint_sends : SendsCurrentOnly transition {} joint := by decide +kernel

theorem activated_accepts : AcceptsTopology transition {} activated := by decide +kernel

theorem evaluations_run : ReplacementRun transition (configuration 1 old) {} evaluations := by
  have hjoint : ∀ m ∈ (configuration 2 new).members, ∀ r ∈ joint.reportAt m.identity,
      r.previousConfiguration ≠ none := by decide +kernel
  refine ⟨rfl, by decide +kernel, by decide +kernel, by decide +kernel, ?_⟩
  intro before s after hrun hreported
  cases before with
  | nil =>
    cases hrun
    obtain ⟨m, hm, r, hr, hat⟩ := hreported
    exact absurd hat.2.1 (hjoint m hm r hr)
  | cons first before =>
    obtain ⟨rfl, -⟩ := List.cons.inj hrun
    exact ⟨joint, List.mem_cons_self, joint_sends⟩

end SecondaryReplaced

end Kuberic.Controller
