import Kuberic.Protocol.Validation.Snapshot

/-!
# Watermarks of reports

The controller keeps, for each observed replica incarnation, the session and the sequence of the
newest report.  A pass normalizes the raw observation against the stored watermarks, merges what it
saw into them and then evaluates the snapshot, which the validation rejects if it has a report that
is not newer than the watermark of its session.  A watermark has room for one session only.

Of the normalization, the part about agents is here; the rest of a snapshot comes from the Kubernetes
objects and is taken as it is.
-/

namespace Kuberic

open Check

/-! ## Normalization -/

/-- The answer of an agent, as the cluster interface returns it; a report has been converted, or
the conversion has failed with a message. -/
inductive RawAgentObservation
  | absent
  | unavailable (message : String)
  | invalid (message : String)
  | report (converted : Except String AgentObservation)

/-- A raw observation: the agents by key, and everything that does not depend on them. -/
structure RawObservation where
  cluster : ObservationSnapshot
  agents : AssocMap ReplicaObservationKey RawAgentObservation

abbrev Watermarks := AssocMap ReplicaObservationKey ReportWatermark

/-- The session and the sequence of a report. -/
def AgentObservation.watermark? : AgentObservation → Option ReportWatermark
  | uninitialized r => some ⟨r.processSessionId, r.reportSequence⟩
  | report r => some ⟨r.processSessionId, r.reportSequence⟩
  | absent | unreachable _ | invalid _ _ => none

/-- The key that a report claims. -/
def AgentObservation.key? : AgentObservation → Option ReplicaObservationKey
  | uninitialized r => some ⟨r.replicaId, r.podUid⟩
  | report r => some r.identity.observationKey
  | absent | unreachable _ | invalid _ _ => none

def AgentObservation.uninitialized? : AgentObservation → Option UninitializedAgentObservation
  | uninitialized r => some r
  | _ => none

/-- What a report contradicts of the Kubernetes objects that it was observed with. -/
def reportMismatch (resourceUid : ResourceUid) (replicaId : ReplicaId) (podUid : Option PodUid)
    (pvcUid : Option PvcUid) : AgentObservation → Option String
  | .uninitialized r =>
    if r.resourceUid ≠ resourceUid then
      some "uninitialized report resource UID differs from the KubericSet"
    else if r.replicaId ≠ replicaId then
      some "uninitialized report replica ID differs from its Pod"
    else if podUid ≠ some r.podUid then
      some "uninitialized report Pod UID differs from Kubernetes"
    else if pvcUid ≠ some r.pvcUid then
      some "uninitialized report PVC UID differs from Kubernetes"
    else none
  | .report r =>
    if r.resourceUid ≠ resourceUid then some "agent report resource UID differs from the KubericSet"
    else if r.identity.replicaId ≠ replicaId then
      some "agent report replica ID differs from its Pod"
    else if ∃ uid ∈ podUid, uid ≠ r.identity.instanceId then
      some "agent identity differs from the current Pod UID"
    else none
  | .absent | .unreachable _ | .invalid _ _ => none

/-- The report is older than the watermark of its session. -/
def Regressed (previous : Watermarks) (o : AgentObservation) : Prop :=
  ∃ key ∈ o.key?, ∃ w ∈ o.watermark?, ∃ old ∈ previous.get? key,
    old.processSessionId = w.processSessionId ∧ w.reportSequence < old.reportSequence

instance (previous : Watermarks) (o : AgentObservation) : Decidable (Regressed previous o) := by
  unfold Regressed
  infer_instance

def normalizeAgent (raw : RawAgentObservation) (resourceUid : ResourceUid) (replicaId : ReplicaId)
    (podUid : Option PodUid) (pvcUid : Option PvcUid) (previous : Watermarks)
    (switchoverActive : Bool) : AgentObservation :=
  match raw with
  | .absent => .absent
  | .unavailable message => .unreachable message
  | .invalid message | .report (.error message) => .invalid message none
  | .report (.ok observation) =>
    match reportMismatch resourceUid replicaId podUid pvcUid observation with
    | some message => .invalid message observation.uninitialized?
    | none =>
      if Regressed previous observation then
        let message := "agent report sequence regressed within one process session"
        if switchoverActive then .unreachable message else .invalid message none
      else observation

def normalize (raw : RawObservation) (previous : Watermarks) : ObservationSnapshot :=
  let switchoverActive := raw.cluster.status.transition.any fun t => t.kind = .plannedSwitchover
  { raw.cluster with
    replicas := raw.cluster.replicas.mapEntries fun key o =>
      { o with
        agent := normalizeAgent ((raw.agents.get? key).getD .absent) raw.cluster.resourceUid
          key.replicaId (o.kubernetes.bind (·.podUid)) (o.kubernetes.bind (·.pvcUid)) previous
          switchoverActive }
    previousReportWatermarks := previous }

/-! ## Passes -/

/-- The watermark that a snapshot shows for a replica. -/
def ObservationSnapshot.watermarkAt (s : ObservationSnapshot) (key : ReplicaObservationKey) :
    Option ReportWatermark :=
  (s.replicas.get? key).bind (·.agent.watermark?)

def reportWatermarks (s : ObservationSnapshot) : List (ReplicaObservationKey × ReportWatermark) :=
  s.replicas.ascending.filterMap fun e => (e.2.agent.watermark?).map fun w => (e.1, w)

/-- Replace a watermark by one of another session or by a newer one of the same session. -/
def mergeWatermark (merged : Watermarks) (e : ReplicaObservationKey × ReportWatermark) :
    Watermarks :=
  if ∀ existing ∈ merged.get? e.1, existing.processSessionId ≠ e.2.processSessionId ∨
      existing.reportSequence < e.2.reportSequence then
    merged.insert e.1 e.2
  else merged

def mergeWatermarks (previous : Watermarks)
    (observed : List (ReplicaObservationKey × ReportWatermark)) : Watermarks :=
  observed.foldl mergeWatermark previous

/-- The watermarks that a pass leaves. -/
def reconcile (previous : Watermarks) (raw : RawObservation) : Watermarks :=
  mergeWatermarks previous (reportWatermarks (normalize raw previous))

/-- The watermarks of a controller process after its passes over one resource. -/
def watermarksAfter (passes : List RawObservation) : Watermarks := passes.foldl reconcile ∅

/-- The snapshot of a pass after others. -/
def snapshotAfter (passes : List RawObservation) (raw : RawObservation) : ObservationSnapshot :=
  normalize raw (watermarksAfter passes)

/-! ## What a pass keeps -/

/-- The watermark of the key is at least `n` in the session `s`. -/
def CoversReport (key : ReplicaObservationKey) (s : ProcessSessionId) (n : Nat) (w : Watermarks) :
    Prop :=
  ∃ n', w.get? key = some ⟨s, n'⟩ ∧ n ≤ n'

section

variable {key : ReplicaObservationKey} {s : ProcessSessionId} {n : Nat}

theorem mem_ascending_replicas {snapshot : ObservationSnapshot} {o : ReplicaObservation} :
    (key, o) ∈ snapshot.replicas.ascending ↔ snapshot.replicas.get? key = some o :=
  (AssocMap.mem_ascending _ _ _).trans
    ((@AssocMap.get?_eq_some_iff _ _ (_) _ _ _).trans (AssocMap.get?_eq_some_iff _ _ _).symm)

theorem mem_reportWatermarks {snapshot : ObservationSnapshot} {w : ReportWatermark} :
    (key, w) ∈ reportWatermarks snapshot ↔ snapshot.watermarkAt key = some w := by
  simp only [reportWatermarks, List.mem_filterMap, Option.map_eq_some_iff, Prod.mk.injEq,
    ObservationSnapshot.watermarkAt, Option.bind_eq_some_iff, Prod.exists]
  constructor
  · rintro ⟨k, o, hmem, w', hw, rfl, rfl⟩
    exact ⟨o, mem_ascending_replicas.1 hmem, hw⟩
  · rintro ⟨o, ho, hw⟩
    exact ⟨key, o, mem_ascending_replicas.2 ho, w, hw, rfl, rfl⟩

theorem coversReport_of_merge {merged : Watermarks} {m : Nat} (hle : n ≤ m) :
    CoversReport key s n (mergeWatermark merged (key, ⟨s, m⟩)) := by
  unfold mergeWatermark
  split_ifs with h
  · exact ⟨m, by simp, hle⟩
  · push Not at h
    obtain ⟨existing, hexisting, hsession, hsequence⟩ := h
    refine ⟨existing.reportSequence, ?_, hle.trans hsequence⟩
    rw [Option.mem_def] at hexisting
    cases existing
    cases hsession
    exact hexisting

theorem CoversReport.merge {merged : Watermarks} {e : ReplicaObservationKey × ReportWatermark}
    (h : CoversReport key s n merged) (he : e.1 = key → e.2.processSessionId = s) :
    CoversReport key s n (mergeWatermark merged e) := by
  obtain ⟨n', hget, hle⟩ := h
  unfold mergeWatermark
  split_ifs with hreplace
  · by_cases hkey : e.1 = key
    · have hnewer := hreplace ⟨s, n'⟩ (by rw [hkey]; exact hget)
      rw [he hkey] at hnewer
      refine ⟨e.2.reportSequence, ?_, ?_⟩
      · rw [hkey, AssocMap.get?_insert_self, ← he hkey]
      · exact hle.trans (le_of_lt (hnewer.resolve_left (by simp)))
    · exact ⟨n', by rwa [AssocMap.get?_insert_of_ne _ _ (Ne.symm hkey)], hle⟩
  · exact ⟨n', hget, hle⟩

theorem CoversReport.mergeAll {observed : List (ReplicaObservationKey × ReportWatermark)} :
    ∀ {merged : Watermarks}, CoversReport key s n merged →
      (∀ w, (key, w) ∈ observed → w.processSessionId = s) →
      CoversReport key s n (mergeWatermarks merged observed) := by
  induction observed with
  | nil => exact fun h _ => h
  | cons e observed ih =>
    intro merged h hsession
    refine ih (h.merge ?_) fun w hw => hsession w (List.mem_cons_of_mem _ hw)
    rintro rfl
    exact hsession e.2 List.mem_cons_self

theorem coversReport_of_mem {observed : List (ReplicaObservationKey × ReportWatermark)}
    (hsession : ∀ w, (key, w) ∈ observed → w.processSessionId = s)
    (hmem : (key, ⟨s, n⟩) ∈ observed) (merged : Watermarks) :
    CoversReport key s n (mergeWatermarks merged observed) := by
  induction observed generalizing merged with
  | nil => cases hmem
  | cons e observed ih =>
    have hrest : ∀ w, (key, w) ∈ observed → w.processSessionId = s :=
      fun w hw => hsession w (List.mem_cons_of_mem _ hw)
    rcases List.mem_cons.1 hmem with rfl | hmem
    · exact (coversReport_of_merge (le_refl n)).mergeAll hrest
    · exact ih hrest hmem _

theorem coversReport_of_reconcile {previous : Watermarks} {raw : RawObservation}
    (h : (normalize raw previous).watermarkAt key = some ⟨s, n⟩) :
    CoversReport key s n (reconcile previous raw) := by
  refine coversReport_of_mem ?_ (mem_reportWatermarks.2 h) previous
  intro w hw
  rw [mem_reportWatermarks, h, Option.some.injEq] at hw
  rw [← hw]

/-- A pass that sees no other session of the replica. -/
theorem CoversReport.reconcile {previous : Watermarks} {raw : RawObservation}
    (h : CoversReport key s n previous)
    (hsession : ∀ w, (normalize raw previous).watermarkAt key = some w → w.processSessionId = s) :
    CoversReport key s n (reconcile previous raw) :=
  h.mergeAll fun w hw => hsession w (mem_reportWatermarks.1 hw)

theorem watermarksAfter_append_singleton (passes : List RawObservation) (raw : RawObservation) :
    watermarksAfter (passes ++ [raw]) = Kuberic.reconcile (watermarksAfter passes) raw := by
  simp [watermarksAfter]

/-- The watermark of a replica after a report, and after passes that see no other session of it. -/
theorem coversReport_after {before between : List RawObservation} {raw : RawObservation}
    (hfirst : (snapshotAfter before raw).watermarkAt key = some ⟨s, n⟩)
    (hbetween : ∀ pre x post w, between = pre ++ x :: post →
      (snapshotAfter (before ++ raw :: pre) x).watermarkAt key = some w → w.processSessionId = s) :
    CoversReport key s n (watermarksAfter (before ++ raw :: between)) := by
  induction between using List.reverseRecOn with
  | nil =>
    rw [watermarksAfter_append_singleton]
    exact coversReport_of_reconcile hfirst
  | append_singleton between x ih =>
    rw [← List.cons_append, ← List.append_assoc, watermarksAfter_append_singleton]
    refine CoversReport.reconcile (ih ?_) fun w hw => hbetween between x [] w rfl hw
    intro pre y post w heq hw
    exact hbetween pre y (post ++ [x]) w (by simp [heq]) hw

theorem validateSnapshot_ne_ok_of_stale [Sha256] {snapshot : ObservationSnapshot} {m : Nat}
    (hold : CoversReport key s n snapshot.previousReportWatermarks)
    (hnew : snapshot.watermarkAt key = some ⟨s, m⟩) (hle : m ≤ n) :
    validateSnapshot snapshot ≠ .ok () := by
  intro hvalid
  simp only [validateSnapshot, seq_eq_ok, each_eq_ok] at hvalid
  obtain ⟨-, -, -, -, hreplicas, -⟩ := hvalid
  obtain ⟨o, ho, hw⟩ := Option.bind_eq_some_iff.1 hnew
  have hobservation := hreplicas (key, o) (mem_ascending_replicas.2 ho)
  obtain ⟨n', hget, hle'⟩ := hold
  -- Both kinds of report go through the same check of the sequence.
  have hsequence : validateReportSequence snapshot key s m = .ok () := by
    simp only [validateObservation, seq_eq_ok] at hobservation
    obtain ⟨-, hobservation⟩ := hobservation
    cases hagent : o.agent with
    | absent | unreachable | invalid =>
      simp [hagent, AgentObservation.watermark?] at hw
    | uninitialized r =>
      simp only [hagent, AgentObservation.watermark?, Option.some.injEq,
        ReportWatermark.mk.injEq] at hw
      simp only [hagent, validateUninitialized, seq_eq_ok, hw] at hobservation
      exact hobservation.2.2.1
    | report r =>
      simp only [hagent, AgentObservation.watermark?, Option.some.injEq,
        ReportWatermark.mk.injEq] at hw
      simp only [hagent, validateReport, seq_eq_ok, hw] at hobservation
      exact hobservation.2.2.1
  have hstale : m ≤ n' := hle.trans hle'
  simp [validateReportSequence, hget, hstale, Option.filter] at hsequence

/-- No stale report is acted on, as long as one session of the replica reports: after a report of
session `s` with sequence `n`, and with no report of another session of the replica in between, a
snapshot with a report of `s` that is not above `n` is rejected. -/
theorem stale_report_rejected [Sha256] {before between : List RawObservation}
    {raw later : RawObservation} {m : Nat}
    (hfirst : (snapshotAfter before raw).watermarkAt key = some ⟨s, n⟩)
    (hbetween : ∀ pre x post w, between = pre ++ x :: post →
      (snapshotAfter (before ++ raw :: pre) x).watermarkAt key = some w → w.processSessionId = s)
    (hlater : (snapshotAfter (before ++ raw :: between) later).watermarkAt key = some ⟨s, m⟩)
    (hle : m ≤ n) :
    validateSnapshot (snapshotAfter (before ++ raw :: between) later) ≠ .ok () :=
  validateSnapshot_ne_ok_of_stale (coversReport_after hfirst hbetween) hlater hle

end

/-! ## Two sessions of one replica

The single replica reports in session `a`, then in session `b`, and then an older report of `a`
arrives. -/

namespace AlternatingSessions

attribute [local instance] checksum

def identity : ReplicaIdentity := ⟨1, "pod", "generation"⟩

def configuration : ConfigurationDescriptor := .new ⟨1, 1⟩ 1 [⟨identity, .primary⟩] 1

def report (session : ProcessSessionId) (sequence : Nat) : AgentReport :=
  { protocolVersion := 1
    resourceUid := "uid"
    identity := identity
    processSessionId := session
    reportSequence := sequence
    role := .primary
    readStatus := .granted
    writeStatus := .granted
    healthy := true
    epoch := ⟨1, 1⟩
    currentConfiguration := some configuration }

def cluster : ObservationSnapshot :=
  { resourceUid := "uid"
    desired := { replicas := 1, image := "image", failoverDelaySeconds := 30 }
    status :=
      { initialized := true
        observedGeneration := 1
        effectivePolicy := some ⟨1, 1, 1, 30⟩
        topology := some ⟨configuration⟩ }
    replicas := (∅ : AssocMap _ _).insert identity.observationKey ⟨none, .absent⟩ }

/-- A pass that observes one report. -/
def pass (session : ProcessSessionId) (sequence : Nat) : RawObservation :=
  ⟨cluster, (∅ : AssocMap _ _).insert identity.observationKey
    (.report (.ok (.report (report session sequence))))⟩

/-- Report 3 of session `a` is accepted after report 5 of the same session. -/
theorem older_report_accepted :
    (snapshotAfter [] (pass "a" 5)).watermarkAt identity.observationKey = some ⟨"a", 5⟩ ∧
      (snapshotAfter [pass "a" 5, pass "b" 1] (pass "a" 3)).watermarkAt identity.observationKey =
        some ⟨"a", 3⟩ ∧
      validateSnapshot (snapshotAfter [pass "a" 5, pass "b" 1] (pass "a" 3)) = .ok () := by
  decide +kernel

/-- A pass that reaches no agent. -/
def silent : RawObservation := ⟨cluster, ∅⟩

theorem stale_report_rejected_repeated :
    validateSnapshot (snapshotAfter [pass "a" 5, silent] (pass "a" 5)) ≠ .ok () := by
  have hfirst : (snapshotAfter [] (pass "a" 5)).watermarkAt identity.observationKey =
      some ⟨"a", 5⟩ := by decide +kernel
  have hsilent : (snapshotAfter [pass "a" 5] silent).watermarkAt identity.observationKey = none := by
    decide +kernel
  have hagain : (snapshotAfter [pass "a" 5, silent] (pass "a" 5)).watermarkAt
      identity.observationKey = some ⟨"a", 5⟩ := by decide +kernel
  refine @stale_report_rejected _ _ _ _ [] [silent] _ _ _ hfirst ?_ hagain (le_refl 5)
  rintro (_ | ⟨y, pre⟩) x post w hsplit hw
  · obtain rfl := (List.cons.inj hsplit).1
    rw [List.nil_append, hsilent] at hw
    cases hw
  · simp at hsplit

end AlternatingSessions

end Kuberic
