import Kuberic.Dex.Dispatch

/-!
# Durable replay and direct execution

Running a workflow once against a function from activities to results gives a sequence of requested
activities and, if the workflow ends, an outcome.  The activities that hosts expose, however their
turns, crashes and lost races are ordered, are the first of that sequence, and a terminal checkpoint
holds that outcome.  A history that the workflow does not request is not continued.
-/

namespace Kuberic.Dex

/-- The specification that is dispatched for a request, when plain activities are prepared by
`prepare`. -/
def Request.prepared (prepare : ActivitySpec → ActivitySpec) : Request → ActivitySpec
  | .activity spec _ => prepare spec
  | .orchestrated spec => spec
  | .effect spec _ => spec

/-- A world that a workflow is run against: how requests are prepared, and what activities give. -/
structure World where
  prepare : ActivitySpec → ActivitySpec
  perform : LogicalActivityId → ActivityResult

/-- The activities that a workflow requests when it is run directly, and its outcome, within `fuel`
actions and after the results so far. -/
def Workflow.direct (w : Workflow) (execution : ExecutionSpec) (world : World) :
    Nat → List ActivityResult → List LogicalActivityId × Option TerminalOutcome
  | 0, _ => ([], none)
  | fuel + 1, results =>
    match w execution.workflowInput results with
    | .complete outcome => ([], some outcome)
    | .suspend => ([], none)
    | .await request =>
      let activity : LogicalActivityId :=
        ⟨execution.executionId, results.length, request.prepared world.prepare⟩
      let rest := Workflow.direct w execution world fuel (results ++ [world.perform activity])
      (activity :: rest.1, rest.2)

/-! ## Requested sequences -/

section

variable {w : Workflow} {execution : ExecutionSpec} {world : World} {ids : List LogicalActivityId}

/-- Each activity of the list is the one requested after the results of those before it. -/
def Requested (w : Workflow) (execution : ExecutionSpec) (world : World)
    (ids : List LogicalActivityId) : Prop :=
  ∀ i id, ids[i]? = some id → ∃ request,
    w execution.workflowInput ((ids.take i).map world.perform) = .await request ∧
      id = ⟨execution.executionId, i, request.prepared world.prepare⟩

theorem Requested.direct_eq (h : Requested w execution world ids) (fuel : Nat) {k : Nat}
    (hk : k ≤ ids.length) :
    w.direct execution world (ids.length - k + fuel) ((ids.take k).map world.perform) =
      (ids.drop k ++ (w.direct execution world fuel (ids.map world.perform)).1,
        (w.direct execution world fuel (ids.map world.perform)).2) := by
  induction hn : ids.length - k generalizing k with
  | zero =>
    obtain rfl : k = ids.length := by omega
    simp
  | succ n ih =>
    have hlt : k < ids.length := by omega
    obtain ⟨request, hrequest, hid⟩ := h k ids[k] (List.getElem?_eq_getElem hlt)
    have hlength : ((ids.take k).map world.perform).length = k := by simp; omega
    have htake : (ids.take k).map world.perform ++ [world.perform ids[k]] =
        (ids.take (k + 1)).map world.perform := by
      rw [← List.map_singleton, ← List.map_append, List.take_append_getElem]
    rw [Nat.add_right_comm, Workflow.direct, hrequest]
    simp only [hlength, ← hid, htake]
    rw [ih (by omega) (by omega), List.drop_eq_getElem_cons hlt]
    rfl

theorem Requested.concat (h : Requested w execution world ids) {request : Request}
    {id : LogicalActivityId}
    (hrequest : w execution.workflowInput (ids.map world.perform) = .await request)
    (hid : id = ⟨execution.executionId, ids.length, request.prepared world.prepare⟩) :
    Requested w execution world (ids ++ [id]) := by
  intro i id' hid'
  rcases Nat.lt_trichotomy i ids.length with hlt | rfl | hgt
  · rw [List.getElem?_append_left hlt] at hid'
    rw [List.take_append_of_le_length hlt.le]
    exact h i id' hid'
  · rw [List.getElem?_concat_length] at hid'
    cases hid'
    exact ⟨request, by simpa using hrequest, hid⟩
  · rw [List.getElem?_eq_none (by simp; omega)] at hid'
    cases hid'

theorem Requested.left {ids' : List LogicalActivityId}
    (h : Requested w execution world (ids ++ ids')) : Requested w execution world ids := by
  intro i id hid
  have hlt := (List.getElem?_eq_some_iff.1 hid).1
  have hrequest := h i id (by rwa [List.getElem?_append_left hlt])
  rwa [List.take_append_of_le_length hlt.le] at hrequest

theorem Requested.isPrefix_direct (h : Requested w execution world ids) {n : Nat}
    (hn : ids.length ≤ n) : ids <+: (w.direct execution world n []).1 := by
  have heq := h.direct_eq (n - ids.length) (Nat.zero_le _)
  rw [Nat.sub_zero, Nat.add_sub_cancel' hn] at heq
  rw [List.take_zero, List.map_nil, List.drop_zero] at heq
  rw [heq]
  exact List.prefix_append _ _

theorem Requested.direct_complete (h : Requested w execution world ids) {outcome : TerminalOutcome}
    (hcomplete : w execution.workflowInput (ids.map world.perform) = .complete outcome) :
    w.direct execution world (ids.length + 1) [] = (ids, some outcome) := by
  have heq := h.direct_eq 1 (Nat.zero_le _)
  simp only [Nat.sub_zero, List.take_zero, List.map_nil, List.drop_zero, Workflow.direct,
    hcomplete, List.append_nil] at heq
  exact heq

end

/-! ## Steps follow the direct run -/

/-- The activities of the records. -/
def Progress.ids (executionId : ExecutionId) (p : Progress) : List LogicalActivityId :=
  p.records.map (·.logicalId executionId)

/-- The distinct activities that were exposed, in the order of their first exposure. -/
def exposedActivities (exposures : List DispatchPermit) : List LogicalActivityId :=
  (exposures.map (·.activity)).eraseDups

/-- The operation prepares new plain activities by the world's preparation, or not at all. -/
def Operation.PreparesBy (world : World) (executionId : ExecutionId) (op : Operation) : Prop :=
  ∀ ctx, op.context? executionId = some ctx → ∀ spec prepared,
    ctx.resolver spec none = .ok prepared → prepared = world.prepare spec

/-- What the operation records for a completed activity is what the world gives. -/
def Operation.RecordsBy (world : World) (executionId : ExecutionId) (op : Operation)
    (p : Progress) : Prop :=
  ∀ r ∈ p.records, op.activity? = some (r.logicalId executionId) → r.state.isCompleted = true →
    ∀ value, op.value? = some value → value = world.perform (r.logicalId executionId)

/-- An execution is a part of the direct run: its records are requested there, completed records have
the results of that run, all records are exposed but perhaps a scheduled last one, and the outcome is
that of the run. -/
structure Progress.Follows (w : Workflow) (execution : ExecutionSpec) (world : World)
    (p : Progress) : Prop where
  requested : Requested w execution world (p.ids execution.executionId)
  values : ∀ r ∈ p.records, r.state.isCompleted = true →
    r.value? = some (world.perform (r.logicalId execution.executionId))
  exposed : exposedActivities p.exposures = p.ids execution.executionId ∨
    ∃ init r, p.records = init ++ [r] ∧ r.state = .scheduled ∧
      exposedActivities p.exposures = init.map (·.logicalId execution.executionId)
  outcome : ∀ outcome, p.outcome = some outcome →
    w execution.workflowInput ((p.ids execution.executionId).map world.perform) = .complete outcome

namespace Progress

variable {w : Workflow} {execution : ExecutionSpec} {world : World} {op : Operation}
  {p p' : Progress} {records init : List ActivityRecord} {r r' : ActivityRecord}
  {exposures : List DispatchPermit}

theorem Follows.nil : Follows w execution world ⟨[], [], none⟩ :=
  ⟨by simp [Requested, ids], fun _ h => absurd h List.not_mem_nil, Or.inl rfl, fun _ h => by cases h⟩

theorem Follows.replays (h : Follows w execution world p) {ctx : WorkflowContext} {action : Action}
    (hreplays : ReplaysAll ctx w execution.workflowInput p.records action) :
    w execution.workflowInput ((p.ids execution.executionId).map world.perform) = action ∧
      ∀ r ∈ p.records, r.state.isCompleted = true := by
  obtain ⟨results, hreplays, haction⟩ := hreplays
  obtain ⟨_, rfl, hvalues⟩ := hreplays.values
  have hcompleted : ∀ r ∈ p.records, r.state.isCompleted = true := by
    intro r hr
    have hmem : r.value? ∈ results.map some := hvalues ▸ List.mem_map_of_mem hr
    obtain ⟨value, -, hvalue⟩ := List.mem_map.1 hmem
    exact ActivityRecord.isCompleted_of_value? (by simp [← hvalue])
  refine ⟨?_, hcompleted⟩
  have heq : results.map some = ((p.ids execution.executionId).map world.perform).map some := by
    rw [← hvalues, ids, List.map_map, List.map_map]
    exact List.map_congr_left fun r hr => h.values r hr (hcompleted r hr)
  rw [← List.map_injective_iff.2 (Option.some_injective _) heq]
  exact haction

theorem Follows.step_request (h : Follows w execution world ⟨records, exposures, none⟩)
    {ctx : WorkflowContext} {request : Request}
    (hcontext : op.context? execution.executionId = some ctx)
    (hprepares : op.PreparesBy world execution.executionId)
    (hreplays : ReplaysAll ctx w execution.workflowInput records (.await request))
    (hnew : ctx.NewRecord request records.length r) :
    Follows w execution world ⟨records ++ [r], exposures, none⟩ := by
  obtain ⟨haction, hcompleted⟩ := h.replays hreplays
  have hspec : r.spec = request.prepared world.prepare := by
    have hresolves := hnew.resolves
    cases request with
    | activity spec completionClass => exact hprepares ctx hcontext spec r.spec hresolves
    | orchestrated | effect => exact hresolves
  refine ⟨?_, ?_, Or.inr ⟨records, r, rfl, hnew.state, ?_⟩, nofun⟩
  · have hid : r.logicalId execution.executionId =
        ⟨execution.executionId, records.length, request.prepared world.prepare⟩ := by
      rw [ActivityRecord.logicalId, hnew.sequence, hspec]
    simpa [ids] using h.requested.concat haction (by simpa [ids] using hid)
  · intro s hs hs'
    rcases List.mem_append.1 hs with hs | hs
    · exact h.values s hs hs'
    · rw [List.mem_singleton.1 hs, hnew.state] at hs'
      cases hs'
  · obtain hexposed | ⟨init, s, heq, hscheduled, -⟩ := h.exposed
    · exact hexposed
    · have hs := hcompleted s (by simp [show records = init ++ [s] from heq])
      rw [hscheduled] at hs
      cases hs

theorem eraseDups_concat {α : Type} [DecidableEq α] (l : List α) (a : α) :
    (l ++ [a]).eraseDups = if a ∈ l then l.eraseDups else l.eraseDups ++ [a] := by
  rw [List.eraseDups_append]
  split_ifs with h <;> simp [List.removeAll, List.eraseDups_cons, h]

theorem exposedActivities_concat (permit : DispatchPermit) :
    exposedActivities (exposures ++ [permit]) =
      if permit.activity ∈ exposedActivities exposures then exposedActivities exposures
      else exposedActivities exposures ++ [permit.activity] := by
  simp only [exposedActivities, List.map_append, List.map_singleton, eraseDups_concat,
    List.mem_eraseDups]

theorem Follows.step_expose (h : Follows w execution world ⟨init ++ [r], exposures, none⟩)
    (hledger : Ledger execution.executionId ⟨init ++ [r], exposures, none⟩) (attemptId : AttemptId) :
    Follows w execution world ⟨init ++ [r.exposed attemptId],
      exposures ++ [r.permit execution.executionId attemptId], none⟩ := by
  have hids : ids execution.executionId ⟨init ++ [r.exposed attemptId],
      exposures ++ [r.permit execution.executionId attemptId], none⟩ =
        ids execution.executionId ⟨init ++ [r], exposures, none⟩ := by
    simp [ids, ActivityRecord.logicalId, ActivityRecord.exposed]
  refine ⟨hids ▸ h.requested, ?_, Or.inl ?_, fun _ h => by cases h⟩
  · intro s hs hs'
    rcases List.mem_append.1 hs with hs | hs
    · exact h.values s (List.mem_append_left _ hs) hs'
    · rw [List.mem_singleton.1 hs] at hs'
      cases hs'
  · rw [hids, exposedActivities_concat]
    have hactivity : (r.permit execution.executionId attemptId).activity =
        r.logicalId execution.executionId := rfl
    rw [hactivity]
    obtain hexposed | ⟨init', s, heq, -, hexposed⟩ := h.exposed
    · rw [if_pos (by simp [hexposed, ids]), hexposed]
    · obtain ⟨rfl, hr⟩ := List.append_inj' heq rfl
      cases hr
      have hnew : r.logicalId execution.executionId ∉
          init.map (·.logicalId execution.executionId) := by
        intro hmem
        obtain ⟨s, hs, hid⟩ := List.mem_map.1 hmem
        exact logicalId_ne_last hledger.valid hs hid
      rw [if_neg (by rwa [hexposed]), hexposed, ids, List.map_append, List.map_singleton]

theorem Follows.step_observe (h : Follows w execution world ⟨init ++ [r], exposures, none⟩)
    (hobserved : Observed execution.executionId op r r')
    (hrecords : op.RecordsBy world execution.executionId ⟨init ++ [r'], exposures, none⟩) :
    Follows w execution world ⟨init ++ [r'], exposures, none⟩ := by
  have hid : r'.logicalId execution.executionId = r.logicalId execution.executionId := by
    simp [ActivityRecord.logicalId, hobserved.sequence, hobserved.spec]
  have hids : ids execution.executionId ⟨init ++ [r'], exposures, none⟩ =
      ids execution.executionId ⟨init ++ [r], exposures, none⟩ := by
    simp [ids, hid]
  refine ⟨hids ▸ h.requested, ?_, Or.inl ?_, fun _ h => by cases h⟩
  · intro s hs hcompleted
    rcases List.mem_append.1 hs with hs | hs
    · exact h.values s (List.mem_append_left _ hs) hcompleted
    · obtain rfl := List.mem_singleton.1 hs
      obtain ⟨hscheduled, -⟩ | ⟨hne, hvalue⟩ := hobserved.state
      · rw [hscheduled] at hcompleted
        cases hcompleted
      · obtain ⟨value, hvalue'⟩ := Option.ne_none_iff_exists'.1 hne
        rw [hvalue'] at hvalue ⊢
        have hactivity : op.activity? = some (s.logicalId execution.executionId) :=
          hobserved.activity.trans (congrArg some hid.symm)
        exact congrArg some (hrecords s (by simp) hactivity hcompleted value hvalue.symm)
  · rw [hids]
    obtain hexposed | ⟨init', s, heq, hscheduled, -⟩ := h.exposed
    · exact hexposed
    · obtain ⟨-, hr⟩ := List.append_inj' heq rfl
      cases hr
      have hexposed := hobserved.exposed
      simp [ActivityRecord.exposedAttempt?, hscheduled] at hexposed

theorem Follows.step (h : Follows w execution world p) (hledger : Ledger execution.executionId p)
    (hstep : Step w execution op p p') (hprepares : op.PreparesBy world execution.executionId)
    (hrecords : op.RecordsBy world execution.executionId p') : Follows w execution world p' := by
  cases hstep with
  | request hcontext hreplays hnew => exact h.step_request hcontext hprepares hreplays hnew
  | expose => exact h.step_expose hledger _
  | observe hobserved => exact h.step_observe hobserved hrecords
  | finish _ hreplays =>
    refine ⟨h.requested, h.values, h.exposed, ?_⟩
    rintro _ ⟨⟩
    exact (h.replays hreplays).1

theorem RecordsBy.of_persists (h : op.RecordsBy world execution.executionId p')
    (hpersists : Persists execution.executionId p p') :
    op.RecordsBy world execution.executionId p := by
  intro r hr hactivity hcompleted
  obtain ⟨i, hi⟩ := List.getElem?_of_mem hr
  obtain ⟨r', hr', -, -, heq⟩ := hpersists i r hi
  obtain rfl := heq hcompleted
  exact h r' (List.mem_of_getElem? hr') hactivity hcompleted

theorem Follows.advance (h : Follows w execution world p) (hledger : Ledger execution.executionId p)
    (hadvance : Advance w execution op p p') (hprepares : op.PreparesBy world execution.executionId)
    (hrecords : op.RecordsBy world execution.executionId p') : Follows w execution world p' := by
  induction hadvance with
  | single hstep => exact h.step hledger hstep hprepares hrecords
  | tail hadvance hstep ih =>
    exact (ih (RecordsBy.of_persists hrecords hstep.persists)).step (hledger.advance hadvance) hstep
      hprepares hrecords

theorem Advance.outcome_eq_none (h : Advance w execution op p p')
    (hcontext : op.context? execution.executionId = none) : p'.outcome = none := by
  have hstep : ∀ {q q' : Progress}, Step w execution op q q' → q'.outcome = none := by
    intro q q' hstep
    cases hstep with
    | request | expose | observe => rfl
    | finish hsome => simp [hcontext] at hsome
  cases h with
  | single h => exact hstep h
  | tail _ h => exact hstep h

end Progress

/-! ## Runs follow the direct run -/

/-- An accepted call completes the activity that it observes.  Only an effect observation may find
its activity to be ready for another attempt instead. -/
def Call.Completes (executionId : ExecutionId) (call : Call) : Prop :=
  call.operation.reschedules = false ∨ ∃ r, call.proposal.checkpoint.Records r ∧
    call.operation.activity? = some (r.logicalId executionId) ∧ r.state.isCompleted = true

/-- The result that an observation records is the world's result of the activity. -/
def Call.RecordsBy (world : World) (executionId : ExecutionId) (call : Call) : Prop :=
  ∀ activity value, call.operation.activity? = some activity → call.operation.value? = some value →
    call.Completes executionId → value = world.perform activity

section

variable {w : Workflow} {execution : ExecutionSpec} {world : World} {log : List Call} {p : Progress}

theorem Call.RecordsBy.operation {call : Call} {q : Progress}
    (h : call.RecordsBy world execution.executionId) (htraces : Traces w execution (log ++ [call]) p)
    (hadvance : Progress.Advance w execution call.operation q p) :
    call.operation.RecordsBy world execution.executionId p := by
  intro r hr hactivity hcompleted value hvalue
  refine h _ value hactivity hvalue ?_
  cases hreschedules : call.operation.reschedules with
  | false => exact Or.inl hreschedules
  | true =>
    refine Or.inr ⟨r, htraces.records_of_mem ?_ hr, hactivity, hcompleted⟩
    by_cases hcontext : call.operation.context? execution.executionId = none
    · exact hadvance.outcome_eq_none hcontext
    · rw [Operation.reschedules_eq_false hcontext] at hreschedules
      cases hreschedules

theorem Traces.follows (h : Traces w execution log p)
    (hprepares : ∀ call ∈ log, call.operation.PreparesBy world execution.executionId)
    (hrecords : ∀ call ∈ log, call.RecordsBy world execution.executionId) :
    p.Follows w execution world := by
  induction h with
  | nil => exact .nil
  | @concat log call p p' payload htraces hdecided hadvance hexposures hcheckpoint hrepresents ih =>
    have hfollows := ih (fun c hc => hprepares c (List.mem_append_left _ hc))
      (fun c hc => hrecords c (List.mem_append_left _ hc))
    have htraces' : Traces w execution (log ++ [call]) p' :=
      .concat htraces hdecided hadvance hexposures hcheckpoint hrepresents
    exact hfollows.advance htraces.ledger hadvance (hprepares call (by simp))
      ((hrecords call (by simp)).operation htraces' hadvance)

theorem Traces.outcome_of_mem (h : Traces w execution log p) {call : Call} (hcall : call ∈ log)
    {payload : CheckpointPayload} (hpayload : call.proposal.checkpoint.payload? = some payload)
    {outcome : TerminalOutcome} {count : Nat} {metadata : Option CompletionMetadata}
    (hstate : payload.state = .terminal outcome count metadata) :
    ∃ i q, Traces w execution (log.take i) q ∧ q.outcome = some outcome ∧ q.records.length = count := by
  obtain ⟨i, hi⟩ := List.getElem?_of_mem hcall
  obtain ⟨q, q', hat⟩ := h.at hi
  have hafter := hat.after
  rw [take_succ_of_getElem? hi] at hafter
  obtain ⟨payload', hcheckpoint, hrepresents⟩ := hafter.represents
  rw [hcheckpoint, CheckpointEnvelope.payload_encode] at hpayload
  cases hpayload
  refine ⟨i + 1, q', hat.after, ?_⟩
  unfold Progress.Represents at hrepresents
  rw [hstate] at hrepresents
  cases houtcome : q'.outcome with
  | none => simp [houtcome] at hrepresents
  | some outcome' =>
    simp only [houtcome, CheckpointState.terminal.injEq] at hrepresents
    obtain ⟨-, rfl, rfl, -⟩ := hrepresents
    exact ⟨rfl, rfl⟩

end

theorem Traces.requested_exposed (h : Traces w execution log p)
    (hfollows : p.Follows w execution world) :
    Requested w execution world
      (exposedActivities (log.flatMap (·.proposal.acceptance.permits))) := by
  rw [← h.exposures]
  obtain hexposed | ⟨init, r, hrecords, -, hexposed⟩ := hfollows.exposed
  · rw [hexposed]
    exact hfollows.requested
  · have hrequested := hfollows.requested
    rw [Progress.ids, hrecords, List.map_append] at hrequested
    rw [hexposed]
    exact hrequested.left

/-! ## Histories that are not requested -/

/-- Some record is not the one that the workflow requests at its position, after the recorded results
of the records before it: its specification or class differs, or, for a strict effect, its command; or
the workflow completes or suspends there. -/
def Diverges (ctx : WorkflowContext) (w : Workflow) (input : ExactBytes)
    (records : List ActivityRecord) : Prop :=
  ∃ i r, records[i]? = some r ∧ ¬∃ request,
    w input ((records.take i).filterMap (·.value?)) = .await request ∧ ctx.Compares request r

/-- The evaluation schedules an activity or completes the workflow. -/
def Evaluation.Proceeds : Evaluation → Prop
  | .scheduled .. | .complete .. => True
  | _ => False

theorem ReplaysAll.not_diverges {ctx : WorkflowContext} {w : Workflow} {input : ExactBytes}
    {records : List ActivityRecord} {action : Action} (h : ReplaysAll ctx w input records action) :
    ¬Diverges ctx w input records := by
  rintro ⟨i, r, hr, hnot⟩
  obtain ⟨results, hreplays, -⟩ := h
  exact hnot (by simpa using hreplays.requests hr)

theorem evaluateInternal_of_diverges {w : Workflow} {execution : ExecutionSpec}
    {checkpoint : CheckpointEnvelope} {limits : CheckpointLimits} {resolver : PreparedActivityResolver}
    {effectResolver : Option PreparedEffectResolver} {payload : CheckpointPayload}
    {records : List ActivityRecord} (hpayload : checkpoint.payload? = some payload)
    (hstate : payload.state = .active records)
    (hdiverges : Diverges ⟨execution.executionId, resolver, effectResolver⟩ w execution.workflowInput
      records) :
    ¬(evaluateInternal w execution (some checkpoint) limits resolver effectResolver).Proceeds := by
  obtain hstops | ⟨payload', hload, hevaluated⟩ :=
    evaluateInternal_cases w execution (some checkpoint) limits resolver effectResolver
  · generalize evaluateInternal w execution _ limits resolver effectResolver = evaluation at hstops
    cases evaluation <;> first | exact id | exact hstops.elim
  · have hpayload' := (decodeAndValidate_eq_ok hload).1
    rw [hpayload] at hpayload'
    cases hpayload'
    generalize evaluateInternal w execution _ limits resolver effectResolver = evaluation at hevaluated
    cases hevaluated with
    | stopped hstops => cases evaluation <;> first | exact id | exact hstops.elim
    | pending => exact id
    | scheduled hstate' hreplays | complete hstate' hreplays =>
      rw [hstate] at hstate'
      cases hstate'
      exact absurd hdiverges hreplays.not_diverges

theorem durableReplay_follows_direct_run (w : Workflow) (execution : ExecutionSpec) :
    (∀ world events s, System.run w execution events = some s →
      (∀ call ∈ s.log, call.operation.PreparesBy world execution.executionId) →
      (∀ call ∈ s.log, call.RecordsBy world execution.executionId) →
      (∀ n, (exposedActivities (s.log.flatMap (·.proposal.acceptance.permits))).length ≤ n →
        exposedActivities (s.log.flatMap (·.proposal.acceptance.permits)) <+:
          (w.direct execution world n []).1) ∧
      ∀ call ∈ s.log, ∀ payload outcome count metadata,
        call.proposal.checkpoint.payload? = some payload →
        payload.state = .terminal outcome count metadata →
        ∃ n ids, w.direct execution world n [] = (ids, some outcome) ∧ ids.length = count) ∧
    ∀ checkpoint limits resolver effectResolver payload records,
      checkpoint.payload? = some payload → payload.state = .active records →
      Diverges ⟨execution.executionId, resolver, effectResolver⟩ w execution.workflowInput records →
      ¬(evaluateInternal w execution (some checkpoint) limits resolver effectResolver).Proceeds := by
  refine ⟨fun world events s hrun hprepares hrecords => ?_,
    fun _ _ _ _ _ _ => evaluateInternal_of_diverges⟩
  obtain ⟨p, htraces⟩ := (System.Inv.run hrun).traces
  have hfollows := htraces.follows hprepares hrecords
  refine ⟨fun n hn => (htraces.requested_exposed hfollows).isPrefix_direct hn, ?_⟩
  intro call hcall payload outcome count metadata hpayload hstate
  obtain ⟨i, q, hq, houtcome, hcount⟩ := htraces.outcome_of_mem hcall hpayload hstate
  have hmem : ∀ call ∈ s.log.take i, call ∈ s.log := fun call hcall => List.mem_of_mem_take hcall
  have hq' := hq.follows (fun call hcall => hprepares call (hmem call hcall))
    (fun call hcall => hrecords call (hmem call hcall))
  refine ⟨_, q.ids execution.executionId, hq'.requested.direct_complete (hq'.outcome _ houtcome), ?_⟩
  rw [Progress.ids, List.length_map, hcount]

/-! ## A strict effect replayed as a plain activity -/

namespace PlainReplay

open LateAnswer

/-- A workflow that requests a plain activity of the class of the strict effect. -/
def plain : Workflow := fun _ results =>
  match results with
  | [] => .await (.activity spec (some .externalEffect))
  | _ => .complete (.succeeded [])

theorem evaluate_completed {w : Workflow} {checkpoint : CheckpointEnvelope} {r : ActivityRecord}
    {execution : ExecutionSpec} {limits : CheckpointLimits} {payload : CheckpointPayload}
    {request : Request} {value : ActivityResult} {outcome : TerminalOutcome}
    (hdecode : checkpoint.decodeAndValidate execution limits = .ok payload)
    (hstate : payload.state = .active [r])
    (haction : w execution.workflowInput [] = .await request)
    (hpoll : WorkflowContext.poll ⟨execution.executionId, identityActivityResolver, none⟩ 0 (some r)
      request = .ok value)
    (hcomplete : w execution.workflowInput [value] = .complete outcome)
    (hencode : CheckpointEnvelope.encodeWithLimits payload limits = .ok checkpoint) :
    evaluate w execution (some checkpoint) limits = .complete outcome 1 checkpoint := by
  simp [evaluate, evaluatePrepared, evaluateInternal, loadPayload, hdecode, evaluatePayload, hstate,
    pollWorkflow, haction, hpoll, hcomplete, evaluateReady, hencode]

/-- The record has a prepared command and the request at its position has none, but the workflow
completes. -/
theorem evaluate_plain_complete :
    completed.preparedCommand = some command ∧
      plain executionSpec.workflowInput [] = .await (.activity spec (some .externalEffect)) ∧
      (CheckpointEnvelope.encode (payload [completed])).payload? = some (payload [completed]) ∧
      evaluate plain executionSpec (some (.encode (payload [completed]))) limits =
        .complete (.succeeded []) 1 (.encode (payload [completed])) :=
  ⟨rfl, rfl, CheckpointEnvelope.payload_encode _,
    evaluate_completed stores_completed.2 rfl rfl rfl rfl stores_completed.1⟩

/-- Every activity gives no bytes. -/
def world : World := ⟨id, fun _ => .ok []⟩

theorem diverges_completed : Diverges ⟨executionSpec.executionId, identityActivityResolver, none⟩
    workflow executionSpec.workflowInput [completed] := by
  refine ⟨0, completed, rfl, ?_⟩
  rintro ⟨request, haction, hcompares⟩
  cases haction
  obtain ⟨-, ⟨command, hprepare, -⟩, -⟩ := hcompares
  cases hprepare

theorem durableReplay_follows_direct_run_final :
    (∀ n, 1 ≤ n → exposedActivities (final.log.flatMap (·.proposal.acceptance.permits)) <+:
      (workflow.direct executionSpec world n []).1) ∧
    ¬(evaluateInternal workflow executionSpec (some (.encode (payload [completed]))) limits
      identityActivityResolver none).Proceeds := by
  have hlog : ∀ call ∈ final.log, call = callA ∨ call = callB := fun call hcall => by
    simpa [final, observed, System.setHost] using hcall
  have hprepares : ∀ call ∈ final.log,
      call.operation.PreparesBy world executionSpec.executionId := by
    intro call hcall ctx hcontext spec prepared hresolve
    obtain rfl | rfl := hlog call hcall
    · cases hcontext
      exact (Except.ok.inj hresolve).symm
    · cases hcontext
  have hrecords : ∀ call ∈ final.log, call.RecordsBy world executionSpec.executionId := by
    intro call hcall activity value hactivity hvalue _
    obtain rfl | rfl := hlog call hcall
    · cases hvalue
    · cases hvalue
      rfl
  have hdirect := durableReplay_follows_direct_run workflow executionSpec
  exact ⟨(hdirect.1 world events final run_events hprepares hrecords).1,
    hdirect.2 _ limits identityActivityResolver none (payload [completed]) [completed]
      (CheckpointEnvelope.payload_encode _) rfl diverges_completed⟩

end PlainReplay

end Kuberic.Dex
