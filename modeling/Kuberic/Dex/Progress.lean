import Kuberic.Dex.Replay
import Kuberic.Dex.Host

/-!
# The progress of an execution

What accepted checkpoints do to an execution, one small step at a time: a record is requested, exposed
to an attempt, observed, or the workflow finishes.  One accepted checkpoint makes up to three of these
steps at once.  Each step leaves a valid history, and the ledger of a strict effect lists the attempts
that the effect was exposed to.
-/

namespace Kuberic.Dex

open Check

/-! ## Valid histories -/

/-- A history that passes the checks of an active checkpoint. -/
def ValidHistory (records : List ActivityRecord) : Prop := validateActiveHistory records = .ok ()

theorem forall_getElem?_cons {α : Type} {a : α} {l : List α} {P : Nat → α → Prop} :
    (∀ i b, (a :: l)[i]? = some b → P i b) ↔ P 0 a ∧ ∀ i b, l[i]? = some b → P (i + 1) b := by
  refine ⟨fun h => ⟨h 0 a rfl, fun i b hb => h (i + 1) b hb⟩, fun h i b hb => ?_⟩
  cases i with
  | zero =>
    cases hb
    exact h.1
  | succ i => exact h.2 i b hb

theorem validateRecordsFrom_eq_ok {k : Nat} {records : List ActivityRecord} :
    validateRecordsFrom k records = .ok () ↔ ∀ i r, records[i]? = some r →
      validateRecord (k + i) (i + 1 = records.length) r = .ok () := by
  induction records generalizing k with
  | nil => simp [validateRecordsFrom]
  | cons r rest ih =>
    have hlast : 0 = rest.length ↔ rest = [] := by rw [eq_comm, List.length_eq_zero_iff]
    simp only [validateRecordsFrom, seq_eq_ok, ih, forall_getElem?_cons, List.length_cons, hlast,
      Nat.add_right_cancel_iff, Nat.add_zero, Nat.add_assoc, Nat.add_comm 1]

/-- What the check of a record says about its place, its ledger and its completion. -/
structure ValidRecord (index : Nat) (last : Bool) (r : ActivityRecord) : Prop where
  sequence : r.sequence = index
  completed : last = false → r.state.isCompleted = true
  failure : r.failure ≠ none → r.state.isCompleted = true
  attempts : r.preparedCommand.isSome → validateEffectAttempts r.attempts = .ok ()
  ledger : r.preparedCommand.isSome → LedgerMatchesState r
  plain : r.preparedCommand = none → r.attempts = []

theorem ValidRecord.of_validateRecord {index : Nat} {last : Bool} {r : ActivityRecord}
    (h : validateRecord index last r = .ok ()) : ValidRecord index last r := by
  simp only [validateRecord, seq_eq_ok, rejectIf_eq_ok, not_not] at h
  obtain ⟨hsequence, -, -, -, heffect, hfailure, -, hcompletion⟩ := h
  have hfields : (r.preparedCommand.isSome → validateEffectAttempts r.attempts = .ok () ∧
      LedgerMatchesState r) ∧ (r.preparedCommand = none → r.attempts = []) := by
    unfold validateEffectFields at heffect
    cases hcommand : r.preparedCommand with
    | none => simpa [hcommand] using heffect
    | some command =>
      cases hclass : r.completionClass with
      | none => simp [hcommand, hclass] at heffect
      | some completionClass =>
        simp only [hcommand, hclass, seq_eq_ok, effectContract_eq_ok, validateEffectRecordState,
          rejectIf_eq_ok, not_not] at heffect
        exact ⟨fun _ => heffect.2, fun h => by cases h⟩
  refine ⟨hsequence, ?_, ?_, fun h => (hfields.1 h).1, fun h => (hfields.1 h).2, hfields.2⟩
  · intro hlast
    unfold validateCompletion at hcompletion
    cases hstate : r.state with
    | completed result => rfl
    | scheduled | dispatchExposed => simp [hstate, hlast] at hcompletion
  · intro hne
    simpa [hne] using hfailure

namespace ValidHistory

variable {records init : List ActivityRecord} {r : ActivityRecord} {i : Nat}

theorem record (h : ValidHistory records) (hr : records[i]? = some r) :
    ValidRecord i (i + 1 = records.length) r :=
  .of_validateRecord (by simpa using validateRecordsFrom_eq_ok.1 h i r hr)

theorem sequence (h : ValidHistory records) (hr : records[i]? = some r) : r.sequence = i :=
  (h.record hr).sequence

theorem completed_of_lt (h : ValidHistory records) (hr : records[i]? = some r)
    (hi : i + 1 < records.length) : r.state.isCompleted = true :=
  (h.record hr).completed (by simpa using hi.ne)

theorem last (h : ValidHistory (init ++ [r])) : ValidRecord init.length true r := by
  simpa using h.record (i := init.length) (r := r) (by simp)

theorem rest_eq_nil {rest : List ActivityRecord} (h : ValidHistory (init ++ r :: rest))
    (hr : r.state.isCompleted = false) : rest = [] := by
  by_contra hne
  have hpos : 0 < rest.length := List.length_pos_iff.2 hne
  have hcompleted := h.completed_of_lt (i := init.length) (r := r) (by simp) (by simp; omega)
  rw [hr] at hcompleted
  cases hcompleted

end ValidHistory

theorem CheckpointPayload.validHistory {p : CheckpointPayload} {limits : CheckpointLimits}
    {records : List ActivityRecord} (h : p.validateInternal limits = .ok ())
    (hstate : p.state = .active records) : ValidHistory records := by
  simp only [validateInternal, bind_eq_ok, validateState, hstate] at h
  obtain ⟨-, -, -, -, -, -, -, -, -, -, -, -, hvalid⟩ := h
  exact hvalid

/-! ## Steps -/

def ActivityRecord.permit (r : ActivityRecord) (executionId : ExecutionId) (attemptId : AttemptId) :
    DispatchPermit :=
  ⟨r.logicalId executionId, attemptId, r.attempt.ordinal, r.attempt.retryNotBeforeUnixMillis,
    r.preparedCommand⟩

namespace Operation

/-- The context that an operation evaluates the workflow in. -/
def context? (executionId : ExecutionId) : Operation → Option WorkflowContext
  | .turn => some ⟨executionId, identityActivityResolver, none⟩
  | .turnAndExpose (.activity resolver) _ => some ⟨executionId, resolver, none⟩
  | .turnAndExpose (.effect resolver) _ =>
    some ⟨executionId, identityActivityResolver, some resolver⟩
  | .observeAndTurn _ resolver => some ⟨executionId, resolver, none⟩
  | _ => none

/-- The result that an effect observation records when it completes the activity. -/
def effectValue (observation : DurableHost.EffectObservation) : ActivityResult :=
  match observation.failure with
  | some failure => .error failure
  | none => .ok observation.result

/-- The activity that an operation observes. -/
def activity? : Operation → Option LogicalActivityId
  | .turn | .turnAndExpose _ _ => none
  | .observe observation | .observeAndTurn observation _ => some observation.activity
  | .scheduleRetry activity _ | .observeFailure activity _ | .deferWait activity _ => some activity
  | .observeEffect observation | .observeQuarantinedEffect observation => some observation.activity

/-- The result that an operation records when it completes the activity. -/
def value? : Operation → Option ActivityResult
  | .observe observation | .observeAndTurn observation _ => some (.ok observation.result)
  | .observeFailure _ failure => some (.error failure)
  | .observeEffect observation | .observeQuarantinedEffect observation =>
    some (effectValue observation)
  | _ => none

/-- Operations that may make an exposed activity ready for one more attempt. -/
def reschedules : Operation → Bool
  | .scheduleRetry .. | .deferWait .. | .observeEffect _ => true
  | _ => false

end Operation

/-- An operation observes the exposed record `r`, which becomes `r'`. -/
structure Observed (executionId : ExecutionId) (op : Operation) (r r' : ActivityRecord) : Prop where
  activity : op.activity? = some (r.logicalId executionId)
  exposed : r.exposedAttempt? ≠ none
  sequence : r'.sequence = r.sequence
  spec : r'.spec = r.spec
  preparedCommand : r'.preparedCommand = r.preparedCommand
  ledger : r'.attempts.map (·.attemptId) = r.attempts.map (·.attemptId)
  state : (r'.state = .scheduled ∧ op.reschedules = true) ∨
    (r'.value? ≠ none ∧ r'.value? = op.value?)

section

variable {op : Operation} {r : ActivityRecord} {executionId : ExecutionId}

theorem ActivityRecord.attempts_exposed {attemptId : AttemptId} (h : r.preparedCommand.isSome) :
    (r.exposed attemptId).attempts = r.attempts ++ [⟨attemptId, .exposed⟩] := by
  simp [ActivityRecord.exposed, h]

theorem Operation.reschedules_eq_false (h : op.context? executionId ≠ none) :
    op.reschedules = false := by
  cases op <;> first | rfl | exact absurd rfl h

theorem LedgerMatchesState.scheduled (h : LedgerMatchesState r) (hstate : r.state = .scheduled) :
    r.attempts = [] ∨ ∃ attempt, r.attempts = [attempt] ∧ attempt.state = .provenNoAdmission := by
  unfold LedgerMatchesState at h
  rw [hstate] at h
  match hattempts : r.attempts with
  | [] => exact Or.inl rfl
  | [attempt] => exact Or.inr ⟨attempt, rfl, by simpa [hattempts] using h⟩
  | _ :: _ :: _ => simp [hattempts] at h

theorem ActivityRecord.isCompleted_of_value? (h : r.value? ≠ none) :
    r.state.isCompleted = true := by
  cases hstate : r.state <;> simp [ActivityRecord.value?, hstate, ActivityState.isCompleted] at h ⊢

end

/-- The records of an execution, the exposures so far, and the outcome once the workflow finished. -/
structure Progress where
  records : List ActivityRecord
  exposures : List DispatchPermit
  outcome : Option TerminalOutcome

namespace Progress

/-- One step of an execution, made by an operation. -/
inductive Step (w : Workflow) (execution : ExecutionSpec) (op : Operation) :
    Progress → Progress → Prop
  | request {records exposures request r ctx} : op.context? execution.executionId = some ctx →
      ReplaysAll ctx w execution.workflowInput records (.await request) →
      ctx.NewRecord request records.length r → ValidHistory (records ++ [r]) →
      Step w execution op ⟨records, exposures, none⟩ ⟨records ++ [r], exposures, none⟩
  | expose {init r exposures attemptId} : op.context? execution.executionId ≠ none →
      r.state = .scheduled →
      ValidHistory (init ++ [r.exposed attemptId]) →
      Step w execution op ⟨init ++ [r], exposures, none⟩ ⟨init ++ [r.exposed attemptId],
        exposures ++ [r.permit execution.executionId attemptId], none⟩
  | observe {init r r' exposures} : Observed execution.executionId op r r' →
      ValidHistory (init ++ [r']) →
      Step w execution op ⟨init ++ [r], exposures, none⟩ ⟨init ++ [r'], exposures, none⟩
  | finish {records exposures outcome ctx} : op.context? execution.executionId = some ctx →
      ReplaysAll ctx w execution.workflowInput records (.complete outcome) →
      Step w execution op ⟨records, exposures, none⟩ ⟨records, exposures, some outcome⟩

def exposuresOf (p : Progress) (activity : LogicalActivityId) : List DispatchPermit :=
  p.exposures.filter (·.activity = activity)

/-- What the exposures so far say about the records: each is of a record, with the command of that
record, and a strict effect has them in its ledger. -/
structure Ledger (executionId : ExecutionId) (p : Progress) : Prop where
  valid : ValidHistory p.records
  exposed : ∀ permit ∈ p.exposures, ∃ r, p.records[permit.activity.sequence]? = some r ∧
    permit.activity = r.logicalId executionId ∧ permit.preparedCommand = r.preparedCommand
  attempts : ∀ r ∈ p.records, r.preparedCommand.isSome →
    (p.exposuresOf (r.logicalId executionId)).map (·.attemptId) = r.attempts.map (·.attemptId)

section

variable {w : Workflow} {execution : ExecutionSpec} {op : Operation} {p p' : Progress}
  {executionId : ExecutionId} {records init : List ActivityRecord} {r r' : ActivityRecord}
  {exposures : List DispatchPermit}

theorem Ledger.nil : Ledger executionId ⟨[], [], none⟩ :=
  ⟨rfl, fun _ h => absurd h List.not_mem_nil, fun _ h => absurd h List.not_mem_nil⟩

theorem getElem?_append_of_eq_some {i : Nat} {rest : List ActivityRecord}
    (hr : records[i]? = some r) : (records ++ rest)[i]? = some r :=
  (List.getElem?_append_left (List.getElem?_eq_some_iff.1 hr).1).trans hr

theorem getElem?_replace_last {i : Nat} {s : ActivityRecord} (r' : ActivityRecord)
    (hs : (init ++ [r])[i]? = some s) :
    (init[i]? = some s ∧ (init ++ [r'])[i]? = some s) ∨
      (i = init.length ∧ s = r ∧ (init ++ [r'])[i]? = some r') := by
  rcases Nat.lt_trichotomy i init.length with hi | rfl | hi
  · rw [List.getElem?_append_left hi] at hs ⊢
    exact Or.inl ⟨hs, hs⟩
  · rw [List.getElem?_concat_length] at hs
    exact Or.inr ⟨rfl, (Option.some.inj hs).symm, List.getElem?_concat_length⟩
  · rw [List.getElem?_eq_none (by simp; omega)] at hs
    cases hs

theorem exposed_replace_last {permit : DispatchPermit}
    (h : ∃ s, (init ++ [r])[permit.activity.sequence]? = some s ∧
      permit.activity = s.logicalId executionId ∧ permit.preparedCommand = s.preparedCommand)
    (hid : r'.logicalId executionId = r.logicalId executionId)
    (hcommand : r'.preparedCommand = r.preparedCommand) :
    ∃ s, (init ++ [r'])[permit.activity.sequence]? = some s ∧
      permit.activity = s.logicalId executionId ∧ permit.preparedCommand = s.preparedCommand := by
  obtain ⟨s, hs, hactivity, hpermit⟩ := h
  obtain ⟨-, hs'⟩ | ⟨-, rfl, hs'⟩ := getElem?_replace_last r' hs
  · exact ⟨s, hs', hactivity, hpermit⟩
  · exact ⟨r', hs', hactivity.trans hid.symm, hpermit.trans hcommand.symm⟩

theorem logicalId_ne_last (h : ValidHistory (init ++ [r])) (hr' : r' ∈ init) :
    r'.logicalId executionId ≠ r.logicalId executionId := by
  obtain ⟨i, hi, rfl⟩ := List.mem_iff_getElem.1 hr'
  intro heq
  have hsequence : init[i].sequence = r.sequence := congrArg LogicalActivityId.sequence heq
  have hi' : (init ++ [r])[i]? = some init[i] := by
    rw [List.getElem?_append_left hi, List.getElem?_eq_getElem hi]
  rw [h.sequence hi', h.last.sequence] at hsequence
  omega

theorem Ledger.exposuresOf_new (h : Ledger executionId ⟨records, exposures, none⟩)
    (hr : r.sequence = records.length) :
    exposuresOf ⟨records, exposures, none⟩ (r.logicalId executionId) = [] := by
  rw [exposuresOf, List.filter_eq_nil_iff]
  intro permit hpermit hactivity
  obtain ⟨s, hs, -⟩ := h.exposed permit hpermit
  rw [of_decide_eq_true hactivity] at hs
  simp [ActivityRecord.logicalId, hr] at hs

theorem Ledger.step_request (h : Ledger executionId ⟨records, exposures, none⟩)
    (hattempts : r.attempts = []) (hvalid : ValidHistory (records ++ [r])) :
    Ledger executionId ⟨records ++ [r], exposures, none⟩ := by
  refine ⟨hvalid, ?_, ?_⟩
  · intro permit hpermit
    obtain ⟨s, hs, hs'⟩ := h.exposed permit hpermit
    exact ⟨s, getElem?_append_of_eq_some hs, hs'⟩
  · intro s hs hstrict
    rcases List.mem_append.1 hs with hs | hs
    · exact h.attempts s hs hstrict
    · rw [List.mem_singleton.1 hs, hattempts]
      exact congrArg _ (h.exposuresOf_new hvalid.last.sequence)

theorem Ledger.step_replace (h : Ledger executionId ⟨init ++ [r], exposures, none⟩)
    (new : List DispatchPermit) (hvalid : ValidHistory (init ++ [r']))
    (hid : r'.logicalId executionId = r.logicalId executionId)
    (hcommand : r'.preparedCommand = r.preparedCommand)
    (hnew : ∀ permit ∈ new, permit.activity = r.logicalId executionId ∧
      permit.preparedCommand = r.preparedCommand)
    (hattempts : r.preparedCommand.isSome →
      r'.attempts.map (·.attemptId) = r.attempts.map (·.attemptId) ++ new.map (·.attemptId)) :
    Ledger executionId ⟨init ++ [r'], exposures ++ new, none⟩ := by
  refine ⟨hvalid, ?_, ?_⟩
  · intro permit hpermit
    rcases List.mem_append.1 hpermit with hpermit | hpermit
    · exact exposed_replace_last (h.exposed permit hpermit) hid hcommand
    · obtain ⟨hactivity, hpermit⟩ := hnew permit hpermit
      refine ⟨r', ?_, hactivity.trans hid.symm, hpermit.trans hcommand.symm⟩
      have hsequence : permit.activity.sequence = init.length := by
        rw [hactivity]
        exact h.valid.last.sequence
      simp [hsequence]
  · intro s hs hstrict
    rcases List.mem_append.1 hs with hs | hs
    · -- The new exposures are of the last record.
      have hfilter : new.filter (·.activity = s.logicalId executionId) = [] := by
        rw [List.filter_eq_nil_iff]
        intro permit hpermit hactivity
        exact logicalId_ne_last h.valid hs
          ((of_decide_eq_true hactivity).symm.trans (hnew permit hpermit).1)
      have hs' := h.attempts s (List.mem_append_left _ hs) hstrict
      simpa only [exposuresOf, List.filter_append, hfilter, List.append_nil] using hs'
    · rw [List.mem_singleton.1 hs] at hstrict ⊢
      have hfilter : new.filter (·.activity = r.logicalId executionId) = new :=
        List.filter_eq_self.2 fun permit hpermit => decide_eq_true (hnew permit hpermit).1
      rw [hcommand] at hstrict
      have hr := h.attempts r (by simp) hstrict
      rw [hattempts hstrict, ← hr, hid, exposuresOf, exposuresOf, List.filter_append, hfilter,
        List.map_append]

theorem Ledger.step (h : Ledger execution.executionId p) (hstep : Step w execution op p p') :
    Ledger execution.executionId p' := by
  cases hstep with
  | request _ _ hnew hvalid => exact h.step_request hnew.attempts hvalid
  | expose _ _ hvalid =>
    refine h.step_replace _ hvalid rfl rfl (by simp [ActivityRecord.permit]) fun hstrict => ?_
    simp [ActivityRecord.attempts_exposed hstrict, ActivityRecord.permit]
  | @observe init r r' exposures hobserved hvalid =>
    have hid : r'.logicalId execution.executionId = r.logicalId execution.executionId := by
      simp [ActivityRecord.logicalId, hobserved.sequence, hobserved.spec]
    simpa using h.step_replace [] hvalid hid hobserved.preparedCommand nofun
      fun _ => by simpa using hobserved.ledger
  | finish => exact ⟨h.valid, h.exposed, h.attempts⟩

theorem Step.getElem?_completed (hstep : Step w execution op p p') {i : Nat}
    (hr : p.records[i]? = some r) (hcompleted : r.state.isCompleted = true) :
    p'.records[i]? = some r := by
  cases hstep with
  | request => exact getElem?_append_of_eq_some hr
  | @expose init s exposures attemptId _ hstate =>
    obtain ⟨-, h⟩ | ⟨-, rfl, -⟩ := getElem?_replace_last (s.exposed attemptId) hr
    · exact h
    · rw [hstate] at hcompleted
      cases hcompleted
  | @observe init s s' exposures hobserved =>
    obtain ⟨-, h⟩ | ⟨-, rfl, -⟩ := getElem?_replace_last s' hr
    · exact h
    · have hexposed := hobserved.exposed
      cases hstate : r.state <;>
        simp [ActivityRecord.exposedAttempt?, hstate, ActivityState.isCompleted] at hexposed hcompleted
  | finish => exact hr

/-- A record that is not scheduled is exposed to no further attempt by an operation that evaluates
the workflow. -/
theorem Step.exposuresOf_eq (hstep : Step w execution op p p')
    (hcontext : op.context? execution.executionId ≠ none)
    (h : Ledger execution.executionId p) {i : Nat} (hr : p.records[i]? = some r)
    (hstate : r.state ≠ .scheduled) :
    ∃ r', p'.records[i]? = some r' ∧ r'.state ≠ .scheduled ∧
      r'.logicalId execution.executionId = r.logicalId execution.executionId ∧
      p'.exposuresOf (r.logicalId execution.executionId) =
        p.exposuresOf (r.logicalId execution.executionId) := by
  cases hstep with
  | request => exact ⟨r, getElem?_append_of_eq_some hr, hstate, rfl, rfl⟩
  | @expose init s exposures attemptId _ hscheduled =>
    obtain ⟨hinit, h'⟩ | ⟨-, rfl, -⟩ := getElem?_replace_last (s.exposed attemptId) hr
    · refine ⟨r, h', hstate, rfl, ?_⟩
      have hne : r.logicalId execution.executionId ≠ s.logicalId execution.executionId :=
        logicalId_ne_last h.valid (List.mem_of_getElem? hinit)
      simp [exposuresOf, ActivityRecord.permit, Ne.symm hne]
    · exact absurd hscheduled hstate
  | @observe init s s' exposures hobserved =>
    obtain ⟨-, h'⟩ | ⟨-, rfl, h'⟩ := getElem?_replace_last s' hr
    · exact ⟨r, h', hstate, rfl, rfl⟩
    · refine ⟨s', h', ?_, ?_, rfl⟩
      · obtain ⟨-, hreschedules⟩ | ⟨hvalue, -⟩ := hobserved.state
        · rw [Operation.reschedules_eq_false hcontext] at hreschedules
          cases hreschedules
        · have hcompleted := ActivityRecord.isCompleted_of_value? hvalue
          intro hscheduled
          rw [hscheduled] at hcompleted
          cases hcompleted
      · simp [ActivityRecord.logicalId, hobserved.sequence, hobserved.spec]
  | finish => exact ⟨r, hr, hstate, rfl, rfl⟩

end

/-! ## Runs of steps -/

/-- The steps of one accepted checkpoint. -/
def Advance (w : Workflow) (execution : ExecutionSpec) (op : Operation) : Progress → Progress → Prop :=
  Relation.TransGen (Step w execution op)

section

variable {w : Workflow} {execution : ExecutionSpec} {op : Operation} {p p' : Progress}
  {r : ActivityRecord} {i : Nat}

theorem Ledger.advance (h : Ledger execution.executionId p) (hadvance : Advance w execution op p p') :
    Ledger execution.executionId p' := by
  induction hadvance with
  | single hstep => exact h.step hstep
  | tail _ hstep ih => exact ih.step hstep

theorem Advance.exposuresOf_eq (hadvance : Advance w execution op p p')
    (hcontext : op.context? execution.executionId ≠ none) (h : Ledger execution.executionId p)
    (hr : p.records[i]? = some r) (hstate : r.state ≠ .scheduled) :
    p'.exposuresOf (r.logicalId execution.executionId) =
      p.exposuresOf (r.logicalId execution.executionId) := by
  suffices hstrong : ∃ r', p'.records[i]? = some r' ∧ r'.state ≠ .scheduled ∧
      r'.logicalId execution.executionId = r.logicalId execution.executionId ∧
      p'.exposuresOf (r.logicalId execution.executionId) =
        p.exposuresOf (r.logicalId execution.executionId) by
    obtain ⟨-, -, -, -, heq⟩ := hstrong
    exact heq
  induction hadvance with
  | single hstep => exact hstep.exposuresOf_eq hcontext h hr hstate
  | @tail q q' hq hstep ih =>
    obtain ⟨s, hs, hstate', hid, heq⟩ := ih
    obtain ⟨s', hs', hstate'', hid', heq'⟩ :=
      hstep.exposuresOf_eq hcontext (h.advance hq) hs hstate'
    exact ⟨s', hs', hstate'', hid'.trans hid, by rw [← heq, ← hid, heq', hid]⟩

theorem Advance.context_ne_none (h : Advance w execution op p p')
    (hexposures : p'.exposures ≠ p.exposures) : op.context? execution.executionId ≠ none := by
  have hstep : ∀ {q q' : Progress}, Step w execution op q q' → q'.exposures ≠ q.exposures →
      op.context? execution.executionId ≠ none := by
    intro q q' hstep hne
    cases hstep with
    | request | observe | finish => exact absurd rfl hne
    | expose hcontext => exact hcontext
  induction h with
  | single h => exact hstep h hexposures
  | @tail q q' _ h ih =>
    by_cases heq : q.exposures = p.exposures
    · exact hstep h (heq ▸ hexposures)
    · exact ih heq

/-- The activities and commands of the records do not change, and completed records stay as they
are. -/
def Persists (executionId : ExecutionId) (p p' : Progress) : Prop :=
  ∀ (i : Nat) (r : ActivityRecord), p.records[i]? = some r → ∃ r', p'.records[i]? = some r' ∧
    r'.logicalId executionId = r.logicalId executionId ∧ r'.preparedCommand = r.preparedCommand ∧
    (r.state.isCompleted = true → r' = r)

theorem Persists.refl (executionId : ExecutionId) (p : Progress) : Persists executionId p p :=
  fun _ r hr => ⟨r, hr, rfl, rfl, fun _ => rfl⟩

theorem Persists.trans {executionId : ExecutionId} {p'' : Progress}
    (h : Persists executionId p p') (h' : Persists executionId p' p'') :
    Persists executionId p p'' := by
  intro i r hr
  obtain ⟨r', hr', hid, hcommand, hcompleted⟩ := h i r hr
  obtain ⟨r'', hr'', hid', hcommand', hcompleted'⟩ := h' i r' hr'
  refine ⟨r'', hr'', hid'.trans hid, hcommand'.trans hcommand, fun hr => ?_⟩
  obtain rfl := hcompleted hr
  exact hcompleted' hr

theorem Step.persists (h : Step w execution op p p') : Persists execution.executionId p p' := by
  intro i r hr
  by_cases hcompleted : r.state.isCompleted = true
  · exact ⟨r, h.getElem?_completed hr hcompleted, rfl, rfl, fun _ => rfl⟩
  · cases h with
    | request => exact ⟨r, getElem?_append_of_eq_some hr, rfl, rfl, fun _ => rfl⟩
    | finish => exact ⟨r, hr, rfl, rfl, fun _ => rfl⟩
    | @expose init s exposures attemptId =>
      obtain ⟨-, h'⟩ | ⟨-, rfl, h'⟩ := getElem?_replace_last (s.exposed attemptId) hr
      · exact ⟨r, h', rfl, rfl, fun _ => rfl⟩
      · exact ⟨_, h', rfl, rfl, fun h => absurd h hcompleted⟩
    | @observe init s s' exposures hobserved =>
      obtain ⟨-, h'⟩ | ⟨-, rfl, h'⟩ := getElem?_replace_last s' hr
      · exact ⟨r, h', rfl, rfl, fun _ => rfl⟩
      · refine ⟨s', h', ?_, hobserved.preparedCommand, fun h => absurd h hcompleted⟩
        simp [ActivityRecord.logicalId, hobserved.sequence, hobserved.spec]

theorem Advance.persists (h : Advance w execution op p p') : Persists execution.executionId p p' := by
  induction h with
  | single hstep => exact hstep.persists
  | tail _ hstep ih => exact ih.trans hstep.persists

theorem Advance.quarantined {observation : DurableHost.EffectObservation}
    (h : Advance w execution (.observeQuarantinedEffect observation) p p')
    (hvalid : Ledger execution.executionId p) :
    ∃ r, p'.records[observation.activity.sequence]? = some r ∧
      r.logicalId execution.executionId = observation.activity ∧ r.state.isCompleted = true := by
  induction h with
  | @single q hstep =>
    have hvalid' := hvalid.step hstep
    cases hstep with
    | request hcontext => cases hcontext
    | expose hcontext => exact absurd rfl hcontext
    | finish hcontext => cases hcontext
    | @observe init r r' exposures hobserved =>
      have hid : r'.logicalId execution.executionId = observation.activity := by
        rw [Option.some.inj hobserved.activity]
        simp [ActivityRecord.logicalId, hobserved.sequence, hobserved.spec]
      refine ⟨r', ?_, hid, ?_⟩
      · have hsequence : observation.activity.sequence = init.length := by
          rw [← hid]
          exact hvalid'.valid.last.sequence
        simp [hsequence]
      · obtain ⟨-, hfalse⟩ | ⟨hvalue, -⟩ := hobserved.state
        · cases hfalse
        · exact ActivityRecord.isCompleted_of_value? hvalue
  | tail _ hstep ih =>
    obtain ⟨r, hr, hid, hcompleted⟩ := ih
    exact ⟨r, hstep.getElem?_completed hr hcompleted, hid, hcompleted⟩

/-- An effect that was exposed before is exposed again only after its one earlier attempt was proven
not to have been admitted. -/
theorem Advance.redelivers (hadvance : Advance w execution op p p')
    (hcontext : op.context? execution.executionId ≠ none) (h : Ledger execution.executionId p)
    {permit : DispatchPermit} (hexposures : p'.exposures = p.exposures ++ [permit])
    (hstrict : permit.preparedCommand.isSome) (hbefore : p.exposuresOf permit.activity ≠ []) :
    ∃ r first, p.records[permit.activity.sequence]? = some r ∧
      permit.activity = r.logicalId execution.executionId ∧
      r.attempts = [first] ∧ first.state = .provenNoAdmission ∧
      (p.exposuresOf permit.activity).map (·.attemptId) = [first.attemptId] := by
  obtain ⟨earlier, hmem⟩ := List.exists_mem_of_ne_nil _ hbefore
  obtain ⟨hmem, hactivity⟩ := List.mem_filter.1 hmem
  obtain ⟨r, hr, hid, hcommand⟩ := h.exposed earlier hmem
  rw [of_decide_eq_true hactivity] at hr hid
  -- Otherwise this operation would not have exposed it.
  have hscheduled : r.state = .scheduled := by
    by_contra hstate
    have heq := hadvance.exposuresOf_eq hcontext h hr hstate
    rw [← hid] at heq
    simp [exposuresOf, hexposures] at heq
  -- Both exposures have the command of the record that they are of.
  have hstrict' : r.preparedCommand.isSome := by
    have hafter := h.advance hadvance
    obtain ⟨s, hs, -, hs'⟩ := hafter.exposed permit (by simp [hexposures])
    obtain ⟨t, ht, -, ht'⟩ := hafter.exposed earlier (by simp [hexposures, hmem])
    rw [of_decide_eq_true hactivity, hs] at ht
    cases ht
    rwa [← hcommand, ht', ← hs']
  have hledger := h.attempts r (List.mem_of_getElem? hr) hstrict'
  rw [← hid] at hledger
  obtain hnil | ⟨first, hattempts, hproven⟩ :=
    ((h.valid.record hr).ledger hstrict').scheduled hscheduled
  · rw [hnil] at hledger
    exact absurd (List.map_eq_nil_iff.1 hledger) hbefore
  · exact ⟨r, first, hr, hid, hattempts, hproven, by simpa [hattempts] using hledger⟩

end

end Progress

end Kuberic.Dex
