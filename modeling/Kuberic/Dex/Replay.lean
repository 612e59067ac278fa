import Kuberic.Dex.RoundTrip
import Kuberic.Dex.Workflow

/-!
# What one evaluation establishes

A poll of a workflow consumes a part of the history, record by record, and then ends.  `Replays`
says that a workflow consumes a list of records, and `pollWorkflow_cases` that every poll is a
replay followed by the workflow's next action.
-/

namespace Kuberic.Dex

open Check

/-- The result that a completed record gives to the workflow. -/
def ActivityRecord.value? (r : ActivityRecord) : Option ActivityResult :=
  match r.state with
  | .completed result => some (match r.failure with
    | some failure => .error failure
    | none => .ok result)
  | _ => none

/-! ## Single records -/

variable {r : ActivityRecord} {decision : ContextDecision}

namespace WorkflowContext

theorem pollState_eq_ok {id : LogicalActivityId} {value : ActivityResult} :
    pollState id r = .ok value ↔ r.value? = some value := by
  unfold pollState ActivityRecord.value?
  cases r.state <;> cases r.failure <;> simp

theorem pollState_eq_error {id : LogicalActivityId} :
    pollState id r = .error decision ↔
      r.state.isCompleted = false ∧ decision = .existingPending id r.state := by
  unfold pollState ActivityState.isCompleted
  cases r.state <;> cases r.failure <;> simp [eq_comm]

/-- What a record is compared with when its request is polled: the resolved specification, the class,
and the command of a strict effect. -/
def Compares (ctx : WorkflowContext) (request : Request) (r : ActivityRecord) : Prop :=
  match request with
  | .activity spec completionClass =>
    ctx.resolver spec (some r.spec) = .ok r.spec ∧ r.completionClass = completionClass
  | .orchestrated spec => r.spec = spec ∧ r.completionClass = none
  | .effect spec metadata => r.spec = spec ∧
      (∃ command, ctx.prepareCommand (some r) spec metadata = .ok command ∧
        r.preparedCommand = some command) ∧
      r.completionClass = some metadata.completionClass

def Refuses : ContextDecision → Prop
  | .nondeterminism _ | .preparationRejected _ => True
  | _ => False

theorem pollActivity_some (ctx : WorkflowContext) (cursor : Nat) (r : ActivityRecord)
    (resolver : PreparedActivityResolver) (spec : ActivitySpec)
    (completionClass : Option CompletionClass) :
    (∃ decision, ctx.pollActivity resolver cursor (some r) spec completionClass = .error decision ∧
        Refuses decision) ∨
      (resolver spec (some r.spec) = .ok r.spec ∧ r.completionClass = completionClass ∧
        ctx.pollActivity resolver cursor (some r) spec completionClass =
          pollState ⟨ctx.executionId, cursor, r.spec⟩ r) := by
  unfold pollActivity
  simp only [Option.map_some]
  cases hresolve : resolver spec (some r.spec) with
  | error error => exact Or.inl ⟨_, rfl, trivial⟩
  | ok prepared =>
    dsimp only
    split_ifs with hspec hclass
    · exact Or.inl ⟨_, rfl, trivial⟩
    · exact Or.inl ⟨_, rfl, trivial⟩
    · rw [not_not] at hspec hclass
      exact Or.inr ⟨by rw [hspec], hclass, by rw [hspec]⟩

theorem pollEffect_some (ctx : WorkflowContext) (cursor : Nat) (r : ActivityRecord)
    (spec : ActivitySpec) (metadata : EffectMetadata) :
    (∃ decision, ctx.pollEffect cursor (some r) spec metadata = .error decision ∧
        Refuses decision) ∨
      (r.spec = spec ∧ (∃ command, ctx.prepareCommand (some r) spec metadata = .ok command ∧
        r.preparedCommand = some command) ∧ r.completionClass = some metadata.completionClass ∧
        ctx.pollEffect cursor (some r) spec metadata =
          pollState ⟨ctx.executionId, cursor, r.spec⟩ r) := by
  by_cases hspec : r.spec = spec
  · have hfilter : (some r).filter (·.spec ≠ spec) = none := by simp [hspec]
    unfold pollEffect
    rw [hfilter]
    cases hprepare : ctx.prepareCommand (some r) spec metadata with
    | error error => exact Or.inl ⟨_, rfl, trivial⟩
    | ok prepared =>
      dsimp only [pollPrepared]
      split_ifs with hcommand hclass
      · exact Or.inl ⟨_, rfl, trivial⟩
      · exact Or.inl ⟨_, rfl, trivial⟩
      · rw [not_not] at hcommand hclass
        exact Or.inr ⟨hspec, ⟨prepared, rfl, hcommand⟩, hclass, by rw [hspec]⟩
  · have hfilter : (some r).filter (·.spec ≠ spec) = some r := by simp [hspec]
    unfold pollEffect
    rw [hfilter]
    exact Or.inl ⟨_, rfl, trivial⟩

theorem poll_some (ctx : WorkflowContext) (cursor : Nat) (r : ActivityRecord) (request : Request) :
    (∃ decision, ctx.poll cursor (some r) request = .error decision ∧ Refuses decision) ∨
      (ctx.Compares request r ∧
        ctx.poll cursor (some r) request = pollState ⟨ctx.executionId, cursor, r.spec⟩ r) := by
  cases request with
  | activity spec completionClass =>
    obtain h | ⟨hspec, hclass, hpoll⟩ :=
      ctx.pollActivity_some cursor r ctx.resolver spec completionClass
    · exact Or.inl h
    · exact Or.inr ⟨⟨hspec, hclass⟩, hpoll⟩
  | orchestrated spec =>
    obtain h | ⟨hspec, hclass, hpoll⟩ :=
      ctx.pollActivity_some cursor r identityActivityResolver spec none
    · exact Or.inl h
    · have hspec' : r.spec = spec := (Except.ok.inj hspec).symm
      exact Or.inr ⟨⟨hspec', hclass⟩, hpoll⟩
  | effect spec metadata =>
    obtain h | ⟨hspec, hcommand, hclass, hpoll⟩ := ctx.pollEffect_some cursor r spec metadata
    · exact Or.inl h
    · exact Or.inr ⟨⟨hspec, hcommand, hclass⟩, hpoll⟩

/-- The specification that a new record of a request is given. -/
def Resolves (ctx : WorkflowContext) (request : Request) (spec : ActivitySpec) : Prop :=
  match request with
  | .activity logical _ => ctx.resolver logical none = .ok spec
  | .orchestrated logical => spec = logical
  | .effect logical _ => spec = logical

/-- A new record for a request at the end of a history of length `cursor`. -/
structure NewRecord (ctx : WorkflowContext) (request : Request) (cursor : Nat)
    (r : ActivityRecord) : Prop where
  sequence : r.sequence = cursor
  resolves : ctx.Resolves request r.spec
  attempts : r.attempts = []
  state : r.state = .scheduled

theorem pollActivity_none (ctx : WorkflowContext) (resolver : PreparedActivityResolver)
    (cursor : Nat) (spec : ActivitySpec) (completionClass : Option CompletionClass) :
    (∃ error, ctx.pollActivity resolver cursor none spec completionClass =
        .error (.preparationRejected error)) ∨
      ∃ prepared, resolver spec none = .ok prepared ∧
        ctx.pollActivity resolver cursor none spec completionClass =
          .error (.schedule cursor prepared ⟨ctx.executionId, cursor, prepared⟩ completionClass) := by
  unfold pollActivity
  simp only [Option.map_none]
  cases resolver spec none with
  | error error => exact Or.inl ⟨error, rfl⟩
  | ok prepared => exact Or.inr ⟨prepared, rfl, rfl⟩

theorem poll_none (ctx : WorkflowContext) (cursor : Nat) (request : Request) :
    ∃ decision, ctx.poll cursor none request = .error decision ∧
      (Refuses decision ∨ ∃ r, ctx.NewRecord request cursor r ∧ ∀ payload limits,
        evaluateDecision payload limits decision =
          evaluateScheduled payload limits (r.logicalId ctx.executionId) r) := by
  cases request with
  | activity spec completionClass =>
    obtain ⟨error, h⟩ | ⟨prepared, hresolve, h⟩ :=
      ctx.pollActivity_none ctx.resolver cursor spec completionClass
    · exact ⟨_, h, Or.inl trivial⟩
    · cases completionClass with
      | none => exact ⟨_, h, Or.inr ⟨.scheduled cursor prepared, ⟨rfl, hresolve, rfl, rfl⟩,
          fun _ _ => rfl⟩⟩
      | some completionClass => exact ⟨_, h, Or.inr ⟨.classified cursor prepared completionClass
          .scheduled, ⟨rfl, hresolve, rfl, rfl⟩, fun _ _ => rfl⟩⟩
  | orchestrated spec =>
    exact ⟨_, rfl, Or.inr ⟨.scheduled cursor spec, ⟨rfl, rfl, rfl, rfl⟩, fun _ _ => rfl⟩⟩
  | effect spec metadata =>
    unfold poll pollEffect
    simp only [Option.filter_none]
    cases ctx.prepareCommand none spec metadata with
    | error error => exact ⟨_, rfl, Or.inl trivial⟩
    | ok prepared => exact ⟨_, rfl, Or.inr ⟨⟨cursor, spec, .first, some prepared,
        some metadata.completionClass, [], none, .scheduled⟩, ⟨rfl, rfl, rfl, rfl⟩, fun _ _ => rfl⟩⟩

end WorkflowContext

/-! ## A whole poll -/

/-- From the results `before` the workflow consumes the records one by one, and has the results
`after` then. -/
inductive Replays (ctx : WorkflowContext) (w : Workflow) (input : ExactBytes) :
    List ActivityResult → List ActivityRecord → List ActivityResult → Prop
  | nil {results} : Replays ctx w input results [] results
  | cons {before after request r value rest} : w input before = .await request →
      ctx.Compares request r → r.value? = some value →
      Replays ctx w input (before ++ [value]) rest after →
      Replays ctx w input before (r :: rest) after

variable {records : List ActivityRecord}

section

variable {ctx : WorkflowContext} {w : Workflow} {input : ExactBytes}

theorem Replays.values {before after : List ActivityResult}
    (h : Replays ctx w input before records after) :
    ∃ values, after = before ++ values ∧ records.map (·.value?) = values.map some := by
  induction h with
  | nil => exact ⟨[], by simp, rfl⟩
  | @cons before after request r value rest _ _ hvalue _ ih =>
    obtain ⟨values, rfl, hvalues⟩ := ih
    exact ⟨value :: values, by simp, by simp [hvalue, hvalues]⟩

theorem Replays.requests {before after : List ActivityResult}
    (h : Replays ctx w input before records after) {i : Nat} (hr : records[i]? = some r) :
    ∃ request, w input (before ++ (records.take i).filterMap (·.value?)) = .await request ∧
      ctx.Compares request r := by
  induction h generalizing i with
  | nil => simp at hr
  | @cons before after request r' value rest hrequest hcompares hvalue _ ih =>
    cases i with
    | zero =>
      cases hr
      exact ⟨request, by simpa using hrequest, hcompares⟩
    | succ i => simpa [hvalue, List.append_assoc] using ih hr

/-- The end of a poll that consumed `consumed` of its history and has the results `results`. -/
inductive PollEnd (ctx : WorkflowContext) (w : Workflow) (input : ExactBytes) (cursor : Nat)
    (results : List ActivityResult) (rest : List ActivityRecord) : Polled → Prop
  | ready {outcome} : w input results = .complete outcome →
      PollEnd ctx w input cursor results rest (.ready outcome cursor)
  | pending : w input results = .suspend → PollEnd ctx w input cursor results rest .pending
  | decided {request decision} : w input results = .await request →
      ctx.poll cursor rest.head? request = .error decision →
      PollEnd ctx w input cursor results rest (.decided decision)

theorem pollWorkflow_cases (ctx : WorkflowContext) (w : Workflow) (input : ExactBytes)
    (cursor : Nat) (before : List ActivityResult) (history : List ActivityRecord) :
    ∃ replayed rest after, history = replayed ++ rest ∧
      Replays ctx w input before replayed after ∧
      PollEnd ctx w input (cursor + replayed.length) after rest
        (pollWorkflow ctx w input cursor before history) := by
  induction history generalizing cursor before with
  | nil =>
    refine ⟨[], [], before, rfl, .nil, ?_⟩
    unfold pollWorkflow
    cases haction : w input before with
    | complete outcome => exact .ready haction
    | suspend => exact .pending haction
    | await request =>
      obtain ⟨decision, hpoll, -⟩ := ctx.poll_none cursor request
      simp only [List.head?_nil, hpoll]
      exact .decided haction hpoll
  | cons r history ih =>
    unfold pollWorkflow
    cases haction : w input before with
    | complete outcome => exact ⟨[], r :: history, before, rfl, .nil, .ready haction⟩
    | suspend => exact ⟨[], r :: history, before, rfl, .nil, .pending haction⟩
    | await request =>
      simp only [List.head?_cons]
      cases hpoll : ctx.poll cursor (some r) request with
      | error decision =>
        exact ⟨[], r :: history, before, rfl, .nil, .decided haction hpoll⟩
      | ok value =>
        obtain ⟨decision, h, -⟩ | ⟨hcompares, h⟩ := ctx.poll_some cursor r request
        · rw [h] at hpoll
          cases hpoll
        · rw [h] at hpoll
          have hvalue := WorkflowContext.pollState_eq_ok.1 hpoll
          obtain ⟨replayed, rest, after, rfl, hreplays, hend⟩ := ih (cursor + 1) (before ++ [value])
          refine ⟨r :: replayed, rest, after, rfl, .cons haction hcompares hvalue hreplays, ?_⟩
          rw [List.length_cons, Nat.add_comm replayed.length, ← Nat.add_assoc]
          exact hend

end

/-! ## Evaluations -/

section

variable {ctx : WorkflowContext} {w : Workflow} {input : ExactBytes} {payload : CheckpointPayload}
  {limits : CheckpointLimits}

/-- The workflow consumed the history `records` and is about to act. -/
def ReplaysAll (ctx : WorkflowContext) (w : Workflow) (input : ExactBytes)
    (records : List ActivityRecord) (action : Action) : Prop :=
  ∃ results, Replays ctx w input [] records results ∧ w input results = action

/-- Evaluations that neither advance the history nor wait for a recorded activity. -/
def Evaluation.Stops : Evaluation → Prop
  | .scheduled .. | .pending .. | .complete .. => False
  | _ => True

/-- What an evaluation means for the payload that it replayed. -/
inductive Evaluated (ctx : WorkflowContext) (w : Workflow) (input : ExactBytes)
    (payload : CheckpointPayload) (limits : CheckpointLimits) : Evaluation → Prop
  | stopped {evaluation} : evaluation.Stops → Evaluated ctx w input payload limits evaluation
  | scheduled {records request r checkpoint} : payload.state = .active records →
      ReplaysAll ctx w input records (.await request) → ctx.NewRecord request records.length r →
      CheckpointEnvelope.encodeWithLimits (payload.push r) limits = .ok checkpoint →
      Evaluated ctx w input payload limits (.scheduled (r.logicalId ctx.executionId) checkpoint)
  | pending {init r rest request} : payload.state = .active (init ++ r :: rest) →
      ReplaysAll ctx w input init (.await request) → ctx.Compares request r →
      r.state.isCompleted = false →
      Evaluated ctx w input payload limits
        (.pending ⟨ctx.executionId, init.length, r.spec⟩ r.state)
  | complete {records outcome checkpoint} : payload.state = .active records →
      ReplaysAll ctx w input records (.complete outcome) →
      CheckpointEnvelope.encodeWithLimits payload limits = .ok checkpoint →
      Evaluated ctx w input payload limits (.complete outcome records.length checkpoint)

theorem evaluateDecision_refuses (h : WorkflowContext.Refuses decision) :
    (evaluateDecision payload limits decision).Stops := by
  cases decision with
  | nondeterminism | preparationRejected => trivial
  | schedule | scheduleEffect | existingPending => exact h.elim

theorem Evaluated.of_scheduled {request : Request} (hstate : payload.state = .active records)
    (hreplays : ReplaysAll ctx w input records (.await request))
    (hnew : ctx.NewRecord request records.length r) :
    Evaluated ctx w input payload limits
      (evaluateScheduled payload limits (r.logicalId ctx.executionId) r) := by
  unfold evaluateScheduled
  cases hencode : CheckpointEnvelope.encodeWithLimits (payload.push r) limits with
  | ok checkpoint => exact .scheduled hstate hreplays hnew hencode
  | error error => exact .stopped trivial

theorem Evaluated.of_decided {replayed rest : List ActivityRecord} {results : List ActivityResult}
    {request : Request} (hstate : payload.state = .active (replayed ++ rest))
    (hreplays : Replays ctx w input [] replayed results)
    (haction : w input results = .await request)
    (hpoll : ctx.poll replayed.length rest.head? request = .error decision) :
    Evaluated ctx w input payload limits (evaluateDecision payload limits decision) := by
  cases rest with
  | nil =>
    rw [List.append_nil] at hstate
    obtain ⟨decision', hpoll', hcases⟩ := ctx.poll_none replayed.length request
    obtain rfl : decision' = decision := Except.error.inj (hpoll'.symm.trans hpoll)
    obtain hrefuses | ⟨r, hnew, hevaluate⟩ := hcases
    · exact .stopped (evaluateDecision_refuses hrefuses)
    · rw [hevaluate]
      exact .of_scheduled hstate ⟨results, hreplays, haction⟩ hnew
  | cons r rest =>
    obtain ⟨decision', hpoll', hrefuses⟩ | ⟨hcompares, hpoll'⟩ :=
      ctx.poll_some replayed.length r request
    · obtain rfl : decision' = decision := Except.error.inj (hpoll'.symm.trans hpoll)
      exact .stopped (evaluateDecision_refuses hrefuses)
    · obtain ⟨hincomplete, rfl⟩ := WorkflowContext.pollState_eq_error.1 (hpoll'.symm.trans hpoll)
      exact .pending hstate ⟨results, hreplays, haction⟩ hcompares hincomplete

theorem evaluatePayload_cases (ctx : WorkflowContext) (w : Workflow) (input : ExactBytes)
    (payload : CheckpointPayload) (limits : CheckpointLimits) :
    Evaluated ctx w input payload limits (evaluatePayload ctx w input payload limits) := by
  unfold evaluatePayload
  cases hstate : payload.state with
  | terminal outcome count metadata => exact .stopped trivial
  | active history =>
    obtain ⟨replayed, rest, results, rfl, hreplays, hend⟩ :=
      pollWorkflow_cases ctx w input 0 [] history
    rw [Nat.zero_add] at hend
    dsimp only
    generalize pollWorkflow ctx w input 0 [] (replayed ++ rest) = polled at hend ⊢
    cases hend with
    | pending => exact .stopped trivial
    | decided haction hpoll => exact .of_decided hstate hreplays haction hpoll
    | ready haction =>
      dsimp only [evaluateReady]
      split_ifs with hcursor
      · exact .stopped trivial
      · rw [not_not] at hcursor
        have hrest : rest = [] := List.length_eq_zero_iff.1 (by simpa using hcursor)
        subst hrest
        rw [List.append_nil] at hstate
        cases hencode : CheckpointEnvelope.encodeWithLimits payload limits with
        | ok checkpoint => exact .complete hstate ⟨results, hreplays, haction⟩ hencode
        | error error => exact .stopped trivial

end

end Kuberic.Dex
