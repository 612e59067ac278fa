import Kuberic.Dex.Envelope

/-!
# Replaying a workflow

A workflow is deterministic: what it does next is a function of its input and of the results of the
activities that it awaited so far, one after another.  Replay gives it the recorded results until it
completes or awaits an activity that has no recorded result.
-/

namespace Kuberic.Dex

/-- What an awaited activity gives to the workflow. -/
abbrev ActivityResult := Except ActivityFailure ExactBytes

/-- An awaited activity.  Only a strict effect has metadata; a typed orchestration awaits plain
activities without a class through a context of its own. -/
inductive Request
  | activity (spec : ActivitySpec) (completionClass : Option CompletionClass)
  | orchestrated (spec : ActivitySpec)
  | effect (spec : ActivitySpec) (metadata : EffectMetadata)
  deriving DecidableEq

/-- The next action of a workflow.  `suspend` waits for something other than an activity. -/
inductive Action
  | complete (outcome : TerminalOutcome)
  | await (request : Request)
  | suspend
  deriving DecidableEq

/-- The next action after the results of the activities awaited so far. -/
abbrev Workflow := ExactBytes → List ActivityResult → Action

/-- Opt-in resolver of a logical request to the exact specification that is dispatched. -/
abbrev PreparedActivityResolver :=
  ActivitySpec → Option ActivitySpec → Except PreparedActivityError ActivitySpec

def identityActivityResolver : PreparedActivityResolver := fun logical _ => .ok logical

abbrev PreparedEffectResolver := ExecutionId → ActivitySpec → EffectMetadata →
  Option PreparedCommand → Except PreparedActivityError PreparedCommand

/-- A valid checkpoint that cannot be replayed by the supplied workflow. -/
inductive Nondeterminism
  | activityMismatch (sequence : Nat) (recorded requested : ActivitySpec)
  | preparedCommandMismatch (sequence : Nat) (recorded : Option PreparedCommand)
      (requested : PreparedCommand)
  | completionClassMismatch (sequence : Nat) (recorded : Option CompletionClass)
      (requested : CompletionClass)
  | unusedHistory (consumed remaining : Nat)
  | unsupportedSuspension
  deriving DecidableEq

inductive ContextDecision
  | schedule (sequence : Nat) (spec : ActivitySpec) (logicalId : LogicalActivityId)
      (completionClass : Option CompletionClass)
  | scheduleEffect (sequence : Nat) (spec : ActivitySpec) (logicalId : LogicalActivityId)
      (preparedCommand : PreparedCommand) (completionClass : CompletionClass)
  | existingPending (logicalId : LogicalActivityId) (state : ActivityState)
  | nondeterminism (error : Nondeterminism)
  | preparationRejected (error : PreparedActivityError)
  deriving DecidableEq

/-- The immutable part of a replay context. -/
structure WorkflowContext where
  executionId : ExecutionId
  resolver : PreparedActivityResolver
  effectResolver : Option PreparedEffectResolver

namespace WorkflowContext

variable (ctx : WorkflowContext)

/-- A record that matches the request gives its result, or is still pending. -/
def pollState (requestedId : LogicalActivityId) (record : ActivityRecord) :
    Except ContextDecision ActivityResult :=
  match record.state with
  | .completed result =>
    match record.failure with
    | some failure => .ok (.error failure)
    | none => .ok (.ok result)
  | state => .error (.existingPending requestedId state)

/-- Poll a plain activity at the cursor, where `record` stands in history. -/
def pollActivity (resolver : PreparedActivityResolver) (cursor : Nat)
    (record : Option ActivityRecord) (spec : ActivitySpec)
    (completionClass : Option CompletionClass) : Except ContextDecision ActivityResult :=
  match resolver spec (record.map (·.spec)) with
  | .error error => .error (.preparationRejected error)
  | .ok prepared =>
    let requestedId : LogicalActivityId := ⟨ctx.executionId, cursor, prepared⟩
    match record with
    | none => .error (.schedule cursor prepared requestedId completionClass)
    | some record =>
      if record.spec ≠ prepared then
        .error (.nondeterminism (.activityMismatch cursor record.spec prepared))
      else if record.completionClass ≠ completionClass then
        .error (.nondeterminism (.completionClassMismatch cursor record.completionClass
          (completionClass.getD .externalEffect)))
      else pollState requestedId record

/-- The command that an effect resolver gives for a request, within the declared bound. -/
def prepareCommand (record : Option ActivityRecord) (spec : ActivitySpec)
    (metadata : EffectMetadata) : Except PreparedActivityError PreparedCommand :=
  match ctx.effectResolver with
  | none => .error .validation
  | some resolver =>
    match resolver ctx.executionId spec metadata (record.bind (·.preparedCommand)) with
    | .error error => .error error
    | .ok prepared =>
      if prepared.maxBytes ≠ metadata.maxCommandBytes then
        .error (.commandBoundMismatch prepared.maxBytes metadata.maxCommandBytes)
      else if metadata.maxCommandBytes < prepared.bytes.length then
        .error (.commandTooLarge prepared.bytes.length metadata.maxCommandBytes)
      else .ok prepared

/-- A strict effect that matches its record, up to its command and class. -/
def pollPrepared (cursor : Nat) (record : ActivityRecord) (spec : ActivitySpec)
    (metadata : EffectMetadata) (prepared : PreparedCommand) :
    Except ContextDecision ActivityResult :=
  if record.preparedCommand ≠ some prepared then
    .error (.nondeterminism (.preparedCommandMismatch cursor record.preparedCommand prepared))
  else if record.completionClass ≠ some metadata.completionClass then
    .error (.nondeterminism (.completionClassMismatch cursor record.completionClass
      metadata.completionClass))
  else pollState ⟨ctx.executionId, cursor, spec⟩ record

/-- Poll a strict effect at the cursor, where `record` stands in history. -/
def pollEffect (cursor : Nat) (record : Option ActivityRecord) (spec : ActivitySpec)
    (metadata : EffectMetadata) : Except ContextDecision ActivityResult :=
  match record.filter (·.spec ≠ spec) with
  | some record => .error (.nondeterminism (.activityMismatch cursor record.spec spec))
  | none =>
    match ctx.prepareCommand record spec metadata with
    | .error error => .error (.preparationRejected error)
    | .ok prepared =>
      match record with
      | none => .error (.scheduleEffect cursor spec ⟨ctx.executionId, cursor, spec⟩ prepared
          metadata.completionClass)
      | some record => ctx.pollPrepared cursor record spec metadata prepared

def poll (cursor : Nat) (record : Option ActivityRecord) :
    Request → Except ContextDecision ActivityResult
  | .activity spec completionClass =>
    ctx.pollActivity ctx.resolver cursor record spec completionClass
  | .orchestrated spec => ctx.pollActivity identityActivityResolver cursor record spec none
  | .effect spec metadata => ctx.pollEffect cursor record spec metadata

end WorkflowContext

/-- The end of one poll of a workflow, and the number of records that it consumed. -/
inductive Polled
  | decided (decision : ContextDecision)
  | ready (outcome : TerminalOutcome) (cursor : Nat)
  | pending

/-- Run a workflow over the records from the cursor on. -/
def pollWorkflow (ctx : WorkflowContext) (w : Workflow) (input : ExactBytes) (cursor : Nat)
    (results : List ActivityResult) (history : List ActivityRecord) : Polled :=
  match w input results with
  | .complete outcome => .ready outcome cursor
  | .suspend => .pending
  | .await request =>
    match ctx.poll cursor history.head? request, history with
    | .error decision, _ => .decided decision
    | .ok result, _ :: rest => pollWorkflow ctx w input (cursor + 1) (results ++ [result]) rest
    -- Without a record there is no result.
    | .ok _, [] => .pending

/-! ## Evaluation -/

/-- Result of deterministically polling one workflow turn. -/
inductive Evaluation
  | scheduled (activity : LogicalActivityId) (checkpoint : CheckpointEnvelope)
  | pending (activity : LogicalActivityId) (state : ActivityState)
  | complete (outcome : TerminalOutcome) (completedActivityCount : Nat)
      (checkpoint : CheckpointEnvelope)
  | terminal (outcome : TerminalOutcome) (completedActivityCount : Nat)
  | nondeterminism (error : Nondeterminism)
  | checkpointRejected (error : CheckpointError)
  | preparationRejected (error : PreparedActivityError)
  | workflowStalled
  deriving DecidableEq

/-- The payload that an execution starts from. -/
def initialPayload (execution : ExecutionSpec) (limits : CheckpointLimits) : CheckpointPayload :=
  .active ⟨execution, limits.maxActiveEncodedBytes, some limits.maxTerminalEncodedBytes⟩ []

/-- The payload that a turn replays. -/
def loadPayload (execution : ExecutionSpec) (checkpoint : Option CheckpointEnvelope)
    (limits : CheckpointLimits) : Except CheckpointError CheckpointPayload :=
  match checkpoint with
  | some envelope => envelope.decodeAndValidate execution limits
  | none => do
    (initialPayload execution limits).validate execution limits
    return initialPayload execution limits

/-- The checkpoint with a new record. -/
def evaluateScheduled (payload : CheckpointPayload) (limits : CheckpointLimits)
    (logicalId : LogicalActivityId) (record : ActivityRecord) : Evaluation :=
  match CheckpointEnvelope.encodeWithLimits (payload.push record) limits with
  | .ok checkpoint => .scheduled logicalId checkpoint
  | .error error => .checkpointRejected error

/-- What a decision of the context means for the turn. -/
def evaluateDecision (payload : CheckpointPayload) (limits : CheckpointLimits) :
    ContextDecision → Evaluation
  | .schedule sequence spec logicalId (some completionClass) => evaluateScheduled payload limits
      logicalId (.classified sequence spec completionClass .scheduled)
  | .schedule sequence spec logicalId none =>
    evaluateScheduled payload limits logicalId (.scheduled sequence spec)
  | .scheduleEffect sequence spec logicalId preparedCommand completionClass =>
    match ActivityRecord.preparedEffect sequence spec preparedCommand completionClass []
      .scheduled with
    | .ok record => evaluateScheduled payload limits logicalId record
    | .error error => .checkpointRejected error
  | .existingPending logicalId state => .pending logicalId state
  | .nondeterminism error => .nondeterminism error
  | .preparationRejected error => .preparationRejected error

/-- A completed workflow must have consumed its whole history. -/
def evaluateReady (payload : CheckpointPayload) (limits : CheckpointLimits) (historyLen : Nat)
    (outcome : TerminalOutcome) (cursor : Nat) : Evaluation :=
  if cursor ≠ historyLen then .nondeterminism (.unusedHistory cursor (historyLen - cursor))
  else
    match CheckpointEnvelope.encodeWithLimits payload limits with
    | .ok checkpoint => .complete outcome cursor checkpoint
    | .error error => .checkpointRejected error

/-- Replay of a decoded payload. -/
def evaluatePayload (ctx : WorkflowContext) (w : Workflow) (input : ExactBytes)
    (payload : CheckpointPayload) (limits : CheckpointLimits) : Evaluation :=
  match payload.state with
  | .terminal outcome completedActivityCount _ => .terminal outcome completedActivityCount
  | .active history =>
    match pollWorkflow ctx w input 0 [] history with
    | .decided decision => evaluateDecision payload limits decision
    | .ready outcome cursor => evaluateReady payload limits history.length outcome cursor
    | .pending => .workflowStalled

def evaluateInternal (w : Workflow) (execution : ExecutionSpec)
    (checkpoint : Option CheckpointEnvelope) (limits : CheckpointLimits)
    (resolver : PreparedActivityResolver) (effectResolver : Option PreparedEffectResolver) :
    Evaluation :=
  match loadPayload execution checkpoint limits with
  | .error error => .checkpointRejected error
  | .ok payload => evaluatePayload ⟨execution.executionId, resolver, effectResolver⟩ w
      execution.workflowInput payload limits

def evaluatePrepared (w : Workflow) (execution : ExecutionSpec)
    (checkpoint : Option CheckpointEnvelope) (limits : CheckpointLimits)
    (resolver : PreparedActivityResolver) : Evaluation :=
  evaluateInternal w execution checkpoint limits resolver none

def evaluateEffects (w : Workflow) (execution : ExecutionSpec)
    (checkpoint : Option CheckpointEnvelope) (limits : CheckpointLimits)
    (resolver : PreparedEffectResolver) : Evaluation :=
  evaluateInternal w execution checkpoint limits identityActivityResolver (some resolver)

/-- Validate a checkpoint, then poll an active workflow exactly once. -/
def evaluate (w : Workflow) (execution : ExecutionSpec) (checkpoint : Option CheckpointEnvelope)
    (limits : CheckpointLimits) : Evaluation :=
  evaluatePrepared w execution checkpoint limits identityActivityResolver

end Kuberic.Dex
