import Kuberic.Dex.Effect

/-!
# Activity records and checkpoints

One activity of a linear history, its transitions, and the payload of a checkpoint: an active
history, or a terminal outcome with the counts retained of it.
-/

namespace Kuberic.Dex

/-! ## Activity records -/

/-- Persisted state of one logical activity. -/
inductive ActivityState
  | scheduled
  | dispatchExposed (attemptId : AttemptId)
  | completed (result : ExactBytes)
  deriving DecidableEq

def ActivityState.isCompleted : ActivityState → Bool
  | .completed _ => true
  | _ => false

/-- Durable non-success result of an ordinary activity. -/
inductive ActivityFailure
  | application (payload : ExactBytes)
  | timedOut
  | actionDeadlineExceeded
  deriving DecidableEq

def ActivityFailure.payload : ActivityFailure → Option ExactBytes
  | .application payload => some payload
  | .timedOut | .actionDeadlineExceeded => none

/-- Persisted physical-attempt state for one stable logical activity. -/
structure ActivityAttemptState where
  ordinal : Nat
  retryNotBeforeUnixMillis : Option Int
  handlerWaitUntilUnixMillis : Option Int
  deriving DecidableEq

def ActivityAttemptState.first : ActivityAttemptState := ⟨1, none, none⟩

inductive CheckpointError
  | preparedActivityRejected (error : PreparedActivityError)
  | unsupportedFormat (actual supported : Nat)
  | invalidJson
  | executionMismatch (expected actual : ExecutionId)
  | workflowInputMismatch (expected actual : ExactBytes)
  | terminalPayloadBoundMismatch (expected actual : Nat)
  | zeroActivityRecordLimit
  | zeroEncodedCheckpointLimit
  | zeroTerminalEncodedCheckpointLimit
  | activityRecordLimitExceeded (actual maximum : Nat)
  | activityAttemptLimitExceeded (sequence attempted maximum : Nat)
  | retryRequiresExposedActivity (sequence : Nat)
  | failureRequiresCompletedActivity (sequence : Nat)
  | encodedCheckpointLimitExceeded (actual maximum : Nat)
  | terminalEncodedCheckpointLimitExceeded (actual maximum : Nat)
  | configuredCapacityBelowAdmission (configured admitted : Nat)
  | configuredCapacityAboveAdmission (configured admitted : Nat)
  | terminalEncodedCheckpointCapacityMismatch (configured admitted : Nat)
  | admittedTerminalCapacityInsufficient (required admitted : Nat)
  | encodedLengthOverflow
  | missingPendingActivity
  | expectedActiveCheckpoint
  | completedResultExceedsDeclared (sequence actual maximum : Nat)
  | activityInputExceedsDeclared (sequence actual maximum : Nat)
  | terminalPayloadExceedsDeclared (actual maximum : Nat)
  | nonContiguousSequence (expected actual : Nat)
  | pendingActivityNotFinal (sequence : Nat)
  | effectContract (message : String)
  | missingPreparedCommand (sequence : Nat)
  | missingCompletionClass (sequence : Nat)
  deriving DecidableEq

/-- A violated effect contract, with the text of its error. -/
def effectContract {α : Type} : Except EffectContractError α → Except CheckpointError α
  | .ok a => .ok a
  | .error e => .error (.effectContract e.message)

@[simp] theorem effectContract_eq_ok {α : Type} {x : Except EffectContractError α} {a : α} :
    effectContract x = .ok a ↔ x = .ok a := by
  cases x <;> simp [effectContract]

/-- One activity in contiguous zero-based workflow history. -/
structure ActivityRecord where
  sequence : Nat
  spec : ActivitySpec
  attempt : ActivityAttemptState
  preparedCommand : Option PreparedCommand
  completionClass : Option CompletionClass
  attempts : List EffectAttempt
  failure : Option ActivityFailure
  state : ActivityState
  deriving DecidableEq

namespace ActivityRecord

def new (sequence : Nat) (spec : ActivitySpec) (state : ActivityState) : ActivityRecord :=
  ⟨sequence, spec, .first, none, none, [], none, state⟩

def preparedEffect (sequence : Nat) (spec : ActivitySpec) (preparedCommand : PreparedCommand)
    (completionClass : CompletionClass) (attempts : List EffectAttempt) (state : ActivityState) :
    Except CheckpointError ActivityRecord := do
  effectContract (validateEffectAttempts attempts)
  return ⟨sequence, spec, .first, some preparedCommand, some completionClass, attempts, none, state⟩

def scheduled (sequence : Nat) (spec : ActivitySpec) : ActivityRecord :=
  new sequence spec .scheduled

def classified (sequence : Nat) (spec : ActivitySpec) (completionClass : CompletionClass)
    (state : ActivityState) : ActivityRecord :=
  { new sequence spec state with completionClass := some completionClass }

def withState (r : ActivityRecord) (state : ActivityState) : ActivityRecord :=
  { r with failure := none, state := state }

def withFailure (r : ActivityRecord) (failure : ActivityFailure) : ActivityRecord :=
  { r with failure := some failure, state := .completed [] }

def logicalId (r : ActivityRecord) (executionId : ExecutionId) : LogicalActivityId :=
  ⟨executionId, r.sequence, r.spec⟩

/-- The attempt that the activity is exposed to. -/
def exposedAttempt? (r : ActivityRecord) : Option AttemptId :=
  match r.state with
  | .dispatchExposed attemptId => some attemptId
  | _ => none

def scheduleRetry (r : ActivityRecord) (retryNotBeforeUnixMillis : Int) :
    Except CheckpointError ActivityRecord :=
  if r.exposedAttempt? = none then .error (.retryRequiresExposedActivity r.sequence)
  else if u32Max < r.attempt.ordinal + 1 then
    .error (.activityAttemptLimitExceeded r.sequence u32Max r.spec.options.maxAttempts)
  else if r.spec.options.maxAttempts < r.attempt.ordinal + 1 then
    .error (.activityAttemptLimitExceeded r.sequence (r.attempt.ordinal + 1)
      r.spec.options.maxAttempts)
  else .ok { r with
    attempt := ⟨r.attempt.ordinal + 1, some retryNotBeforeUnixMillis, none⟩
    state := .scheduled }

def deferWait (r : ActivityRecord) (waitUntilUnixMillis : Int) :
    Except CheckpointError ActivityRecord :=
  if r.exposedAttempt? = none then .error (.retryRequiresExposedActivity r.sequence)
  else .ok { r with
    attempt := { r.attempt with handlerWaitUntilUnixMillis := some waitUntilUnixMillis }
    state := .scheduled }

/-- The record of a new attempt: a strict effect also enters it in its ledger. -/
def exposed (r : ActivityRecord) (attemptId : AttemptId) : ActivityRecord :=
  { r with
    attempt := { r.attempt with handlerWaitUntilUnixMillis := none }
    attempts := if r.preparedCommand.isSome then r.attempts ++ [⟨attemptId, .exposed⟩] else r.attempts
    state := .dispatchExposed attemptId }

def exposeAttempt (r : ActivityRecord) (attemptId : AttemptId) :
    Except CheckpointError ActivityRecord :=
  if r.preparedCommand.isSome then do
    effectContract (validateEffectAttempts (r.exposed attemptId).attempts)
    return r.exposed attemptId
  else .ok (r.exposed attemptId)

/-- The record completed with a failure, or with a result. -/
def finished (r : ActivityRecord) (result : ExactBytes) : Option ActivityFailure → ActivityRecord
  | some failure => r.withFailure failure
  | none => { r with state := .completed result }

/-- The ledger with its last attempt in another state. -/
def withLastAttempt (r : ActivityRecord) (attempt : EffectAttempt) : ActivityRecord :=
  { r with attempts := r.attempts.dropLast ++ [attempt] }

/-- The record after an observation of its exposed attempt.  A first attempt that is proven not to
have been admitted makes the activity ready for one more. -/
def observed (r : ActivityRecord) (attemptId : AttemptId)
    (disposition : EffectObservationDisposition) (result : ExactBytes)
    (failure : Option ActivityFailure) : ActivityRecord :=
  if disposition = .provenNoAdmission ∧ r.attempts.length = 1 then
    { r.withLastAttempt ⟨attemptId, .provenNoAdmission⟩ with state := .scheduled }
  else (r.withLastAttempt ⟨attemptId, .observed⟩).finished result failure

def observeEffectAttempt (r : ActivityRecord) (attemptId : AttemptId)
    (disposition : EffectObservationDisposition) (result : ExactBytes)
    (failure : Option ActivityFailure) : Except CheckpointError ActivityRecord :=
  match r.attempts.getLast? with
  | none => .error (.effectContract "effect observation requires a recorded attempt")
  | some attempt =>
    if attempt.attemptId ≠ attemptId ∨ attempt.state ≠ .exposed then
      .error (.effectContract "effect observation attempt does not match the exposed attempt")
    else do
      effectContract (validateEffectAttempts (r.observed attemptId disposition result failure).attempts)
      return r.observed attemptId disposition result failure

end ActivityRecord

/-! ## Payloads -/

/-- Exact terminal result of one workflow execution. -/
inductive TerminalOutcome
  | succeeded (payload : ExactBytes)
  | failed (payload : ExactBytes)
  deriving DecidableEq

def TerminalOutcome.payload : TerminalOutcome → ExactBytes
  | .succeeded payload => payload
  | .failed payload => payload

/-- Immutable execution-level checkpoint authority. -/
structure ExecutionContract where
  spec : ExecutionSpec
  admittedMaxEncodedCheckpointBytes : Nat
  admittedMaxTerminalEncodedCheckpointBytes : Option Nat
  deriving DecidableEq

/-- The terminal capacity, which is the active one when it was not admitted separately. -/
def ExecutionContract.admittedTerminal (c : ExecutionContract) : Nat :=
  c.admittedMaxTerminalEncodedCheckpointBytes.getD c.admittedMaxEncodedCheckpointBytes

/-- Explicit lifecycle state for one execution. -/
inductive CheckpointState
  | active (activities : List ActivityRecord)
  | terminal (outcome : TerminalOutcome) (completedActivityCount : Nat)
      (completionMetadata : Option CompletionMetadata)
  deriving DecidableEq

/-- Decoded checkpoint state for one execution. -/
structure CheckpointPayload where
  execution : ExecutionContract
  state : CheckpointState
  deriving DecidableEq

namespace CheckpointPayload

def active (execution : ExecutionContract) (activities : List ActivityRecord) : CheckpointPayload :=
  ⟨execution, .active activities⟩

def terminal (execution : ExecutionContract) (outcome : TerminalOutcome)
    (completedActivityCount : Nat) : CheckpointPayload :=
  ⟨execution, .terminal outcome completedActivityCount none⟩

def terminalWithMetadata (execution : ExecutionContract) (outcome : TerminalOutcome)
    (completionMetadata : CompletionMetadata) : CheckpointPayload :=
  ⟨execution, .terminal outcome completionMetadata.completedActivityCount (some completionMetadata)⟩

def activeActivities (p : CheckpointPayload) : Option (List ActivityRecord) :=
  match p.state with
  | .active activities => some activities
  | .terminal .. => none

def terminalCompletionMetadata (p : CheckpointPayload) : Option CompletionMetadata :=
  match p.state with
  | .terminal _ _ metadata => metadata
  | .active _ => none

/-- The final record of an active history. -/
def lastRecord? (p : CheckpointPayload) : Option ActivityRecord :=
  p.activeActivities.bind List.getLast?

def push (p : CheckpointPayload) (record : ActivityRecord) : CheckpointPayload :=
  match p.state with
  | .active activities => ⟨p.execution, .active (activities ++ [record])⟩
  | .terminal .. => p

def replaceFinalRecord (p : CheckpointPayload) (replacement : ActivityRecord) : CheckpointPayload :=
  match p.state with
  | .active activities => ⟨p.execution, .active (activities.dropLast ++ [replacement])⟩
  | .terminal .. => p

end CheckpointPayload

def validateTerminalOutcome (outcome : TerminalOutcome) (maximum : Nat) :
    Except CheckpointError Unit :=
  if maximum < outcome.payload.length then
    .error (.terminalPayloadExceedsDeclared outcome.payload.length maximum)
  else .ok ()

/-- The summary of a history whose records are all classified. -/
def completionMetadataOf (activities : List ActivityRecord) (completedActivityCount : Nat) :
    Except CheckpointError (Option CompletionMetadata) :=
  if activities ≠ [] ∧ ∀ r ∈ activities, r.completionClass.isSome then do
    let metadata ← effectContract
      (CompletionMetadata.fromClasses (activities.filterMap (·.completionClass)))
    if metadata.completedActivityCount ≠ completedActivityCount then
      .error (.effectContract "authenticated completion count differs from replay cursor")
    else return some metadata
  else .ok none

def CheckpointPayload.intoTerminal (p : CheckpointPayload) (outcome : TerminalOutcome)
    (completedActivityCount : Nat) : Except CheckpointError CheckpointPayload :=
  match p.state with
  | .terminal .. => .error .expectedActiveCheckpoint
  | .active activities => do
    validateTerminalOutcome outcome p.execution.spec.maxTerminalPayloadBytes
    match ← completionMetadataOf activities completedActivityCount with
    | some metadata => return .terminalWithMetadata p.execution outcome metadata
    | none => return .terminal p.execution outcome completedActivityCount

end Kuberic.Dex
