import Kuberic.Dex.Host
import Kuberic.Lib.AssocMap

/-!
# The activity runner

A runner makes one step of an execution: a turn of its host, and if that exposed an activity the
invocation of its handler and the observation of what came of it.  An activity that is found exposed
has lost its result: unless it is a prepared effect it is retried, and without attempts left it fails.
-/

namespace Kuberic.Dex

/-! ## Handlers -/

inductive ActivityCallError
  | emptyName
  | zeroVersion
  | nameMismatch (registered contract : String)
  | unregisteredActivity (name : String)
  | handler (message : String)
  | inputEncoding
  | inputTooLarge (actualBytes maxBytes : Nat)
  | inputDecoding
  | resultEncoding
  | resultTooLarge (actualBytes maxBytes : Nat)
  | resultDecoding
  deriving DecidableEq

/-- Runtime-owned metadata for one physical invocation of a logical activity. -/
structure ActivityContext where
  logicalId : LogicalActivityId
  attemptId : AttemptId
  attemptOrdinal : Nat
  retryNotBeforeUnixMillis : Option Int
  dispatchAuthorized : Bool
  deriving DecidableEq

def ActivityContext.new (logicalId : LogicalActivityId) (attemptId : AttemptId)
    (attemptOrdinal : Nat) (retryNotBeforeUnixMillis : Option Int) : ActivityContext :=
  ⟨logicalId, attemptId, attemptOrdinal, retryNotBeforeUnixMillis, true⟩

def ActivityContext.options (c : ActivityContext) : ActivityOptions := c.logicalId.spec.options

/-- The deadline that a dispatched activity is held to. -/
def ActivityContext.dispatchDeadline (c : ActivityContext) : Option Int :=
  if c.dispatchAuthorized then c.options.actionDeadlineUnixMillis else none

/-- Handler failures are classified before retry policy is applied. -/
inductive ActivityHandlerError
  | retryable (failure : ExactBytes)
  | terminal (failure : ExactBytes)
  | timedOut
  | waitUntil (wakeAtUnixMillis : Int)
  | codec (error : ActivityCallError)
  deriving DecidableEq

/-- What a handler returns. -/
abbrev HandlerResult := Except ActivityHandlerError ExactBytes

/-- Framework-owned result of invoking one ordinary activity handler. -/
inductive ActivityInvocationOutcome
  | completed (result : ExactBytes)
  | retryable (failure : ExactBytes)
  | failed (failure : ActivityFailure)
  | waitUntil (wakeAtUnixMillis : Int)
  | rejected (error : ActivityCallError)
  deriving DecidableEq

/-- The timer of the embedding runtime: what an invocation returns within a timeout. -/
structure ActivityInvocationRuntime where
  timeoutRuntime : Option (Nat → HandlerResult → HandlerResult)

namespace ActivityInvocationRuntime

/-- The milliseconds that are left before a deadline: `checked_sub` and `u64::try_from`. -/
def remaining (now deadline : Int) : Option Nat :=
  if 0 ≤ deadline - now ∧ deadline - now ≤ i64Max then some (deadline - now).toNat else none

/-- The earlier of the two timeouts, and whether it is that of the deadline. -/
def effectiveTimeout : Option Nat → Option Nat → Option (Nat × Bool)
  | some action, some attempt => some (if action ≤ attempt then (action, true) else (attempt, false))
  | some action, none => some (action, true)
  | none, some attempt => some (attempt, false)
  | none, none => none

/-- What the result of a handler means for its activity. -/
def classify (context : ActivityContext) : HandlerResult → ActivityInvocationOutcome
  | .ok result => .completed result
  | .error (.retryable failure) =>
    if context.attemptOrdinal < context.options.maxAttempts then .retryable failure
    else .failed (.application failure)
  | .error (.terminal failure) => .failed (.application failure)
  | .error .timedOut => .failed .timedOut
  | .error (.waitUntil wakeAt) => .waitUntil (context.dispatchDeadline.elim wakeAt (min · wakeAt))
  | .error (.codec error) => .rejected error

def invoke (runtime : ActivityInvocationRuntime) (context : ActivityContext) (now : Int)
    (invocation : HandlerResult) : ActivityInvocationOutcome :=
  if context.dispatchDeadline.any (· ≤ now) then .failed .actionDeadlineExceeded
  else
    match effectiveTimeout (context.dispatchDeadline.bind (remaining now))
      context.options.attemptTimeoutMillis, runtime.timeoutRuntime with
    | none, _ => classify context invocation
    | some _, none => .rejected
        (.handler "activity timeout requires an embedding timeout runtime")
    | some (timeout, deadlineWins), some timeoutRuntime =>
      if timeoutRuntime timeout invocation = .error .timedOut ∧ deadlineWins then
        .failed .actionDeadlineExceeded
      else classify context (timeoutRuntime timeout invocation)

end ActivityInvocationRuntime

/-! ## The registry -/

structure RegistryEntry where
  handler : ActivityContext → ExactBytes → HandlerResult
  maxInputBytes : Nat
  maxResultBytes : Nat

def ActivityName.display (n : ActivityName) : String := n.name ++ "@v" ++ toString n.version

/-- Immutable registry used by the runner. -/
structure ActivityRegistry where
  handlers : AssocMap ActivityName RegistryEntry

/-- The bounds that an activity was recorded with are those of its registered handler. -/
def validateContractBounds (maxInputBytes maxResultBytes : Nat) (context : ActivityContext)
    (input : ExactBytes) : Except ActivityCallError Unit := do
  let recordedInput := context.logicalId.spec.maxInputBytes
  Check.rejectIf (recordedInput ≠ maxInputBytes)
    (.handler s!"registered input bound {maxInputBytes} differs from recorded {recordedInput}")
  Check.rejectIf (maxInputBytes < input.length) (.inputTooLarge input.length maxInputBytes)
  let recordedResult := context.logicalId.spec.maxResultBytes
  Check.rejectIf (recordedResult ≠ maxResultBytes)
    (.handler s!"registered result bound {maxResultBytes} differs from recorded {recordedResult}")

def ActivityRegistry.invokeClassified (registry : ActivityRegistry) (context : ActivityContext)
    (input : ExactBytes) : HandlerResult :=
  match registry.handlers.get? context.logicalId.spec.name with
  | none => .error (.codec (.unregisteredActivity context.logicalId.spec.name.display))
  | some entry =>
    match validateContractBounds entry.maxInputBytes entry.maxResultBytes context input with
    | .error error => .error (.codec error)
    | .ok () => entry.handler context input

/-! ## Operations on a store -/

/-- The checkpoint store of one execution. -/
structure CheckpointStore (σ : Type) where
  load : σ → Except StoreError (Option StoredCheckpoint)
  compareAndSwap : σ → Option StorageRevision → CheckpointEnvelope →
    Except StoreError CasOutcome × σ

/-- An operation of a host: it loads the checkpoint, decides, and calls the store at most once. -/
def DurableHost.perform {σ : Type} (store : CheckpointStore σ) (w : Workflow)
    (execution : ExecutionSpec) (operation : Operation) (h : DurableHost) (s : σ) :
    HostOutcome × DurableHost × σ :=
  match store.load s with
  | .error error => (.storeFailed .load error, h, s)
  | .ok loaded =>
    match h.decide w execution loaded operation with
    | (h', .error outcome) => (outcome, h', s)
    | (h', .ok proposal) =>
      match store.compareAndSwap s proposal.expected proposal.checkpoint with
      | (reply, s') => (proposal.finish reply, h', s')

/-! ## The runner -/

/-- `lost_result_retry_exhausted`, the failure of an activity whose result was lost for good. -/
def lostResult : ActivityFailure := .application
  [108, 111, 115, 116, 95, 114, 101, 115, 117, 108, 116, 95, 114, 101, 116, 114, 121, 95, 101, 120,
    104, 97, 117, 115, 116, 101, 100]

/-- One bounded ordinary-activity runner step. -/
structure ActivityRunner where
  host : DurableHost
  registry : ActivityRegistry
  invocationRuntime : ActivityInvocationRuntime

namespace ActivityRunner

variable {σ : Type} (store : CheckpointStore σ) (w : Workflow) (execution : ExecutionSpec)

/-- The part of `run_once` after a turn that found the activity exposed. -/
def recoverLostResult (now : Int) (activity : LogicalActivityId) (h : DurableHost) (s : σ) :
    HostOutcome × DurableHost × σ :=
  match h.perform store w execution (.scheduleRetry activity now) s with
  | (.checkpointRejected (.activityAttemptLimitExceeded _ _ _), h', s') =>
    h'.perform store w execution (.observeFailure activity lostResult) s'
  | retry => retry

/-- The operation that records what an invocation led to. -/
def observation (now : Int) (activity : LogicalActivityId) :
    ActivityInvocationOutcome → Except HostOutcome Operation
  | .completed result => .ok (.observe ⟨activity, result⟩)
  | .retryable _ => .ok (.scheduleRetry activity now)
  | .failed failure => .ok (.observeFailure activity failure)
  | .waitUntil wakeAt => .ok (.deferWait activity wakeAt)
  | .rejected _ => .error (.checkpointRejected (.preparedActivityRejected .validation))

/-- The attempt that the store holds for an activity that was just exposed. -/
def storedAttempt (h : DurableHost) (activity : LogicalActivityId) (s : σ) :
    Except HostOutcome ActivityAttemptState :=
  match store.load s with
  | .error error => .error (.storeFailed .load error)
  | .ok none => .error (.checkpointRejected (.retryRequiresExposedActivity activity.sequence))
  | .ok (some stored) => do
    let payload ← orRejected (stored.checkpoint.decodeAndValidate execution h.limits)
    -- An accepted exposure stores its final activity.
    let record ← Check.demand payload.lastRecord? (.checkpointRejected .missingPendingActivity)
    return record.attempt

/-- The part of `run_once` after a turn that exposed the activity. -/
def dispatch (runner : ActivityRunner) (now : Int) (permit : DispatchPermit) (h : DurableHost)
    (s : σ) : HostOutcome × DurableHost × σ :=
  match storedAttempt store execution h permit.activity s with
  | .error outcome => (outcome, h, s)
  | .ok attempt =>
    let context := ActivityContext.new permit.activity permit.attemptId attempt.ordinal
      attempt.retryNotBeforeUnixMillis
    let result := runner.registry.invokeClassified context permit.activity.spec.input
    match observation now permit.activity (runner.invocationRuntime.invoke context now result) with
    | .error outcome => (outcome, h, s)
    | .ok operation => h.perform store w execution operation s

def runOnce (runner : ActivityRunner) (now : Int) (s : σ) : HostOutcome × DurableHost × σ :=
  match runner.host.perform store w execution
    (.turnAndExpose (.activity identityActivityResolver) (some now)) s with
  | (.quarantined activity _ _ _ none _, h, s') =>
    recoverLostResult store w execution now activity h s'
  | (.dispatchPermitted permit _ _, h, s') => runner.dispatch store w execution now permit h s'
  | ended => ended

end ActivityRunner

end Kuberic.Dex
