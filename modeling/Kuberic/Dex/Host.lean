import Kuberic.Dex.Workflow

/-!
# The durable host

Every operation of a host loads the checkpoint, decides without side effects, and ends at once or
proposes one compare-and-swap.  What the store answers to the proposal decides the outcome of the
operation; a permit to dispatch is only made of an accepted proposal.
-/

namespace Kuberic.Dex

/-! ## The store interface -/

/-- Opaque compare-and-swap revision: only its equality is used. -/
abbrev StorageRevision := Nat

structure StoredCheckpoint where
  revision : StorageRevision
  checkpoint : CheckpointEnvelope
  deriving DecidableEq

inductive StoreErrorKind
  | authorization
  | unavailable
  | timeout
  | malformedResponse
  | other
  deriving DecidableEq

structure StoreError where
  kind : StoreErrorKind
  description : String
  deriving DecidableEq

/-- Result of one atomic checkpoint compare-and-swap. -/
inductive CasOutcome
  | accepted (revision : StorageRevision)
  | conflict
  | outcomeUnknown
  deriving DecidableEq

/-! ## Outcomes -/

inductive PersistenceBoundary
  | schedule
  | exposure
  | scheduleExposure
  | observation
  | observationProgression
  | retry
  | wait
  | completion
  deriving DecidableEq

inductive ReloadReason
  | conflict
  | outcomeUnknown
  deriving DecidableEq

inductive StoreOperation
  | load
  | compareAndSwap (boundary : PersistenceBoundary)
  deriving DecidableEq

inductive TerminalCheckpointStatus
  | accepted
  | reloaded
  deriving DecidableEq

inductive ObservationRejection
  | checkpointMissing
  | activityNotExposed
  | logicalActivityMismatch (expected observed : LogicalActivityId)
  | resultExceedsDeclaredBound (actual maximum : Nat)
  deriving DecidableEq

/-- Unforgeable evidence that the dispatch-exposed checkpoint was accepted. -/
structure DispatchPermit where
  activity : LogicalActivityId
  attemptId : AttemptId
  attemptOrdinal : Nat
  retryNotBeforeUnixMillis : Option Int
  preparedCommand : Option PreparedCommand
  deriving DecidableEq

/-- The complete public outcome set for a durable host turn or observation. -/
inductive HostOutcome
  | scheduleAccepted (activity : LogicalActivityId) (revision : StorageRevision)
  | dispatchPermitted (permit : DispatchPermit) (revision : StorageRevision)
      (boundary : PersistenceBoundary)
  | observationAccepted (activity : LogicalActivityId) (revision : StorageRevision)
  | retryScheduled (activity : LogicalActivityId) (retryNotBeforeUnixMillis : Int)
      (revision : StorageRevision)
  | waiting (activity : LogicalActivityId) (wakeAtUnixMillis : Int)
  | workflowCompleted (outcome : TerminalOutcome) (completedActivityCount : Nat)
      (completionMetadata : Option CompletionMetadata) (revision : StorageRevision)
      (boundary : PersistenceBoundary) (checkpointStatus : TerminalCheckpointStatus)
  | quarantined (activity : LogicalActivityId) (attemptId : AttemptId) (attemptOrdinal : Nat)
      (retryNotBeforeUnixMillis : Option Int) (preparedCommand : Option PreparedCommand)
      (completionClass : Option CompletionClass)
  | nondeterminism (error : Nondeterminism)
  | checkpointRejected (error : CheckpointError)
  | observationRejected (rejection : ObservationRejection)
  | reloadRequired (boundary : PersistenceBoundary) (reason : ReloadReason)
  | storeFailed (operation : StoreOperation) (error : StoreError)
  deriving DecidableEq

/-! ## Proposals -/

/-- What an accepted proposal means to its operation. -/
inductive Acceptance
  | schedule (activity : LogicalActivityId)
  | exposure (permit : DispatchPermit)
  | observation (activity : LogicalActivityId)
  | retry (activity : LogicalActivityId) (retryNotBeforeUnixMillis : Int)
  | wait (activity : LogicalActivityId) (waitUntilUnixMillis : Int)
  | completion (outcome : TerminalOutcome) (completedActivityCount : Nat)
      (completionMetadata : Option CompletionMetadata)
  deriving DecidableEq

/-- A compare-and-swap that an operation asks of the store. -/
structure Proposal where
  expected : Option StorageRevision
  checkpoint : CheckpointEnvelope
  boundary : PersistenceBoundary
  acceptance : Acceptance
  deriving DecidableEq

/-- The outcome of an operation whose proposal was accepted. -/
def Acceptance.outcome (a : Acceptance) (boundary : PersistenceBoundary)
    (revision : StorageRevision) : HostOutcome :=
  match a with
  | .schedule activity => .scheduleAccepted activity revision
  | .exposure permit => .dispatchPermitted permit revision boundary
  | .observation activity => .observationAccepted activity revision
  | .retry activity retryNotBefore => .retryScheduled activity retryNotBefore revision
  | .wait activity waitUntil => .waiting activity waitUntil
  | .completion outcome count metadata =>
    .workflowCompleted outcome count metadata revision boundary .accepted

/-- The outcome of an operation after the answer to its proposal. -/
def Proposal.finish (p : Proposal) : Except StoreError CasOutcome → HostOutcome
  | .ok (.accepted revision) => p.acceptance.outcome p.boundary revision
  | .ok .conflict => .reloadRequired p.boundary .conflict
  | .ok .outcomeUnknown => .reloadRequired p.boundary .outcomeUnknown
  | .error error => .storeFailed (.compareAndSwap p.boundary) error

/-- An operation that ended without a write, or its proposal. -/
abbrev Decision := Except HostOutcome Proposal

/-- A checkpoint error ends an operation. -/
def orRejected {α : Type} (x : Except CheckpointError α) : Except HostOutcome α :=
  match x with
  | .ok a => .ok a
  | .error error => .error (.checkpointRejected error)

/-- In-process host for one-turn replay, persistence, and observation. -/
structure DurableHost where
  hostEpoch : HostEpoch
  nextAttemptCounter : Nat
  limits : CheckpointLimits
  counter_ne : nextAttemptCounter ≠ 0

namespace DurableHost

def new (hostEpoch : HostEpoch) (limits : CheckpointLimits) : DurableHost :=
  ⟨hostEpoch, 1, limits, Nat.one_ne_zero⟩

/-- The attempt that the host makes next. -/
def nextAttempt (h : DurableHost) : AttemptId := ⟨h.hostEpoch, h.nextAttemptCounter, h.counter_ne⟩

/-- The host after it took its next attempt. -/
def advance (h : DurableHost) : DurableHost :=
  { h with nextAttemptCounter := h.nextAttemptCounter + 1, counter_ne := Nat.succ_ne_zero _ }

/-! ## Exposure -/

/-- The record that an exposure starts from, when its completion has room. -/
def exposable (h : DurableHost) (execution : ExecutionSpec) (checkpoint : CheckpointEnvelope) :
    Except CheckpointError (CheckpointPayload × ActivityRecord) := do
  let payload ← checkpoint.decodeAndValidate execution h.limits
  -- A scheduled evaluation has an activity record.
  let record ← Check.demand payload.lastRecord? .missingPendingActivity
  let reserved ← payload.maximumActivityCompletedEncodedLen
  Check.rejectIf (h.limits.maxActiveEncodedBytes < reserved)
    (.encodedCheckpointLimitExceeded reserved h.limits.maxActiveEncodedBytes)
  return (payload, record)

/-- The proposal that exposes a record to the next attempt of the host. -/
def exposureProposal (h : DurableHost) (expected : Option StorageRevision)
    (boundary : PersistenceBoundary) (activity : LogicalActivityId) (payload : CheckpointPayload)
    (record : ActivityRecord) : Except CheckpointError Proposal := do
  let exposed ← record.exposeAttempt h.nextAttempt
  let checkpoint ← CheckpointEnvelope.encodeWithLimits (payload.replaceFinalRecord exposed) h.limits
  return ⟨expected, checkpoint, boundary, .exposure ⟨activity, h.nextAttempt,
    record.attempt.ordinal, record.attempt.retryNotBeforeUnixMillis, record.preparedCommand⟩⟩

/-- `prepare_exposure` and the proposal of `commit_exposure`.  The counter of the host moves on once
the record was found exposable. -/
def prepareExposure (h : DurableHost) (execution : ExecutionSpec)
    (expected : Option StorageRevision) (boundary : PersistenceBoundary)
    (checkpoint : CheckpointEnvelope) (activity : LogicalActivityId) : DurableHost × Decision :=
  match h.exposable execution checkpoint with
  | .error error => (h, .error (.checkpointRejected error))
  | .ok (payload, record) =>
    (h.advance, orRejected (h.exposureProposal expected boundary activity payload record))

/-! ## Completion -/

def commitCompletion (h : DurableHost) (expected : Option StorageRevision)
    (execution : ExecutionSpec) (outcome : TerminalOutcome) (completedActivityCount : Nat)
    (activeCheckpoint : CheckpointEnvelope) (boundary : PersistenceBoundary) : Decision := do
  let active ← orRejected (activeCheckpoint.decodeAndValidate execution h.limits)
  let terminal ← orRejected (active.intoTerminal outcome completedActivityCount)
  let checkpoint ← orRejected (CheckpointEnvelope.encodeWithLimits terminal h.limits)
  return ⟨expected, checkpoint, boundary,
    .completion outcome completedActivityCount terminal.terminalCompletionMetadata⟩

/-! ## Turns -/

/-- The outcome of a turn on a record that is exposed already. -/
def quarantinedOutcome (execution : ExecutionSpec) (record : ActivityRecord)
    (attemptId : AttemptId) : HostOutcome :=
  .quarantined (record.logicalId execution.executionId) attemptId record.attempt.ordinal
    record.attempt.retryNotBeforeUnixMillis record.preparedCommand record.completionClass

/-- A turn on a terminal checkpoint, or on an exposed activity, does not evaluate the workflow. -/
def checkLoaded (h : DurableHost) (execution : ExecutionSpec) :
    Option StoredCheckpoint → Except HostOutcome Unit
  | none => .ok ()
  | some stored => do
    let payload ← orRejected (stored.checkpoint.decodeAndValidate execution h.limits)
    match payload.state with
    | .terminal outcome count metadata =>
      .error (.workflowCompleted outcome count metadata stored.revision .completion .reloaded)
    | .active activities =>
      match activities.getLast?.bind fun record => record.exposedAttempt?.map (record, ·) with
      | some (record, attemptId) => .error (quarantinedOutcome execution record attemptId)
      | none => .ok ()

/-- The times of a scheduled record that are still to come. -/
def gatedWakeup (attempt : ActivityAttemptState) (now : Int) : Option Int :=
  (([attempt.retryNotBeforeUnixMillis, attempt.handlerWaitUntilUnixMillis].filterMap id).filter
    (now < ·)).max?

def loadedRecord? (h : DurableHost) (execution : ExecutionSpec) (loaded : Option StoredCheckpoint) :
    Option ActivityRecord :=
  loaded.bind fun stored =>
    (stored.checkpoint.decodeAndValidate execution h.limits).toOption.bind (·.lastRecord?)

/-- A scheduled record whose next attempt is not due at `now`. -/
def checkWakeup (h : DurableHost) (execution : ExecutionSpec) (now : Option Int)
    (loaded : Option StoredCheckpoint) : Except HostOutcome Unit :=
  match now, h.loadedRecord? execution loaded with
  | some now, some record =>
    if record.state = .scheduled then
      match gatedWakeup record.attempt now with
      | some wakeup => .error (.waiting (record.logicalId execution.executionId)
          (record.spec.options.actionDeadlineUnixMillis.elim wakeup (min · wakeup)))
      | none => .ok ()
    else .ok ()
  | _, _ => .ok ()

/-- The outcome of a turn whose workflow awaits an exposed activity. -/
def pendingExposed (h : DurableHost) (execution : ExecutionSpec)
    (loaded : Option StoredCheckpoint) (keepEffect : Bool) (activity : LogicalActivityId)
    (attemptId : AttemptId) : HostOutcome :=
  match h.loadedRecord? execution loaded with
  | some record => .quarantined activity attemptId record.attempt.ordinal
      record.attempt.retryNotBeforeUnixMillis (if keepEffect then record.preparedCommand else none)
      (if keepEffect then record.completionClass else none)
  -- An exposed activity is persisted.
  | none => .nondeterminism .unsupportedSuspension

def afterEvaluation (h : DurableHost) (execution : ExecutionSpec)
    (loaded : Option StoredCheckpoint) (boundary : PersistenceBoundary) (keepEffect : Bool)
    (onScheduled : LogicalActivityId → CheckpointEnvelope → DurableHost × Decision) :
    Evaluation → DurableHost × Decision
  | .scheduled activity checkpoint => onScheduled activity checkpoint
  | .pending activity .scheduled =>
    match loaded with
    | some stored =>
      h.prepareExposure execution (some stored.revision) boundary stored.checkpoint activity
    -- A pending evaluation has a loaded checkpoint.
    | none => (h, .error (.nondeterminism .unsupportedSuspension))
  | .pending activity (.dispatchExposed attemptId) =>
    (h, .error (h.pendingExposed execution loaded keepEffect activity attemptId))
  -- Completed activities are replayed rather than pending.
  | .pending _ (.completed _) => (h, .error (.nondeterminism .unsupportedSuspension))
  | .complete outcome count checkpoint => (h, h.commitCompletion (loaded.map (·.revision)) execution
      outcome count checkpoint .completion)
  | .terminal outcome count => (h, .error (.workflowCompleted outcome count none
      ((loaded.map (·.revision)).getD 0) .completion .reloaded))
  | .nondeterminism error => (h, .error (.nondeterminism error))
  | .checkpointRejected error => (h, .error (.checkpointRejected error))
  | .preparationRejected error =>
    (h, .error (.checkpointRejected (.preparedActivityRejected error)))
  | .workflowStalled => (h, .error (.nondeterminism .unsupportedSuspension))

/-- Evaluate and, when needed, commit exactly one schedule or exposure turn. -/
def turn (h : DurableHost) (w : Workflow) (execution : ExecutionSpec)
    (loaded : Option StoredCheckpoint) : DurableHost × Decision :=
  match h.checkLoaded execution loaded with
  | .error outcome => (h, .error outcome)
  | .ok () =>
    h.afterEvaluation execution loaded .exposure false
      (fun activity checkpoint => (h, .ok ⟨loaded.map (·.revision), checkpoint, .schedule,
        .schedule activity⟩))
      (evaluate w execution (loaded.map (·.checkpoint)) h.limits)

inductive ExposureResolver
  | activity (resolver : PreparedActivityResolver)
  | effect (resolver : PreparedEffectResolver)

def ExposureResolver.evaluate (resolver : ExposureResolver) (w : Workflow)
    (execution : ExecutionSpec) (checkpoint : Option CheckpointEnvelope)
    (limits : CheckpointLimits) : Evaluation :=
  match resolver with
  | .activity resolver => evaluatePrepared w execution checkpoint limits resolver
  | .effect resolver => evaluateEffects w execution checkpoint limits resolver

/-- Evaluate and atomically persist the next activity as dispatch-exposed. -/
def turnAndExposeResolved (h : DurableHost) (w : Workflow) (execution : ExecutionSpec)
    (resolver : ExposureResolver) (now : Option Int) (loaded : Option StoredCheckpoint) :
    DurableHost × Decision :=
  match h.checkLoaded execution loaded, h.checkWakeup execution now loaded with
  | .error outcome, _ => (h, .error outcome)
  | .ok (), .error outcome => (h, .error outcome)
  | .ok (), .ok () =>
    h.afterEvaluation execution loaded .scheduleExposure true
      (fun activity checkpoint => h.prepareExposure execution (loaded.map (·.revision))
        .scheduleExposure checkpoint activity)
      (resolver.evaluate w execution (loaded.map (·.checkpoint)) h.limits)

/-! ## Observations -/

/-- The final record that an observation of `activity` is about. -/
def observedRecord (h : DurableHost) (execution : ExecutionSpec) (activity : LogicalActivityId) :
    Option StoredCheckpoint → Except HostOutcome (StorageRevision × CheckpointPayload × ActivityRecord)
  | none => .error (.observationRejected .checkpointMissing)
  | some stored => do
    let payload ← orRejected (stored.checkpoint.decodeAndValidate execution h.limits)
    match payload.lastRecord? with
    | none => .error (.observationRejected .activityNotExposed)
    | some record =>
      if record.logicalId execution.executionId ≠ activity then
        .error (.observationRejected (.logicalActivityMismatch
          (record.logicalId execution.executionId) activity))
      else .ok (stored.revision, payload, record)

/-- The proposal of a checkpoint with another final record. -/
def replacementProposal (h : DurableHost) (revision : StorageRevision) (payload : CheckpointPayload)
    (replacement : ActivityRecord) (boundary : PersistenceBoundary) (acceptance : Acceptance) :
    Decision := do
  let checkpoint ← orRejected
    (CheckpointEnvelope.encodeWithLimits (payload.replaceFinalRecord replacement) h.limits)
  return ⟨some revision, checkpoint, boundary, acceptance⟩

def checkExposed (record : ActivityRecord) : Except HostOutcome Unit :=
  Check.rejectIf (record.exposedAttempt? = none) (.observationRejected .activityNotExposed)

/-- What is recorded must be within the declared bound of the activity. -/
def checkResultBound (record : ActivityRecord) (actual : Nat) : Except HostOutcome Unit :=
  Check.rejectIf (record.spec.maxResultBytes < actual)
    (.observationRejected (.resultExceedsDeclaredBound actual record.spec.maxResultBytes))

/-- An authoritative result for one exact logical activity. -/
structure ActivityObservation where
  activity : LogicalActivityId
  result : ExactBytes

/-- Persist an authoritative result only for the currently exposed activity. -/
def observe (h : DurableHost) (execution : ExecutionSpec) (observation : ActivityObservation)
    (loaded : Option StoredCheckpoint) : Decision := do
  let (revision, payload, record) ← h.observedRecord execution observation.activity loaded
  checkExposed record
  checkResultBound record observation.result.length
  h.replacementProposal revision payload (record.withState (.completed observation.result))
    .observation (.observation observation.activity)

/-- Persist another physical attempt for an exposed ordinary activity. -/
def scheduleRetry (h : DurableHost) (execution : ExecutionSpec) (activity : LogicalActivityId)
    (observedAtUnixMillis : Int) (loaded : Option StoredCheckpoint) : Decision := do
  let (revision, payload, record) ← h.observedRecord execution activity loaded
  checkExposed record
  let retryNotBefore ← Check.demand
    (record.spec.options.retryNotBeforeUnixMillis record.attempt.ordinal observedAtUnixMillis)
    (.checkpointRejected (.activityAttemptLimitExceeded record.sequence
      (min (record.attempt.ordinal + 1) u32Max) record.spec.options.maxAttempts))
  let retried ← orRejected (record.scheduleRetry retryNotBefore)
  h.replacementProposal revision payload retried .retry (.retry activity retryNotBefore)

/-- Persist a terminal ordinary activity failure. -/
def observeFailure (h : DurableHost) (execution : ExecutionSpec) (activity : LogicalActivityId)
    (failure : ActivityFailure) (loaded : Option StoredCheckpoint) : Decision := do
  let (revision, payload, record) ← h.observedRecord execution activity loaded
  checkExposed record
  checkResultBound record (failure.payload.elim 0 List.length)
  h.replacementProposal revision payload (record.withFailure failure) .observation
    (.observation activity)

/-- Persist a handler-requested observation wait without consuming a retry. -/
def deferWait (h : DurableHost) (execution : ExecutionSpec) (activity : LogicalActivityId)
    (waitUntilUnixMillis : Int) (loaded : Option StoredCheckpoint) : Decision := do
  let (revision, payload, record) ← h.observedRecord execution activity loaded
  let deferred ← orRejected (record.deferWait waitUntilUnixMillis)
  h.replacementProposal revision payload deferred .wait (.wait activity waitUntilUnixMillis)

/-- An authoritative typed-effect observation for one exact persisted attempt. -/
structure EffectObservation where
  activity : LogicalActivityId
  attemptId : AttemptId
  result : ExactBytes
  failure : Option ActivityFailure
  disposition : EffectObservationDisposition

/-- Persist an effect observation.  Without redelivery even proven non-admission completes the
activity. -/
def observeEffectWithRedelivery (h : DurableHost) (execution : ExecutionSpec)
    (observation : EffectObservation) (allowRedelivery : Bool) (loaded : Option StoredCheckpoint) :
    Decision := do
  let disposition := if allowRedelivery then observation.disposition else .completed
  let (revision, payload, record) ← h.observedRecord execution observation.activity loaded
  Check.rejectIf (record.exposedAttempt? ≠ some observation.attemptId)
    (.observationRejected .activityNotExposed)
  checkResultBound record (max observation.result.length
    ((observation.failure.bind (·.payload)).elim 0 List.length))
  let replacement ← orRejected (record.observeEffectAttempt observation.attemptId disposition
    observation.result observation.failure)
  h.replacementProposal revision payload replacement .observation (.observation observation.activity)

def observeEffect (h : DurableHost) (execution : ExecutionSpec) (observation : EffectObservation)
    (loaded : Option StoredCheckpoint) : Decision :=
  h.observeEffectWithRedelivery execution observation true loaded

/-- Resolve a quarantined attempt from observation only. -/
def observeQuarantinedEffect (h : DurableHost) (execution : ExecutionSpec)
    (observation : EffectObservation) (loaded : Option StoredCheckpoint) : Decision :=
  h.observeEffectWithRedelivery execution observation false loaded

/-- The completed checkpoint that an observation goes on from. -/
def completedCheckpoint (h : DurableHost) (execution : ExecutionSpec)
    (observation : ActivityObservation) (loaded : Option StoredCheckpoint) :
    Except HostOutcome (StorageRevision × ActivityRecord × CheckpointEnvelope) := do
  let (revision, payload, record) ← h.observedRecord execution observation.activity loaded
  checkExposed record
  checkResultBound record observation.result.length
  let checkpoint ← orRejected (CheckpointEnvelope.encodeWithLimits
    (payload.replaceFinalRecord (record.withState (.completed observation.result))) h.limits)
  return (revision, record, checkpoint)

/-- How an observation goes on after the workflow was evaluated. -/
def afterObservation (h : DurableHost) (execution : ExecutionSpec) (revision : StorageRevision)
    (record : ActivityRecord) : Evaluation → DurableHost × Decision
  | .scheduled activity checkpoint =>
    h.prepareExposure execution (some revision) .observationProgression checkpoint activity
  | .complete outcome count checkpoint => (h, h.commitCompletion (some revision) execution outcome
      count checkpoint .observationProgression)
  | .pending activity (.dispatchExposed attemptId) => (h, .error (.quarantined activity attemptId
      record.attempt.ordinal record.attempt.retryNotBeforeUnixMillis none none))
  | .pending _ _ => (h, .error (.nondeterminism .unsupportedSuspension))
  | .terminal outcome count =>
    (h, .error (.workflowCompleted outcome count none revision .completion .reloaded))
  | .nondeterminism error => (h, .error (.nondeterminism error))
  | .checkpointRejected error => (h, .error (.checkpointRejected error))
  | .preparationRejected error =>
    (h, .error (.checkpointRejected (.preparedActivityRejected error)))
  | .workflowStalled => (h, .error (.nondeterminism .unsupportedSuspension))

/-- Persist an observation and replay to the next exposed activity or terminal checkpoint in one
accepted checkpoint. -/
def observeAndTurnWith (h : DurableHost) (w : Workflow) (execution : ExecutionSpec)
    (observation : ActivityObservation) (resolver : PreparedActivityResolver)
    (loaded : Option StoredCheckpoint) : DurableHost × Decision :=
  match h.completedCheckpoint execution observation loaded with
  | .error outcome => (h, .error outcome)
  | .ok (revision, record, checkpoint) => h.afterObservation execution revision record
      (evaluatePrepared w execution (some checkpoint) h.limits resolver)

end DurableHost

/-! ## Operations -/

/-- The operations of a host. -/
inductive Operation
  | turn
  | turnAndExpose (resolver : DurableHost.ExposureResolver) (now : Option Int)
  | observe (observation : DurableHost.ActivityObservation)
  | scheduleRetry (activity : LogicalActivityId) (observedAtUnixMillis : Int)
  | observeFailure (activity : LogicalActivityId) (failure : ActivityFailure)
  | deferWait (activity : LogicalActivityId) (waitUntilUnixMillis : Int)
  | observeEffect (observation : DurableHost.EffectObservation)
  | observeQuarantinedEffect (observation : DurableHost.EffectObservation)
  | observeAndTurn (observation : DurableHost.ActivityObservation)
      (resolver : PreparedActivityResolver)

/-- The decision of an operation on what it loaded. -/
def DurableHost.decide (h : DurableHost) (w : Workflow) (execution : ExecutionSpec)
    (loaded : Option StoredCheckpoint) : Operation → DurableHost × Decision
  | .turn => h.turn w execution loaded
  | .turnAndExpose resolver now => h.turnAndExposeResolved w execution resolver now loaded
  | .observe observation => (h, h.observe execution observation loaded)
  | .scheduleRetry activity at_ => (h, h.scheduleRetry execution activity at_ loaded)
  | .observeFailure activity failure => (h, h.observeFailure execution activity failure loaded)
  | .deferWait activity until_ => (h, h.deferWait execution activity until_ loaded)
  | .observeEffect observation => (h, h.observeEffect execution observation loaded)
  | .observeQuarantinedEffect observation =>
    (h, h.observeQuarantinedEffect execution observation loaded)
  | .observeAndTurn observation resolver =>
    h.observeAndTurnWith w execution observation resolver loaded

end Kuberic.Dex
