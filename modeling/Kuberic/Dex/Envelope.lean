import Kuberic.Lib.Check
import Kuberic.Dex.Codec

/-!
# Encoded checkpoints

The versioned envelope of a payload, the limits that every loaded or proposed checkpoint must meet,
and the checks of both.
-/

namespace Kuberic.Dex

open Check

def checkpointFormatVersion : Nat := 4

/-- Required limits for every loaded or proposed checkpoint. -/
structure CheckpointLimits where
  maxActivityRecords : Nat
  maxActiveEncodedBytes : Nat
  maxTerminalEncodedBytes : Nat
  records_ne : maxActivityRecords ≠ 0
  active_ne : maxActiveEncodedBytes ≠ 0
  terminal_ne : maxTerminalEncodedBytes ≠ 0

def CheckpointLimits.new (maxActivityRecords maxActiveEncodedBytes maxTerminalEncodedBytes : Nat) :
    Except CheckpointError CheckpointLimits :=
  if hrecords : maxActivityRecords = 0 then .error .zeroActivityRecordLimit
  else if hactive : maxActiveEncodedBytes = 0 then .error .zeroEncodedCheckpointLimit
  else if hterminal : maxTerminalEncodedBytes = 0 then .error .zeroTerminalEncodedCheckpointLimit
  else .ok ⟨maxActivityRecords, maxActiveEncodedBytes, maxTerminalEncodedBytes, hrecords, hactive,
    hterminal⟩

/-! ## Lengths -/

/-- `encoded_len` of padded base64. -/
def base64Len (n : Nat) : Option Nat :=
  let length := 4 * ((n + 2) / 3)
  if length ≤ u64Max then some length else none

def orOverflow {α : Type} (o : Option α) : Except CheckpointError α :=
  match o with
  | some a => .ok a
  | none => .error .encodedLengthOverflow

/-- Version discriminator and opaque JSON payload bytes. -/
structure CheckpointEnvelope where
  formatVersion : Nat
  payload : ExactBytes
  deriving DecidableEq

namespace CheckpointEnvelope

def toJson (e : CheckpointEnvelope) : Json :=
  .obj [("format_version", Serde.Codec.nat.encode e.formatVersion),
    ("payload", Serde.Codec.base64.encode e.payload)]

def encode (payload : CheckpointPayload) : CheckpointEnvelope :=
  ⟨checkpointFormatVersion, (Codec.checkpointPayload.encode payload).toVec⟩

/-- Canonical JSON bytes required to persist this complete envelope. -/
def encodedLen (e : CheckpointEnvelope) : Except CheckpointError Nat := do
  let payloadLen ← orOverflow (base64Len e.payload.length)
  let fixedLen := (toJson ⟨e.formatVersion, []⟩).toVec.length
  orOverflow (checkedAdd fixedLen payloadLen)

end CheckpointEnvelope

/-- The encoded length of an envelope whose payload is `innerLen` bytes and one base64 string of
`contentLen` characters. -/
def projectedEncodedLen (innerLen contentLen : Nat) : Except CheckpointError Nat := do
  let projectedInnerLen ← orOverflow (checkedAdd innerLen contentLen)
  let projectedPayloadLen ← orOverflow (base64Len projectedInnerLen)
  let emptyLen ← CheckpointEnvelope.encodedLen ⟨checkpointFormatVersion, []⟩
  orOverflow (checkedAdd emptyLen projectedPayloadLen)

namespace CheckpointPayload

def innerLen (p : CheckpointPayload) : Nat := (Codec.checkpointPayload.encode p).toVec.length

/-- The terminal payloads that the reservation of terminal space is measured on. -/
def terminalCandidates (execution : ExecutionContract) (metadata split : CompletionMetadata) :
    List CheckpointPayload :=
  [terminal execution (.succeeded []) u64Max, terminal execution (.failed []) u64Max,
    terminalWithMetadata execution (.succeeded []) metadata,
    terminalWithMetadata execution (.failed []) metadata,
    terminalWithMetadata execution (.succeeded []) split,
    terminalWithMetadata execution (.failed []) split]

/-- Exact encoded envelope size of the larger terminal outcome at the declared payload maximum. -/
def maximumTerminalEncodedLen (p : CheckpointPayload) : Except CheckpointError Nat := do
  let payloadLen ← orOverflow (base64Len p.execution.spec.maxTerminalPayloadBytes)
  let metadata ← effectContract (CompletionMetadata.fromCounts u64Max u64Max 0)
  let split ← effectContract (CompletionMetadata.fromCounts u64Max (10 ^ 19) (u64Max - 10 ^ 19))
  (terminalCandidates p.execution metadata split).foldlM
    (fun largest candidate => do return max largest (← projectedEncodedLen candidate.innerLen payloadLen))
    0

/-- Exact encoded envelope size for completing the final activity at its declared maximum. -/
def maximumActivityCompletedEncodedLen (p : CheckpointPayload) : Except CheckpointError Nat := do
  let activities ← demand p.activeActivities .expectedActiveCheckpoint
  let record ← demand activities.getLast? .missingPendingActivity
  let resultLen ← orOverflow (base64Len record.spec.maxResultBytes)
  let emptyCompletion := p.replaceFinalRecord { record with state := .completed [] }
  projectedEncodedLen emptyCompletion.innerLen resultLen

end CheckpointPayload

/-! ## Validation -/

/-- The ledger of a strict effect agrees with the state of its record. -/
def LedgerMatchesState (r : ActivityRecord) : Prop :=
  match r.attempts, r.state with
  | [], .scheduled => True
  | [attempt], .dispatchExposed attemptId => attempt.state = .exposed ∧ attempt.attemptId = attemptId
  | [attempt], .scheduled => attempt.state = .provenNoAdmission
  | [attempt], .completed _ => attempt.state = .observed
  | [first, second], .dispatchExposed attemptId =>
    first.state = .provenNoAdmission ∧ second.state = .exposed ∧ second.attemptId = attemptId
  | [first, second], .completed _ => first.state = .provenNoAdmission ∧ second.state = .observed
  | _, _ => False

instance (r : ActivityRecord) : Decidable (LedgerMatchesState r) := by
  unfold LedgerMatchesState
  split <;> infer_instance

def validateEffectRecordState (r : ActivityRecord) : Except CheckpointError Unit :=
  rejectIf (¬LedgerMatchesState r)
    (.effectContract "effect attempt ledger does not match activity state")

/-- The effect fields of a record: a command, its class and its ledger go together. -/
def validateEffectFields (r : ActivityRecord) : Except CheckpointError Unit :=
  match r.preparedCommand, r.completionClass with
  | some command, some _ => do
    discard <| effectContract (PreparedCommand.new command.bytes command.maxBytes)
    effectContract (validateEffectAttempts r.attempts)
    validateEffectRecordState r
  | some _, none => .error (.missingCompletionClass r.sequence)
  | none, _ => rejectIf (r.attempts ≠ []) (.missingPreparedCommand r.sequence)

/-- A completed record is within its declared bound, and only the last record is not completed. -/
def validateCompletion (r : ActivityRecord) (last : Bool) : Except CheckpointError Unit :=
  match r.state with
  | .completed result => rejectIf (r.spec.maxResultBytes < result.length)
      (.completedResultExceedsDeclared r.sequence result.length r.spec.maxResultBytes)
  | _ => rejectIf (last = false) (.pendingActivityNotFinal r.sequence)

def validateRecord (index : Nat) (last : Bool) (r : ActivityRecord) :
    Except CheckpointError Unit := do
  rejectIf (r.sequence ≠ index) (.nonContiguousSequence index r.sequence)
  rejectIf (r.attempt.ordinal = 0 ∨ r.spec.options.maxAttempts < r.attempt.ordinal)
    (.activityAttemptLimitExceeded r.sequence r.attempt.ordinal r.spec.options.maxAttempts)
  rejectIf (r.attempt.ordinal = 1 ∧ r.attempt.retryNotBeforeUnixMillis ≠ none)
    (.retryRequiresExposedActivity r.sequence)
  rejectIf (r.spec.maxInputBytes < r.spec.input.length)
    (.activityInputExceedsDeclared r.sequence r.spec.input.length r.spec.maxInputBytes)
  validateEffectFields r
  rejectIf (r.failure ≠ none ∧ r.state.isCompleted = false)
    (.failureRequiresCompletedActivity r.sequence)
  onSome (r.failure.bind (·.payload)) fun payload => rejectIf (r.spec.maxResultBytes < payload.length)
    (.completedResultExceedsDeclared r.sequence payload.length r.spec.maxResultBytes)
  validateCompletion r last

def validateRecordsFrom : Nat → List ActivityRecord → Except CheckpointError Unit
  | _, [] => .ok ()
  | index, r :: rest => do
    validateRecord index (rest = []) r
    validateRecordsFrom (index + 1) rest

def validateActiveHistory (activities : List ActivityRecord) : Except CheckpointError Unit :=
  validateRecordsFrom 0 activities

def validateActivityCount (activities : List ActivityRecord) (limits : CheckpointLimits) :
    Except CheckpointError Unit :=
  rejectIf (limits.maxActivityRecords < activities.length)
    (.activityRecordLimitExceeded activities.length limits.maxActivityRecords)

/-- The counts that a terminal checkpoint retains. -/
def validateCompletionMetadata (completedActivityCount : Nat) (m : CompletionMetadata) :
    Except CheckpointError Unit := do
  discard <| effectContract (CompletionMetadata.fromCounts m.completedActivityCount
    m.externalEffectCount m.passiveObservationCount)
  rejectIf (m.completedActivityCount ≠ completedActivityCount)
    (.effectContract "terminal completion metadata count mismatch")

def validateState (p : CheckpointPayload) (limits : CheckpointLimits) : Except CheckpointError Unit :=
  match p.state with
  | .active activities => do
    validateActivityCount activities limits
    validateActiveHistory activities
  | .terminal outcome completedActivityCount completionMetadata => do
    validateTerminalOutcome outcome p.execution.spec.maxTerminalPayloadBytes
    onSome completionMetadata (validateCompletionMetadata completedActivityCount)

namespace CheckpointPayload

def validateInternal (p : CheckpointPayload) (limits : CheckpointLimits) :
    Except CheckpointError Unit := do
  let admitted := p.execution.admittedMaxEncodedCheckpointBytes
  let admittedTerminal := p.execution.admittedTerminal
  let required ← p.maximumTerminalEncodedLen
  rejectIf (admittedTerminal < required)
    (.admittedTerminalCapacityInsufficient required admittedTerminal)
  rejectIf (limits.maxTerminalEncodedBytes ≠ admittedTerminal)
    (.terminalEncodedCheckpointCapacityMismatch limits.maxTerminalEncodedBytes admittedTerminal)
  rejectIf (limits.maxActiveEncodedBytes < admitted)
    (.configuredCapacityBelowAdmission limits.maxActiveEncodedBytes admitted)
  rejectIf (admitted < limits.maxActiveEncodedBytes)
    (.configuredCapacityAboveAdmission limits.maxActiveEncodedBytes admitted)
  validateState p limits

def validate (p : CheckpointPayload) (expected : ExecutionSpec) (limits : CheckpointLimits) :
    Except CheckpointError Unit := do
  let spec := p.execution.spec
  rejectIf (spec.executionId ≠ expected.executionId)
    (.executionMismatch expected.executionId spec.executionId)
  rejectIf (spec.workflowInput ≠ expected.workflowInput)
    (.workflowInputMismatch expected.workflowInput spec.workflowInput)
  rejectIf (spec.maxTerminalPayloadBytes ≠ expected.maxTerminalPayloadBytes)
    (.terminalPayloadBoundMismatch expected.maxTerminalPayloadBytes spec.maxTerminalPayloadBytes)
  p.validateInternal limits

end CheckpointPayload

namespace CheckpointEnvelope

def validateActiveEncodedSize (e : CheckpointEnvelope) (limits : CheckpointLimits) :
    Except CheckpointError Unit := do
  let actual ← e.encodedLen
  rejectIf (limits.maxActiveEncodedBytes < actual)
    (.encodedCheckpointLimitExceeded actual limits.maxActiveEncodedBytes)

/-- The limit on the encoded length of a checkpoint in its lifecycle state. -/
def checkLifecycleSize (limits : CheckpointLimits) (actual : Nat) :
    CheckpointState → Except CheckpointError Unit
  | .active _ => rejectIf (limits.maxActiveEncodedBytes < actual)
      (.encodedCheckpointLimitExceeded actual limits.maxActiveEncodedBytes)
  | .terminal .. => rejectIf (limits.maxTerminalEncodedBytes < actual)
      (.terminalEncodedCheckpointLimitExceeded actual limits.maxTerminalEncodedBytes)

def validateLifecycleEncodedSize (e : CheckpointEnvelope) (state : CheckpointState)
    (limits : CheckpointLimits) : Except CheckpointError Unit := do
  let actual ← e.encodedLen
  checkLifecycleSize limits actual state

def encodeWithLimits (payload : CheckpointPayload) (limits : CheckpointLimits) :
    Except CheckpointError CheckpointEnvelope := do
  payload.validateInternal limits
  (encode payload).validateLifecycleEncodedSize payload.state limits
  return encode payload

/-- The payload of an envelope, as `serde_json` reads it. -/
def payload? (e : CheckpointEnvelope) : Option CheckpointPayload :=
  (Json.fromSlice e.payload).bind Codec.checkpointPayload.decode

def decodeAndValidate (e : CheckpointEnvelope) (expected : ExecutionSpec)
    (limits : CheckpointLimits) : Except CheckpointError CheckpointPayload := do
  rejectIf (e.formatVersion ≠ checkpointFormatVersion)
    (.unsupportedFormat e.formatVersion checkpointFormatVersion)
  e.validateActiveEncodedSize limits
  let payload ← demand e.payload? .invalidJson
  e.validateLifecycleEncodedSize payload.state limits
  payload.validate expected limits
  return payload

end CheckpointEnvelope

end Kuberic.Dex
