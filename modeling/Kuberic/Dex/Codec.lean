import Kuberic.Lib.Serde
import Kuberic.Dex.Checkpoint

/-!
# The JSON form of a checkpoint payload

One codec per type, with the field names, the tags and the omitted defaults of the source.
-/

namespace Kuberic.Dex.Codec

open Serde Serde.Codec

def bytes16 : Codec Bytes16 :=
  checked (list byte) Subtype.val (fun l => if h : l.length = 16 then some ⟨l, h⟩ else none)
    fun b => dif_pos b.2

/-- `Option` of a number, which is written as `null` when it is absent. -/
def optionalInt : Codec (Option Int) := option int fun _ => by simp [int]

def optionalNat : Codec (Option Nat) := option nat fun _ => by simp [nat]

def executionSpec : Codec ExecutionSpec where
  encode s := .obj [("execution_id", bytes16.encode s.executionId),
    ("workflow_input", base64.encode s.workflowInput),
    ("max_terminal_payload_bytes", nat.encode s.maxTerminalPayloadBytes)]
  decode j := do
    let f ← closedFields ["execution_id", "workflow_input", "max_terminal_payload_bytes"] j
    return ⟨← Fields.get bytes16 "execution_id" f, ← Fields.get base64 "workflow_input" f,
      ← Fields.get nat "max_terminal_payload_bytes" f⟩
  decode_encode s := by
    rw [closedFields_obj]
    · simp (disch := decide +kernel) [Fields.find_tail, Fields.get]
    · decide +kernel
    · exact List.Sublist.refl _

def activityName : Codec ActivityName where
  encode n := .obj [("name", string.encode n.name), ("version", nat.encode n.version)]
  decode j := do
    let f ← openFields j
    (ActivityName.new (← Fields.get string "name" f) (← Fields.get nat "version" f)).toOption
  decode_encode n := by
    simp (disch := decide +kernel) [openFields, Fields.get, Fields.find_tail, ActivityName.new_eq, Except.toOption]

def activityOptions : Codec ActivityOptions where
  encode o := .obj [("max_attempts", nat.encode o.maxAttempts),
    ("initial_backoff_millis", nat.encode o.initialBackoffMillis),
    ("action_deadline_unix_millis", optionalInt.encode o.actionDeadlineUnixMillis),
    ("attempt_timeout_millis", optionalNat.encode o.attemptTimeoutMillis)]
  decode j := do
    let f ← closedFields ["max_attempts", "initial_backoff_millis", "action_deadline_unix_millis",
      "attempt_timeout_millis"] j
    return ⟨← Fields.get nat "max_attempts" f, ← Fields.get nat "initial_backoff_millis" f,
      ← Fields.getD optionalInt "action_deadline_unix_millis" f none,
      ← Fields.getD optionalNat "attempt_timeout_millis" f none⟩
  decode_encode o := by
    rw [closedFields_obj]
    · simp (disch := decide +kernel) [Fields.find_tail, Fields.get, Fields.getD]
    · decide +kernel
    · exact List.Sublist.refl _

def activitySpec : Codec ActivitySpec where
  encode s := .obj [("name", activityName.encode s.name), ("input", base64.encode s.input),
    ("max_input_bytes", nat.encode s.maxInputBytes),
    ("max_result_bytes", nat.encode s.maxResultBytes),
    ("options", activityOptions.encode s.options)]
  decode j := do
    let f ← openFields j
    return ⟨← Fields.get activityName "name" f, ← Fields.get base64 "input" f,
      ← Fields.get nat "max_input_bytes" f, ← Fields.get nat "max_result_bytes" f,
      ← Fields.get activityOptions "options" f⟩
  decode_encode s := by
    simp (disch := decide +kernel) [openFields, Fields.get, Fields.find_tail]

def attemptId : Codec AttemptId where
  encode a := .obj [("host_epoch", bytes16.encode a.hostEpoch), ("counter", nat.encode a.counter)]
  decode j := do
    let f ← openFields j
    (AttemptId.new (← Fields.get bytes16 "host_epoch" f) (← Fields.get nat "counter" f)).toOption
  decode_encode a := by
    simp (disch := decide +kernel) [openFields, Fields.get, Fields.find_tail, AttemptId.new_eq, Except.toOption]

def completionClass : Codec CompletionClass where
  encode
    | .externalEffect => .str "external_effect"
    | .passiveObservation => .str "passive_observation"
  decode
    | .str "external_effect" => some .externalEffect
    | .str "passive_observation" => some .passiveObservation
    | _ => none
  decode_encode k := by cases k <;> rfl

def completionMetadata : Codec CompletionMetadata where
  encode m := .obj [("completed_activity_count", nat.encode m.completedActivityCount),
    ("external_effect_count", nat.encode m.externalEffectCount),
    ("passive_observation_count", nat.encode m.passiveObservationCount)]
  decode j := do
    let f ← closedFields ["completed_activity_count", "external_effect_count",
      "passive_observation_count"] j
    return ⟨← Fields.get nat "completed_activity_count" f, ← Fields.get nat "external_effect_count" f,
      ← Fields.get nat "passive_observation_count" f⟩
  decode_encode m := by
    rw [closedFields_obj]
    · simp (disch := decide +kernel) [Fields.find_tail, Fields.get]
    · decide +kernel
    · exact List.Sublist.refl _

def effectAttemptState : Codec EffectAttemptState where
  encode
    | .exposed => .obj [("status", .str "exposed")]
    | .provenNoAdmission => .obj [("status", .str "proven_no_admission")]
    | .observed => .obj [("status", .str "observed")]
  decode j := do
    match ← Fields.get string "status" (← openFields j) with
    | "exposed" => some .exposed
    | "proven_no_admission" => some .provenNoAdmission
    | "observed" => some .observed
    | _ => none
  decode_encode s := by cases s <;> rfl

def effectAttempt : Codec EffectAttempt where
  encode a := .obj [("attempt_id", attemptId.encode a.attemptId),
    ("state", effectAttemptState.encode a.state)]
  decode j := do
    let f ← closedFields ["attempt_id", "state"] j
    return ⟨← Fields.get attemptId "attempt_id" f, ← Fields.get effectAttemptState "state" f⟩
  decode_encode a := by
    rw [closedFields_obj]
    · simp (disch := decide +kernel) [Fields.find_tail, Fields.get]
    · decide +kernel
    · exact List.Sublist.refl _

def preparedCommand : Codec PreparedCommand where
  encode c := .obj [("bytes", base64.encode c.bytes), ("max_bytes", nat.encode c.maxBytes)]
  decode j := do
    let f ← closedFields ["bytes", "max_bytes"] j
    return ⟨← Fields.get base64 "bytes" f, ← Fields.get nat "max_bytes" f⟩
  decode_encode c := by
    rw [closedFields_obj]
    · simp (disch := decide +kernel) [Fields.find_tail, Fields.get]
    · decide +kernel
    · exact List.Sublist.refl _

def activityFailure : Codec ActivityFailure where
  encode
    | .application payload => .obj [("kind", .str "application"), ("detail", base64.encode payload)]
    | .timedOut => .obj [("kind", .str "timed_out")]
    | .actionDeadlineExceeded => .obj [("kind", .str "action_deadline_exceeded")]
  decode j := do
    let f ← openFields j
    match ← Fields.get string "kind" f with
    | "application" => return .application (← Fields.get base64 "detail" f)
    | "timed_out" => some .timedOut
    | "action_deadline_exceeded" => some .actionDeadlineExceeded
    | _ => none
  decode_encode
    | .application payload => by
      simp (disch := decide +kernel) [openFields, Fields.get, Fields.find_tail, string]
    | .timedOut => rfl
    | .actionDeadlineExceeded => rfl

def activityState : Codec ActivityState where
  encode
    | .scheduled => .obj [("status", .str "scheduled")]
    | .dispatchExposed id =>
      .obj [("status", .str "dispatch_exposed"), ("attempt_id", attemptId.encode id)]
    | .completed result => .obj [("status", .str "completed"), ("result", base64.encode result)]
  decode j := do
    let f ← openFields j
    match ← Fields.get string "status" f with
    | "scheduled" => some .scheduled
    | "dispatch_exposed" => return .dispatchExposed (← Fields.get attemptId "attempt_id" f)
    | "completed" => return .completed (← Fields.get base64 "result" f)
    | _ => none
  decode_encode
    | .scheduled => rfl
    | .dispatchExposed id => by
      simp (disch := decide +kernel) [openFields, Fields.get, Fields.find_tail, string]
    | .completed result => by
      simp (disch := decide +kernel) [openFields, Fields.get, Fields.find_tail, string]

/-- The wait of a handler is left out when there is none. -/
def activityAttemptState : Codec ActivityAttemptState where
  encode a := .obj ([("ordinal", nat.encode a.ordinal),
    ("retry_not_before_unix_millis", optionalInt.encode a.retryNotBeforeUnixMillis)] ++
    Fields.ofOption int "handler_wait_until_unix_millis" a.handlerWaitUntilUnixMillis)
  decode j := do
    let f ← closedFields ["ordinal", "retry_not_before_unix_millis",
      "handler_wait_until_unix_millis"] j
    return ⟨← Fields.get nat "ordinal" f,
      ← Fields.getD optionalInt "retry_not_before_unix_millis" f none,
      ← Fields.getOption int "handler_wait_until_unix_millis" f⟩
  decode_encode a := by
    rw [closedFields_obj]
    · simp (disch := decide +kernel) [Fields.find_tail, Fields.get, Fields.getD,
        Fields.getOption]
    · decide +kernel
    · exact (Fields.keys_ofOption_sublist _ _ _).append_left ["ordinal", "retry_not_before_unix_millis"]

/-- The fields of a record, some of them left out when they have their default value. -/
def activityRecord : Codec ActivityRecord where
  encode r := .obj ([("sequence", nat.encode r.sequence), ("spec", activitySpec.encode r.spec),
      ("attempt", activityAttemptState.encode r.attempt)] ++
    (Fields.ofOption preparedCommand "prepared_command" r.preparedCommand ++
    (Fields.ofOption completionClass "completion_class" r.completionClass ++
    (Fields.ofOption (list effectAttempt) "attempts"
      (if r.attempts = [] then none else some r.attempts) ++
    (Fields.ofOption activityFailure "failure" r.failure ++
    [("state", activityState.encode r.state)])))))
  decode j := do
    let f ← closedFields ["sequence", "spec", "attempt", "prepared_command", "completion_class",
      "attempts", "failure", "state"] j
    return ⟨← Fields.get nat "sequence" f, ← Fields.get activitySpec "spec" f,
      ← Fields.getD activityAttemptState "attempt" f .first,
      ← Fields.getOption preparedCommand "prepared_command" f,
      ← Fields.getOption completionClass "completion_class" f,
      ← Fields.getD (list effectAttempt) "attempts" f [],
      ← Fields.getOption activityFailure "failure" f, ← Fields.get activityState "state" f⟩
  decode_encode r := by
    have hattempts : (if r.attempts = [] then none else some r.attempts).getD [] = r.attempts := by
      split_ifs with h <;> simp [h]
    rw [closedFields_obj]
    · simp (disch := decide +kernel) [Fields.find_tail, Fields.find_ofOption_ne, Fields.get,
        Fields.getD, Fields.getOption, hattempts]
    · decide +kernel
    · simp only [List.map_append]
      exact (List.Sublist.refl ["sequence", "spec", "attempt"]).append
        ((Fields.keys_ofOption_sublist _ _ _).append ((Fields.keys_ofOption_sublist _ _ _).append
        ((Fields.keys_ofOption_sublist _ _ _).append ((Fields.keys_ofOption_sublist _ _ _).append
        (List.Sublist.refl ["state"])))))

def terminalOutcome : Codec TerminalOutcome where
  encode
    | .succeeded payload => .obj [("status", .str "succeeded"), ("payload", base64.encode payload)]
    | .failed payload => .obj [("status", .str "failed"), ("payload", base64.encode payload)]
  decode j := do
    let f ← closedFields ["status", "payload"] j
    match ← Fields.get string "status" f with
    | "succeeded" => return .succeeded (← Fields.get base64 "payload" f)
    | "failed" => return .failed (← Fields.get base64 "payload" f)
    | _ => none
  decode_encode o := by
    cases o <;> dsimp only <;> rw [closedFields_obj]
    · simp (disch := decide +kernel) [Fields.find_tail, Fields.get, string]
    · decide +kernel
    · exact List.Sublist.refl _
    · simp (disch := decide +kernel) [Fields.find_tail, Fields.get, string]
    · decide +kernel
    · exact List.Sublist.refl _

def executionContract : Codec ExecutionContract where
  encode c := .obj ([("spec", executionSpec.encode c.spec),
    ("admitted_max_encoded_checkpoint_bytes", nat.encode c.admittedMaxEncodedCheckpointBytes)] ++
    Fields.ofOption nat "admitted_max_terminal_encoded_checkpoint_bytes"
      c.admittedMaxTerminalEncodedCheckpointBytes)
  decode j := do
    let f ← closedFields ["spec", "admitted_max_encoded_checkpoint_bytes",
      "admitted_max_terminal_encoded_checkpoint_bytes"] j
    return ⟨← Fields.get executionSpec "spec" f,
      ← Fields.get nat "admitted_max_encoded_checkpoint_bytes" f,
      ← Fields.getOption nat "admitted_max_terminal_encoded_checkpoint_bytes" f⟩
  decode_encode c := by
    rw [closedFields_obj]
    · simp (disch := decide +kernel) [Fields.find_tail, Fields.get, Fields.getOption]
    · decide +kernel
    · exact (Fields.keys_ofOption_sublist _ _ _).append_left
        ["spec", "admitted_max_encoded_checkpoint_bytes"]

/-- The fields of each lifecycle state follow its tag. -/
def checkpointState : Codec CheckpointState where
  encode
    | .active activities =>
      .obj [("lifecycle", .str "active"), ("activities", (list activityRecord).encode activities)]
    | .terminal outcome count metadata =>
      .obj ([("lifecycle", .str "terminal"), ("outcome", terminalOutcome.encode outcome),
        ("completed_activity_count", nat.encode count)] ++
        Fields.ofOption completionMetadata "completion_metadata" metadata)
  decode j := do
    match ← Fields.get string "lifecycle" (← openFields j) with
    | "active" =>
      let f ← closedFields ["lifecycle", "activities"] j
      return .active (← Fields.get (list activityRecord) "activities" f)
    | "terminal" =>
      let f ← closedFields ["lifecycle", "outcome", "completed_activity_count",
        "completion_metadata"] j
      return .terminal (← Fields.get terminalOutcome "outcome" f)
        (← Fields.get nat "completed_activity_count" f)
        (← Fields.getOption completionMetadata "completion_metadata" f)
    | _ => none
  decode_encode
    | .active activities => by
      simp only [openFields, Fields.get, string, Fields.find_head, Option.bind_eq_bind,
        Option.bind_some]
      rw [closedFields_obj]
      · simp (disch := decide +kernel) [Fields.find_tail]
      · decide +kernel
      · exact List.Sublist.refl _
    | .terminal outcome count metadata => by
      simp only [openFields, Fields.get, string, List.cons_append, Fields.find_head,
        Option.bind_eq_bind, Option.bind_some]
      rw [closedFields_obj]
      · simp (disch := decide +kernel) [Fields.find_tail, Fields.getOption]
      · decide +kernel
      · exact (Fields.keys_ofOption_sublist _ _ _).append_left
          ["lifecycle", "outcome", "completed_activity_count"]

def checkpointPayload : Codec CheckpointPayload where
  encode p := .obj [("execution", executionContract.encode p.execution),
    ("state", checkpointState.encode p.state)]
  decode j := do
    let f ← closedFields ["execution", "state"] j
    return ⟨← Fields.get executionContract "execution" f, ← Fields.get checkpointState "state" f⟩
  decode_encode p := by
    rw [closedFields_obj]
    · simp (disch := decide +kernel) [Fields.find_tail, Fields.get]
    · decide +kernel
    · exact List.Sublist.refl _

end Kuberic.Dex.Codec
