import Kuberic.Dex.Dispatch

/-!
# Room for the observation of an exposed attempt

Before an activity is exposed, the host reserves the space of its largest successful completion.
What is recorded later may be larger: a failure is a field of its own beside an empty result, and a
strict effect keeps the ledger entry of the attempt.  An exposed attempt can be recorded in every
case exactly when its largest failure fits.
-/

namespace Kuberic.Dex

open Check Json Serde Serde.Codec CheckpointEnvelope

/-! ## Recording -/

/-- What is observed of an exposed attempt. -/
inductive AttemptObservation
  | completed (result : ExactBytes)
  | failed (failure : ActivityFailure)
  | effect (disposition : EffectObservationDisposition) (result : ExactBytes)
      (failure : Option ActivityFailure)
  deriving DecidableEq

/-- The failure has at most the declared number of bytes. -/
def ActivityFailure.Within (failure : ActivityFailure) (maximum : Nat) : Prop :=
  ∀ payload ∈ failure.payload, payload.length ≤ maximum

/-- The observation respects the declared bound of the activity. -/
def AttemptObservation.Within (maximum : Nat) : AttemptObservation → Prop
  | .completed result => result.length ≤ maximum
  | .failed failure => failure.Within maximum
  | .effect _ result failure => result.length ≤ maximum ∧ ∀ f ∈ failure, f.Within maximum

namespace ActivityRecord

/-- The record that the observation of `attemptId` leads to. -/
def recorded (r : ActivityRecord) (attemptId : AttemptId) :
    AttemptObservation → Except CheckpointError ActivityRecord
  | .completed result => .ok (r.withState (.completed result))
  | .failed failure => .ok (r.withFailure failure)
  | .effect disposition result failure =>
    r.observeEffectAttempt attemptId disposition result failure

/-- The record of a failed attempt, with the ledger that a strict effect keeps of it. -/
def settled (r : ActivityRecord) (attemptId : AttemptId) (failure : ActivityFailure) :
    ActivityRecord :=
  if r.preparedCommand.isSome then r.observed attemptId .completed [] (some failure)
  else r.withFailure failure

end ActivityRecord

/-- The failures that take the most space: the one with the most bytes, and the one with the longest
name. -/
def largestFailures (maximum : Nat) : List ActivityFailure :=
  [.application (List.replicate maximum 0), .actionDeadlineExceeded]

/-- The checkpoint of a payload is within the limit on active checkpoints. -/
def CheckpointPayload.Fits (p : CheckpointPayload) (limits : CheckpointLimits) : Prop :=
  ∃ n, (encode p).encodedLen = .ok n ∧ n ≤ limits.maxActiveEncodedBytes

/-! ## Sizes of records -/

theorem CheckpointPayload.innerLen_eq (p : CheckpointPayload) :
    p.innerLen = size (Codec.checkpointPayload.encode p) :=
  length_toVec _

def fieldsSize (fields : Fields) : Nat := (fields.map fieldSize).sum

@[simp] theorem fieldsSize_append (a b : Fields) : fieldsSize (a ++ b) = fieldsSize a + fieldsSize b := by
  simp [fieldsSize]

@[simp] theorem fieldsSize_singleton (field : String × Json) : fieldsSize [field] = fieldSize field := by
  simp [fieldsSize]

def ledgerSize (attempts : List EffectAttempt) : Nat :=
  fieldsSize (Fields.ofOption (list Codec.effectAttempt) "attempts"
    (if attempts = [] then none else some attempts))

def failureSize (failure : Option ActivityFailure) : Nat :=
  fieldsSize (Fields.ofOption Codec.activityFailure "failure" failure)

def stateSize (state : ActivityState) : Nat := fieldSize ("state", Codec.activityState.encode state)

namespace ActivityRecord

/-- The bytes of the fields that an observation leaves alone. -/
def requestSize (r : ActivityRecord) : Nat :=
  fieldsSize [("sequence", nat.encode r.sequence), ("spec", Codec.activitySpec.encode r.spec),
    ("attempt", Codec.activityAttemptState.encode r.attempt)] +
  fieldsSize (Fields.ofOption Codec.preparedCommand "prepared_command" r.preparedCommand) +
  fieldsSize (Fields.ofOption Codec.completionClass "completion_class" r.completionClass)

theorem size_encode (r : ActivityRecord) :
    size (Codec.activityRecord.encode r) =
      r.requestSize + (ledgerSize r.attempts + failureSize r.failure + stateSize r.state) + 1 := by
  simp only [Codec.activityRecord]
  rw [size_obj (by simp)]
  change fieldsSize _ + 1 = _
  simp only [fieldsSize_append, fieldsSize_singleton, requestSize, ledgerSize, failureSize, stateSize]
  omega

end ActivityRecord

theorem stateSize_scheduled : stateSize .scheduled = 31 := by decide +kernel

theorem stateSize_completed (result : ExactBytes) :
    stateSize (.completed result) = 4 * ((result.length + 2) / 3) + 43 := by
  have hstatus : fieldSize ("status", .str "completed") = 21 := by decide +kernel
  have hresult : utf8Length (stringTail "result".toList) = 7 := by decide +kernel
  have hstate : utf8Length (stringTail "state".toList) = 6 := by decide +kernel
  rw [stateSize, fieldSize, hstate]
  simp only [Codec.activityState]
  rw [size_obj (by simp)]
  simp only [List.map_cons, List.map_nil, List.sum_cons, List.sum_nil, hstatus]
  rw [fieldSize, hresult, size_base64]
  omega

theorem failureSize_none : failureSize none = 0 := rfl

theorem failureSize_application (payload : ExactBytes) :
    failureSize (some (.application payload)) = 4 * ((payload.length + 2) / 3) + 45 := by
  have hkind : fieldSize ("kind", .str "application") = 21 := by decide +kernel
  have hdetail : utf8Length (stringTail "detail".toList) = 7 := by decide +kernel
  have hfailure : utf8Length (stringTail "failure".toList) = 8 := by decide +kernel
  rw [failureSize, Fields.ofOption, Option.map_some, Option.toList_some, fieldsSize_singleton,
    fieldSize, hfailure]
  simp only [Codec.activityFailure]
  rw [size_obj (by simp)]
  simp only [List.map_cons, List.map_nil, List.sum_cons, List.sum_nil, hkind]
  rw [fieldSize, hdetail, size_base64]
  omega

theorem failureSize_timedOut : failureSize (some .timedOut) = 31 := by decide +kernel

theorem ledgerSize_concat (base : List EffectAttempt) (attempt : EffectAttempt) :
    ledgerSize (base ++ [attempt]) =
      ledgerSize (base ++ [{ attempt with state := .exposed }]) +
        match attempt.state with
        | .exposed => 0
        | .observed => 1
        | .provenNoAdmission => 12 := by
  have hexposed : fieldSize ("state", Codec.effectAttemptState.encode .exposed) = 29 := by
    decide +kernel
  have hobserved : fieldSize ("state", Codec.effectAttemptState.encode .observed) = 30 := by
    decide +kernel
  have hproven : fieldSize ("state", Codec.effectAttemptState.encode .provenNoAdmission) = 41 := by
    decide +kernel
  have hattempt : ∀ a : EffectAttempt, size (Codec.effectAttempt.encode a) =
      fieldSize ("attempt_id", Codec.attemptId.encode a.attemptId) +
        fieldSize ("state", Codec.effectAttemptState.encode a.state) + 1 := by
    intro a
    simp only [Codec.effectAttempt]
    rw [size_obj (by simp)]
    simp only [List.map_cons, List.map_nil, List.sum_cons, List.sum_nil]
    omega
  have hledger : ∀ a : EffectAttempt, ledgerSize (base ++ [a]) =
      utf8Length (stringTail "attempts".toList) + 3 +
        ((base.map fun b => size (Codec.effectAttempt.encode b) + 1).sum +
          (size (Codec.effectAttempt.encode a) + 1) + 1) := by
    intro a
    have hne : base ++ [a] ≠ [] := by simp
    rw [ledgerSize, if_neg hne, Fields.ofOption, Option.map_some, Option.toList_some,
      fieldsSize_singleton, fieldSize]
    simp only [list]
    rw [size_arr (by simp)]
    simp only [List.map_append, List.map_map, List.map_cons, List.map_nil, List.sum_append,
      List.sum_cons, List.sum_nil, Function.comp_def]
    omega
  rw [hledger, hledger, hattempt, hattempt]
  cases hstate : attempt.state <;> simp only [hexposed, hobserved, hproven] <;> omega

/-! ## The largest observation -/

/-- The record of an exposed attempt. -/
structure ActivityRecord.Exposes (r : ActivityRecord) (attemptId : AttemptId) : Prop where
  failure : r.failure = none
  ledger : r.preparedCommand.isSome → ∃ base, r.attempts = base ++ [⟨attemptId, .exposed⟩]
  valid : r.preparedCommand.isSome → validateEffectAttempts r.attempts = .ok ()
  plain : r.preparedCommand = none → r.attempts = []

section

variable {r r' : ActivityRecord} {attemptId : AttemptId} {maximum : Nat}

theorem ledgerSize_observed {base : List EffectAttempt} :
    ledgerSize (base ++ [⟨attemptId, .observed⟩]) =
      ledgerSize (base ++ [⟨attemptId, .exposed⟩]) + 1 :=
  ledgerSize_concat base ⟨attemptId, .observed⟩

theorem ledgerSize_provenNoAdmission {base : List EffectAttempt} :
    ledgerSize (base ++ [⟨attemptId, .provenNoAdmission⟩]) =
      ledgerSize (base ++ [⟨attemptId, .exposed⟩]) + 12 :=
  ledgerSize_concat base ⟨attemptId, .provenNoAdmission⟩

theorem size_settled (h : r.Exposes attemptId) (failure : ActivityFailure) :
    (Codec.activityRecord.encode (r.settled attemptId failure)).size =
      r.requestSize + (ledgerSize r.attempts + (if r.preparedCommand.isSome then 1 else 0) +
        failureSize (some failure) + 43) + 1 := by
  have hstate : stateSize (.completed []) = 43 := stateSize_completed []
  rw [ActivityRecord.size_encode]
  unfold ActivityRecord.settled
  split_ifs with hcommand
  · obtain ⟨base, hbase⟩ := h.ledger hcommand
    have hattempts : (r.observed attemptId .completed [] (some failure)).attempts =
        base ++ [⟨attemptId, .observed⟩] := by
      simp [ActivityRecord.observed, ActivityRecord.finished, ActivityRecord.withFailure,
        ActivityRecord.withLastAttempt, hbase]
    rw [hattempts, ledgerSize_observed, hbase]
    simp only [ActivityRecord.observed, ActivityRecord.finished, ActivityRecord.withFailure,
      reduceCtorEq, false_and, if_false, hstate]
    rfl
  · simp only [ActivityRecord.withFailure, hstate]
    rfl

theorem failureSize_le {failure : ActivityFailure} (h : failure.Within maximum) :
    ∃ largest ∈ largestFailures maximum, failureSize (some failure) ≤ failureSize (some largest) := by
  have happlication : (4 * ((maximum + 2) / 3) + 45 : Nat) =
      failureSize (some (.application (List.replicate maximum 0))) := by
    rw [failureSize_application, List.length_replicate]
  cases failure with
  | application payload =>
    have hle : payload.length ≤ maximum := h payload rfl
    refine ⟨_, List.mem_cons_self, ?_⟩
    rw [← happlication, failureSize_application]
    omega
  | timedOut =>
    refine ⟨_, List.mem_cons_self, ?_⟩
    rw [← happlication, failureSize_timedOut]
    omega
  | actionDeadlineExceeded => exact ⟨_, by simp [largestFailures], le_rfl⟩

/-- Every bounded observation is recorded in at most the bytes of one of the largest failures. -/
theorem size_recorded_le (h : r.Exposes attemptId) {o : AttemptObservation} (ho : o.Within maximum)
    (hrecorded : r.recorded attemptId o = .ok r') :
    ∃ failure ∈ largestFailures maximum, (Codec.activityRecord.encode r').size ≤
      (Codec.activityRecord.encode (r.settled attemptId failure)).size := by
  have happlication : failureSize (some (.application (List.replicate maximum 0))) =
      4 * ((maximum + 2) / 3) + 45 := by
    rw [failureSize_application, List.length_replicate]
  -- A result within the bound takes less than the failure with the most bytes.
  have hresult : ∀ result : ExactBytes, result.length ≤ maximum →
      stateSize (.completed result) ≤
        failureSize (some (.application (List.replicate maximum 0))) + 43 := by
    intro result hle
    rw [stateSize_completed, happlication]
    omega
  have hempty : stateSize (.completed []) = 43 := stateSize_completed []
  cases o with
  | completed result =>
    cases hrecorded
    refine ⟨_, List.mem_cons_self, ?_⟩
    have hle := hresult result ho
    rw [size_settled h, ActivityRecord.size_encode]
    simp only [ActivityRecord.withState, failureSize_none]
    change r.requestSize + _ + 1 ≤ _
    omega
  | failed failure =>
    cases hrecorded
    obtain ⟨largest, hmem, hle⟩ := failureSize_le ho
    refine ⟨largest, hmem, ?_⟩
    rw [size_settled h, ActivityRecord.size_encode]
    simp only [ActivityRecord.withFailure, hempty]
    change r.requestSize + _ + 1 ≤ _
    omega
  | effect disposition result failure =>
    obtain ⟨hresultLe, hfailure⟩ := ho
    obtain ⟨rfl, hledger⟩ := observeEffectAttempt_eq_ok hrecorded
    have hcommand : r.preparedCommand.isSome := by
      by_contra hnone
      rw [h.plain (by simpa using hnone)] at hledger
      simp at hledger
    obtain ⟨base, hbase⟩ := h.ledger hcommand
    unfold ActivityRecord.observed
    split_ifs with hproven
    · -- Proven non-admission keeps a longer ledger and no result.
      refine ⟨_, List.mem_cons_self, ?_⟩
      rw [size_settled h, ActivityRecord.size_encode, if_pos hcommand]
      simp only [ActivityRecord.withLastAttempt, hbase, List.dropLast_concat,
        ledgerSize_provenNoAdmission, stateSize_scheduled, h.failure, failureSize_none, happlication]
      change r.requestSize + _ + 1 ≤ _
      omega
    · cases failure with
      | none =>
        refine ⟨_, List.mem_cons_self, ?_⟩
        have hle := hresult result hresultLe
        rw [size_settled h, ActivityRecord.size_encode, if_pos hcommand]
        simp only [ActivityRecord.finished, ActivityRecord.withLastAttempt, hbase,
          List.dropLast_concat, ledgerSize_observed, h.failure, failureSize_none]
        change r.requestSize + _ + 1 ≤ _
        omega
      | some failure =>
        obtain ⟨largest, hmem, hle⟩ := failureSize_le (hfailure failure rfl)
        refine ⟨largest, hmem, ?_⟩
        rw [size_settled h, ActivityRecord.size_encode, if_pos hcommand]
        simp only [ActivityRecord.finished, ActivityRecord.withFailure,
          ActivityRecord.withLastAttempt, hbase, List.dropLast_concat, ledgerSize_observed, hempty]
        change r.requestSize + _ + 1 ≤ _
        omega

end

/-! ## Checkpoints -/

theorem base64Len_mono {m n len : Nat} (h : m ≤ n) (hn : base64Len n = some len) :
    ∃ len', base64Len m = some len' ∧ len' ≤ len := by
  simp only [base64Len, Option.ite_none_right_eq_some, Option.some.injEq] at hn ⊢
  obtain ⟨hle, rfl⟩ := hn
  exact ⟨_, ⟨by omega, rfl⟩, by omega⟩

theorem orOverflow_eq_ok {α : Type} {o : Option α} {a : α} : orOverflow o = .ok a ↔ o = some a := by
  cases o <;> simp [orOverflow]

variable {p : CheckpointPayload}

theorem encodedLen_eq_projected {inner content : Nat} (h : p.innerLen = inner + content) :
    (encode p).encodedLen = projectedEncodedLen inner content := by
  have hempty : encodedLen ⟨checkpointFormatVersion, []⟩ =
      .ok (toJson ⟨checkpointFormatVersion, []⟩).toVec.length := by decide +kernel
  rw [encodedLen_encode h, projectedEncodedLen, hempty]
  by_cases hword : inner + content ≤ u64Max
  · simp only [checkedAdd, if_pos hword, orOverflow]
    rfl
  · have hlen : base64Len (inner + content) = none := by
      rw [base64Len, if_neg (by omega)]
    simp only [checkedAdd, if_neg hword, hlen, orOverflow]
    rfl

theorem CheckpointPayload.Fits.mono {q : CheckpointPayload} {limits : CheckpointLimits}
    (h : q.Fits limits) (hle : p.innerLen ≤ q.innerLen) : p.Fits limits := by
  obtain ⟨n, hn, hlimit⟩ := h
  rw [encodedLen_encode rfl] at hn
  obtain ⟨len, hlen, hadd⟩ := Check.bind_eq_ok.1 hn
  obtain ⟨len', hlen', hle'⟩ := base64Len_mono hle (orOverflow_eq_ok.1 hlen)
  rw [orOverflow_eq_ok, checkedAdd, Option.ite_none_right_eq_some, Option.some.injEq] at hadd
  obtain ⟨hadd, rfl⟩ := hadd
  refine ⟨(toJson ⟨checkpointFormatVersion, []⟩).toVec.length + len', ?_, by omega⟩
  rw [encodedLen_encode rfl]
  refine Check.bind_eq_ok.2 ⟨len', orOverflow_eq_ok.2 hlen', ?_⟩
  rw [orOverflow_eq_ok, checkedAdd, if_pos (by omega)]

theorem size_active (init : List ActivityRecord) (r r' : ActivityRecord) :
    (Codec.checkpointState.encode (.active (init ++ [r]))).size +
        (Codec.activityRecord.encode r').size =
      (Codec.checkpointState.encode (.active (init ++ [r']))).size +
        (Codec.activityRecord.encode r).size := by
  have hlist : ((list Codec.activityRecord).encode (init ++ [r])).size +
      (Codec.activityRecord.encode r').size =
      ((list Codec.activityRecord).encode (init ++ [r'])).size +
        (Codec.activityRecord.encode r).size := by
    simp only [list]
    rw [size_arr (by simp), size_arr (by simp)]
    simp only [List.map_append, List.map_cons, List.map_nil, List.sum_append, List.sum_cons,
      List.sum_nil]
    omega
  simp only [Codec.checkpointState]
  rw [size_obj (by simp), size_obj (by simp)]
  simp only [List.map_cons, List.map_nil, List.sum_cons, List.sum_nil, fieldSize]
  omega

variable {r : ActivityRecord}

theorem innerLen_last {q : CheckpointPayload} {init : List ActivityRecord} {r' : ActivityRecord}
    (hexecution : p.execution = q.execution) (hp : p.state = .active (init ++ [r]))
    (hq : q.state = .active (init ++ [r'])) :
    p.innerLen + (Codec.activityRecord.encode r').size =
      q.innerLen + (Codec.activityRecord.encode r).size := by
  have hsize := size_active init r r'
  rw [CheckpointPayload.innerLen_eq, CheckpointPayload.innerLen_eq]
  simp only [Codec.checkpointPayload, hp, hq, hexecution]
  rw [size_obj (by simp), size_obj (by simp)]
  simp only [List.map_cons, List.map_nil, List.sum_cons, List.sum_nil, fieldSize]
  omega

theorem execution_replaceFinalRecord (p : CheckpointPayload) (r : ActivityRecord) :
    (p.replaceFinalRecord r).execution = p.execution := by
  unfold CheckpointPayload.replaceFinalRecord
  split <;> rfl

/-- What an exposure proposes: a checkpoint within the limits whose last record is exposed. -/
theorem exposes_of_prepareExposure {h h' : DurableHost} {execution : ExecutionSpec}
    {expected : Option StorageRevision} {boundary : PersistenceBoundary}
    {checkpoint : CheckpointEnvelope} {activity : LogicalActivityId} {proposal : Proposal}
    (hexpose : h.prepareExposure execution expected boundary checkpoint activity =
      (h', .ok proposal)) (hp : proposal.checkpoint.payload? = some p) (hr : p.lastRecord? = some r) :
    r.Exposes h.nextAttempt := by
  unfold DurableHost.prepareExposure at hexpose
  cases hexposable : h.exposable execution checkpoint with
  | error error => simp [hexposable] at hexpose
  | ok found =>
    obtain ⟨payload, r₀⟩ := found
    obtain ⟨init, hstate⟩ := lastRecord?_eq_some (exposable_eq_ok hexposable).2
    simp only [hexposable, Prod.mk.injEq, orRejected_eq_ok, DurableHost.exposureProposal, bind_eq_ok,
      pure, Except.pure, Except.ok.injEq] at hexpose
    obtain ⟨-, exposed, hattempt, checkpoint', hencode, rfl⟩ := hexpose
    cases exposeAttempt_eq_ok hattempt
    obtain ⟨rfl, hvalid, -⟩ := encodeWithLimits_eq_ok.1 hencode
    have hstate' := state_replaceFinalRecord (r₀.exposed h.nextAttempt) hstate
    obtain rfl : payload.replaceFinalRecord (r₀.exposed h.nextAttempt) = p := by
      rw [payload_encode] at hp
      exact Option.some.inj hp
    obtain rfl : r₀.exposed h.nextAttempt = r := by
      simpa [CheckpointPayload.lastRecord?, CheckpointPayload.activeActivities, hstate'] using hr
    have hhistory := CheckpointPayload.validHistory hvalid hstate'
    exact ⟨failure_eq_none hhistory (by simp [ActivityRecord.exposed, ActivityRecord.exposedAttempt?]),
      fun hcommand => ⟨r₀.attempts, ActivityRecord.attempts_exposed hcommand⟩,
      hhistory.last.attempts, hhistory.last.plain⟩

variable {attemptId : AttemptId}

theorem validateEffectAttempts_concat {base : List EffectAttempt}
    {state state' : EffectAttemptState}
    (h : validateEffectAttempts (base ++ [⟨attemptId, state⟩]) = .ok ()) :
    validateEffectAttempts (base ++ [⟨attemptId, state'⟩]) = .ok () := by
  match base with
  | [] => rfl
  | [first] => simpa [validateEffectAttempts] using h
  | _ :: _ :: _ => simp [validateEffectAttempts] at h

/-- Each of the largest failures can be observed of an exposed attempt. -/
theorem recorded_settled {maximum : Nat} {failure : ActivityFailure} (h : r.Exposes attemptId)
    (hfailure : failure ∈ largestFailures maximum) :
    ∃ o : AttemptObservation, o.Within maximum ∧
      r.recorded attemptId o = .ok (r.settled attemptId failure) := by
  have hwithin : failure.Within maximum := by
    simp only [largestFailures, List.mem_cons, List.not_mem_nil, or_false] at hfailure
    rcases hfailure with rfl | rfl <;> simp [ActivityFailure.Within, ActivityFailure.payload]
  by_cases hcommand : r.preparedCommand.isSome
  · obtain ⟨base, hbase⟩ := h.ledger hcommand
    have hvalid := h.valid hcommand
    rw [hbase] at hvalid
    have hattempts : (r.observed attemptId .completed [] (some failure)).attempts =
        base ++ [⟨attemptId, .observed⟩] := by
      simp [ActivityRecord.observed, ActivityRecord.finished, ActivityRecord.withFailure,
        ActivityRecord.withLastAttempt, hbase]
    refine ⟨.effect .completed [] (some failure), ⟨Nat.zero_le _, ?_⟩, ?_⟩
    · intro f hf
      exact Option.some.inj hf ▸ hwithin
    · have hlast : r.attempts.getLast? = some ⟨attemptId, .exposed⟩ := by rw [hbase]; simp
      simp only [ActivityRecord.recorded, ActivityRecord.observeEffectAttempt, hlast, ne_eq,
        not_true_eq_false, or_self, if_false, hattempts, validateEffectAttempts_concat hvalid,
        effectContract, ActivityRecord.settled, if_pos hcommand]
      rfl
  · exact ⟨.failed failure, hwithin, by rw [ActivityRecord.settled, if_neg hcommand]; rfl⟩

/-- Every bounded observation of an exposed attempt can be recorded. -/
def ActivityRecord.Recordable (r : ActivityRecord) (attemptId : AttemptId) (p : CheckpointPayload)
    (limits : CheckpointLimits) : Prop :=
  ∀ o : AttemptObservation, o.Within r.spec.maxResultBytes →
    ∀ r', r.recorded attemptId o = .ok r' → (p.replaceFinalRecord r').Fits limits

theorem ActivityRecord.Exposes.recordable_iff {limits : CheckpointLimits} (h : r.Exposes attemptId)
    (hr : p.lastRecord? = some r) : r.Recordable attemptId p limits ↔
      ∀ failure ∈ largestFailures r.spec.maxResultBytes,
        (p.replaceFinalRecord (r.settled attemptId failure)).Fits limits := by
  obtain ⟨init, hstate⟩ := lastRecord?_eq_some hr
  constructor
  · intro hall failure hfailure
    obtain ⟨o, ho, hrecorded⟩ := recorded_settled h hfailure
    exact hall o ho _ hrecorded
  · intro hfits o ho r' hrecorded
    obtain ⟨failure, hfailure, hle⟩ := size_recorded_le h ho hrecorded
    have hlast := innerLen_last
      ((execution_replaceFinalRecord p r').trans (execution_replaceFinalRecord p _).symm)
      (state_replaceFinalRecord _ hstate)
      (state_replaceFinalRecord (r.settled attemptId failure) hstate)
    exact (hfits failure hfailure).mono (by omega)

/-- After an exposure, every bounded observation of the attempt leads to a checkpoint within the
limit on active checkpoints exactly when the largest failures do. -/
theorem exposed_recordable_iff {h h' : DurableHost} {execution : ExecutionSpec}
    {expected : Option StorageRevision} {boundary : PersistenceBoundary}
    {checkpoint : CheckpointEnvelope} {activity : LogicalActivityId} {proposal : Proposal}
    (hexpose : h.prepareExposure execution expected boundary checkpoint activity =
      (h', .ok proposal)) (hp : proposal.checkpoint.payload? = some p) (hr : p.lastRecord? = some r) :
    (∀ o : AttemptObservation, o.Within r.spec.maxResultBytes →
      ∀ r', r.recorded h.nextAttempt o = .ok r' → (p.replaceFinalRecord r').Fits h.limits) ↔
    ∀ failure ∈ largestFailures r.spec.maxResultBytes,
      (p.replaceFinalRecord (r.settled h.nextAttempt failure)).Fits h.limits :=
  (exposes_of_prepareExposure hexpose hp hr).recordable_iff hr

/-- The same in bytes.  The reservation projects a result of the declared maximum onto the empty
completion; what can be recorded has the last byte of the ledger entry and a failure there. -/
theorem recordable_iff_projected {limits : CheckpointLimits} (h : r.Exposes attemptId)
    (hr : p.lastRecord? = some r) :
    let inner := (p.replaceFinalRecord { r with state := .completed [] }).innerLen
    p.maximumActivityCompletedEncodedLen =
        (orOverflow (base64Len r.spec.maxResultBytes) >>= projectedEncodedLen inner) ∧
      (r.Recordable attemptId p limits ↔ ∀ failure ∈ largestFailures r.spec.maxResultBytes,
        ∃ n, projectedEncodedLen inner ((if r.preparedCommand.isSome then 1 else 0) +
          failureSize (some failure)) = .ok n ∧ n ≤ limits.maxActiveEncodedBytes) := by
  intro inner
  obtain ⟨init, hstate⟩ := lastRecord?_eq_some hr
  have hactive : p.activeActivities = some (init ++ [r]) := by
    rw [CheckpointPayload.activeActivities, hstate]
  refine ⟨?_, (h.recordable_iff hr).trans (forall₂_congr fun failure _ => ?_)⟩
  · simp only [CheckpointPayload.maximumActivityCompletedEncodedLen, hactive, Check.demand,
      List.getLast?_concat, bind, Except.bind]
    rfl
  · have hlast := innerLen_last ((execution_replaceFinalRecord p _).trans
      (execution_replaceFinalRecord p { r with state := .completed [] }).symm)
      (state_replaceFinalRecord (r.settled attemptId failure) hstate)
      (state_replaceFinalRecord { r with state := .completed [] } hstate)
    have hempty : stateSize (.completed []) = 43 := stateSize_completed []
    have hnone : failureSize r.failure = 0 := by rw [h.failure, failureSize_none]
    rw [size_settled h, ActivityRecord.size_encode] at hlast
    simp only [hempty, hnone] at hlast
    change _ + (r.requestSize + _ + 1) = inner + _ at hlast
    have hinner : (p.replaceFinalRecord (r.settled attemptId failure)).innerLen = inner +
        ((if r.preparedCommand.isSome then 1 else 0) + failureSize (some failure)) := by omega
    rw [CheckpointPayload.Fits, encodedLen_eq_projected hinner]

/-! ## An effect whose result cannot be stored -/

theorem encodeWithLimits_exceeded {limits : CheckpointLimits} {records : List ActivityRecord}
    {n : Nat} (hstate : p.state = .active records) (hvalid : p.validateInternal limits = .ok ())
    (hn : (encode p).encodedLen = .ok n) (hlt : limits.maxActiveEncodedBytes < n) :
    encodeWithLimits p limits =
      .error (.encodedCheckpointLimitExceeded n limits.maxActiveEncodedBytes) := by
  simp only [encodeWithLimits, hvalid, validateLifecycleEncodedSize, hn, hstate, checkLifecycleSize,
    Check.rejectIf, if_pos hlt, bind, Except.bind]

theorem observeEffect_rejected {h : DurableHost} {execution : ExecutionSpec}
    {stored : StoredCheckpoint} {observation : DurableHost.EffectObservation}
    {payload : CheckpointPayload} {r' : ActivityRecord} {error : CheckpointError}
    (hfound : h.observedRecord execution observation.activity (some stored) =
      .ok (stored.revision, payload, r)) (hattempt : r.exposedAttempt? = some observation.attemptId)
    (hbound : DurableHost.checkResultBound r (max observation.result.length
      ((observation.failure.bind (·.payload)).elim 0 List.length)) = .ok ())
    (hobserve : r.observeEffectAttempt observation.attemptId observation.disposition
      observation.result observation.failure = .ok r')
    (hencode : encodeWithLimits (payload.replaceFinalRecord r') h.limits = .error error) :
    h.observeEffect execution observation (some stored) = .error (.checkpointRejected error) := by
  simp only [DurableHost.observeEffect, DurableHost.observeEffectWithRedelivery, if_true, hfound,
    hattempt, hbound, hobserve, DurableHost.replacementProposal, hencode, orRejected, Check.rejectIf,
    ne_eq, not_true_eq_false, if_false, bind, Except.bind]

namespace LargeResult

def executionSpec : ExecutionSpec := ⟨.filled 0, [], 0⟩

def contract : ExecutionContract := ⟨executionSpec, 1213, some 1000⟩

def limits : CheckpointLimits := ⟨1, 1213, 1000, Nat.one_ne_zero,
  Nat.succ_ne_zero (nat_lit 1212), Nat.succ_ne_zero (nat_lit 999)⟩

def spec : ActivitySpec := ⟨LateAnswer.charge, [], 0, 60, default⟩

def host : DurableHost := .new (.filled 1) limits

def scheduled : ActivityRecord :=
  ⟨0, spec, .first, some ⟨[7], 1⟩, some .externalEffect, [], none, .scheduled⟩

def exposed : ActivityRecord := scheduled.exposed host.nextAttempt

/-- A result of the declared maximum. -/
def result : ExactBytes := List.replicate 60 0

def completed : ActivityRecord := exposed.observed host.nextAttempt .completed result none

def payload (r : ActivityRecord) : CheckpointPayload := .active contract [r]

theorem validateInternal_payload (r : ActivityRecord)
    (hstate : validateState (payload r) limits = .ok ()) :
    (payload r).validateInternal limits = .ok () := by
  have hlengths : (CheckpointPayload.terminalCandidates contract ⟨u64Max, u64Max, 0⟩
      ⟨u64Max, 10 ^ 19, u64Max - 10 ^ 19⟩).map CheckpointPayload.innerLen =
        [350, 347, 497, 494, 515, 512] := by
    unfold CheckpointPayload.innerLen
    simp only [Json.length_toVec]
    decide +kernel
  have hpayload : base64Len contract.spec.maxTerminalPayloadBytes = some 0 := by decide
  have hterminal : (payload r).maximumTerminalEncodedLen =
      largestProjected 0 [350, 347, 497, 494, 515, 512] :=
    maximumTerminalEncodedLen_eq hpayload hlengths
  have hlargest : largestProjected 0 [350, 347, 497, 494, 515, 512] = .ok 721 := by decide +kernel
  have hadmitted : (payload r).execution.admittedTerminal = 1000 := rfl
  exact validateInternal_of_state (hterminal.trans hlargest) (hadmitted ▸ by decide) rfl rfl hstate

theorem encodedLen_scheduled : (encode (payload scheduled)).encodedLen = .ok 949 := by
  have hinner : (payload scheduled).innerLen = 685 := by
    rw [CheckpointPayload.innerLen, Json.length_toVec]
    decide +kernel
  exact encodedLen_of_innerLen hinner rfl

theorem encodedLen_exposed : (encode (payload exposed)).encodedLen = .ok 1213 := by
  have hinner : (payload exposed).innerLen = 884 := by
    rw [CheckpointPayload.innerLen, Json.length_toVec]
    decide +kernel
  exact encodedLen_of_innerLen hinner rfl

theorem encodedLen_completed : (encode (payload completed)).encodedLen = .ok 1229 := by
  have hinner : (payload completed).innerLen = 896 := by
    rw [CheckpointPayload.innerLen, Json.length_toVec]
    decide +kernel
  exact encodedLen_of_innerLen hinner rfl

theorem reserved_scheduled : (payload scheduled).maximumActivityCompletedEncodedLen = .ok 1069 := by
  have hstate : (payload scheduled).state = .active ([] ++ [scheduled]) := rfl
  have hreplace : (payload scheduled).replaceFinalRecord { scheduled with state := .completed [] } =
      payload { scheduled with state := .completed [] } := rfl
  have hinner : ((payload scheduled).replaceFinalRecord
      { scheduled with state := .completed [] }).innerLen = 697 := by
    rw [hreplace, CheckpointPayload.innerLen, Json.length_toVec]
    decide +kernel
  have hresult : base64Len scheduled.spec.maxResultBytes = some 80 := by decide
  have hprojected : projectedEncodedLen 697 80 = .ok 1069 := by decide +kernel
  exact (maximumActivityCompletedEncodedLen_eq hstate hresult hinner).trans hprojected

theorem stores_scheduled :
    encodeWithLimits (payload scheduled) limits = .ok (encode (payload scheduled)) ∧
      (encode (payload scheduled)).decodeAndValidate executionSpec limits = .ok (payload scheduled) :=
  stored_of_encodedLen rfl (validateInternal_payload scheduled (by decide +kernel))
    encodedLen_scheduled (by decide)

theorem stores_exposed :
    encodeWithLimits (payload exposed) limits = .ok (encode (payload exposed)) ∧
      (encode (payload exposed)).decodeAndValidate executionSpec limits = .ok (payload exposed) :=
  stored_of_encodedLen rfl (validateInternal_payload exposed (by decide +kernel))
    encodedLen_exposed (by decide)

theorem prepareExposure_scheduled :
    host.prepareExposure executionSpec none .scheduleExposure (encode (payload scheduled))
      (scheduled.logicalId executionSpec.executionId) = (host.advance,
        .ok ⟨none, encode (payload exposed), .scheduleExposure,
          .exposure (scheduled.permit executionSpec.executionId host.nextAttempt)⟩) := by
  have hexposable : host.exposable executionSpec (encode (payload scheduled)) =
      .ok (payload scheduled, scheduled) :=
    exposable_eq stores_scheduled.2 rfl reserved_scheduled (by decide)
  have hexposed : encodeWithLimits ((payload scheduled).replaceFinalRecord exposed) limits =
      .ok (encode (payload exposed)) := by
    rw [show (payload scheduled).replaceFinalRecord exposed = payload exposed from rfl]
    exact stores_exposed.1
  exact prepareExposure_eq hexposable rfl hexposed

/-- The observation of the result. -/
def observation : DurableHost.EffectObservation :=
  ⟨exposed.logicalId executionSpec.executionId, host.nextAttempt, result, none, .completed⟩

theorem encode_completed : encodeWithLimits ((payload exposed).replaceFinalRecord completed) limits =
    .error (.encodedCheckpointLimitExceeded 1229 1213) := by
  rw [show (payload exposed).replaceFinalRecord completed = payload completed from rfl]
  exact encodeWithLimits_exceeded rfl (validateInternal_payload completed (by decide +kernel))
    encodedLen_completed (by decide)

theorem observeEffect_observation (revision : StorageRevision) :
    host.observeEffect executionSpec observation (some ⟨revision, encode (payload exposed)⟩) =
      .error (.checkpointRejected (.encodedCheckpointLimitExceeded 1229 1213)) :=
  observeEffect_rejected (observedRecord_eq stores_exposed.2 rfl rfl) rfl
    (Check.rejectIf_eq_ok.2 (by decide)) rfl encode_completed

theorem not_fits_completed : ¬((payload exposed).replaceFinalRecord completed).Fits limits := by
  rw [show (payload exposed).replaceFinalRecord completed = payload completed from rfl]
  rintro ⟨n, hn, hle⟩
  rw [encodedLen_completed] at hn
  cases hn
  exact absurd hle (by decide)

/-- The host exposes an effect and is then refused when it records a result of the declared
maximum. -/
theorem result_unrecordable :
    (∃ h' proposal, host.prepareExposure executionSpec none .scheduleExposure
        (encode (payload scheduled)) (scheduled.logicalId executionSpec.executionId) =
          (h', .ok proposal) ∧ proposal.checkpoint = encode (payload exposed)) ∧
      result.length = exposed.spec.maxResultBytes ∧
      exposed.recorded host.nextAttempt (.effect .completed result none) = .ok completed ∧
      ¬((payload exposed).replaceFinalRecord completed).Fits limits ∧
      ∀ revision, host.observeEffect executionSpec observation
          (some ⟨revision, encode (payload exposed)⟩) =
        .error (.checkpointRejected (.encodedCheckpointLimitExceeded 1229 1213)) :=
  ⟨⟨_, _, prepareExposure_scheduled, rfl⟩, rfl, rfl, not_fits_completed, observeEffect_observation⟩

theorem largest_failure_unrecordable : ¬∀ failure ∈ largestFailures exposed.spec.maxResultBytes,
    ((payload exposed).replaceFinalRecord (exposed.settled host.nextAttempt failure)).Fits
      host.limits := by
  intro hfits
  have hall := (exposed_recordable_iff prepareExposure_scheduled (payload_encode _) rfl).2 hfits
  exact not_fits_completed
    (hall (.effect .completed result none) ⟨(by decide : 60 ≤ 60), nofun⟩ completed rfl)

end LargeResult

end Kuberic.Dex
