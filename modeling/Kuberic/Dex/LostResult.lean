import Kuberic.Dex.Runner
import Kuberic.Dex.TerminalSpace
import Kuberic.Dex.Wakeup

/-!
# Recovery of a lost result

A runner that finds an ordinary activity exposed retries it, and records a failure when there is no
retry time.  The retried record is smaller than the exposed one, so a retry has room.  The failure is
checked like any other: its bytes count against the declared bound of the activity, and its record may
be larger than the exposed one.  An activity without a retry time and without room for the failure
stays exposed.
-/

namespace Kuberic.Dex

open Check Json Serde Serde.Codec CheckpointEnvelope

/-! ## Records of a recovery -/

namespace ActivityRecord

variable {r : ActivityRecord} {t : Int} {index : Nat}

/-- The record of the attempt after this one. -/
def retried (r : ActivityRecord) (t : Int) : ActivityRecord :=
  { r with attempt := ⟨r.attempt.ordinal + 1, some t, none⟩, state := .scheduled }

theorem scheduleRetry_eq_retried (hexposed : r.exposedAttempt? ≠ none)
    (hattempts : r.attempt.ordinal < r.spec.options.maxAttempts)
    (hword : r.spec.options.maxAttempts ≤ u32Max) : r.scheduleRetry t = .ok (r.retried t) := by
  rw [scheduleRetry, if_neg hexposed, if_neg (by omega), if_neg (by omega)]
  rfl

theorem validateRecord_eq_ok (hplain : r.preparedCommand = none) :
    validateRecord index true r = .ok () ↔ r.sequence = index ∧
      (r.attempt.ordinal ≠ 0 ∧ r.attempt.ordinal ≤ r.spec.options.maxAttempts) ∧
      (r.attempt.ordinal = 1 → r.attempt.retryNotBeforeUnixMillis = none) ∧
      r.spec.input.length ≤ r.spec.maxInputBytes ∧ r.attempts = [] ∧
      (r.failure ≠ none → r.state.isCompleted = true) ∧
      (∀ payload ∈ r.failure.bind (·.payload), payload.length ≤ r.spec.maxResultBytes) ∧
      ∀ result, r.state = .completed result → result.length ≤ r.spec.maxResultBytes := by
  have hcompletion : validateCompletion r true = .ok () ↔
      ∀ result, r.state = .completed result → result.length ≤ r.spec.maxResultBytes := by
    unfold validateCompletion
    cases r.state <;> simp
  simp only [validateRecord, validateEffectFields, hplain, seq_eq_ok, rejectIf_eq_ok, onSome_eq_ok,
    hcompletion, not_not, not_or, not_and, not_lt, ne_eq, Bool.not_eq_false, Option.mem_def]

theorem validateRecord_retried (hvalid : validateRecord index true r = .ok ())
    (hplain : r.preparedCommand = none) (hfailure : r.failure = none)
    (hattempts : r.attempt.ordinal < r.spec.options.maxAttempts) :
    validateRecord index true (r.retried t) = .ok () := by
  obtain ⟨hsequence, -, -, hinput, hledger, -⟩ := (validateRecord_eq_ok hplain).1 hvalid
  refine (validateRecord_eq_ok (r := r.retried t) hplain).2 ⟨hsequence,
    ⟨Nat.succ_ne_zero _, hattempts⟩, fun hfirst => ?_, hinput, hledger, ?_, ?_, ?_⟩
  · have hordinal : r.attempt.ordinal + 1 = 1 := hfirst
    have hne := ((validateRecord_eq_ok hplain).1 hvalid).2.1.1
    omega
  · intro hne
    exact absurd hfailure hne
  · intro payload hpayload
    have hnone : (r.retried t).failure = none := hfailure
    simp [hnone] at hpayload
  · rintro result ⟨⟩

theorem validateRecord_withFailure {failure : ActivityFailure}
    (hvalid : validateRecord index true r = .ok ()) (hplain : r.preparedCommand = none)
    (hbound : failure.Within r.spec.maxResultBytes) :
    validateRecord index true (r.withFailure failure) = .ok () := by
  obtain ⟨hsequence, hordinal, hretry, hinput, hledger, -⟩ := (validateRecord_eq_ok hplain).1 hvalid
  refine (validateRecord_eq_ok (r := r.withFailure failure) hplain).2 ⟨hsequence, hordinal, hretry,
    hinput, hledger, fun _ => rfl, hbound, ?_⟩
  rintro result ⟨⟩
  exact Nat.zero_le _

end ActivityRecord

/-! ## Checkpoints with another last record -/

section

variable {p : CheckpointPayload} {limits : CheckpointLimits} {init : List ActivityRecord}
  {r r' : ActivityRecord}

theorem validateRecord_last (hvalid : p.validateInternal limits = .ok ())
    (hstate : p.state = .active (init ++ [r])) : validateRecord init.length true r = .ok () := by
  have hhistory : ValidHistory (init ++ [r]) := CheckpointPayload.validHistory hvalid hstate
  simpa using validateRecordsFrom_eq_ok.1 hhistory init.length r (by simp)

theorem validateInternal_replaceFinalRecord (hvalid : p.validateInternal limits = .ok ())
    (hstate : p.state = .active (init ++ [r])) (hr' : validateRecord init.length true r' = .ok ()) :
    (p.replaceFinalRecord r').validateInternal limits = .ok () := by
  have hexecution := execution_replaceFinalRecord p r'
  obtain ⟨reserved, hreserved, hrest⟩ := bind_eq_ok.1 hvalid
  obtain ⟨hadmitted, hterminal, hactive⟩ := capacities_of_validateInternal hreserved hvalid
  simp only [seq_eq_ok, validateState, hstate] at hrest
  obtain ⟨-, -, -, -, hcount, hhistory⟩ := hrest
  refine validateInternal_of_state ((maximumTerminalEncodedLen_congr hexecution).trans hreserved)
    (hexecution ▸ hadmitted) (hexecution ▸ hterminal) (hexecution ▸ hactive) ?_
  simp only [validateState, state_replaceFinalRecord r' hstate, seq_eq_ok]
  refine ⟨by simpa [validateActivityCount] using hcount, validateRecordsFrom_eq_ok.2 ?_⟩
  intro i record hrecord
  -- Only the last place of the history changes.
  rcases Nat.lt_trichotomy i init.length with hlt | rfl | hgt
  · have hbefore := validateRecordsFrom_eq_ok.1 hhistory i record
      (by rwa [List.getElem?_append_left hlt] at hrecord ⊢)
    simpa using hbefore
  · obtain rfl : r' = record := by simpa using hrecord
    simpa using hr'
  · rw [List.getElem?_eq_none (by simp; omega)] at hrecord
    cases hrecord

theorem encodeWithLimits_cases (hvalid : p.validateInternal limits = .ok ())
    (hstate : p.state = .active init) :
    (p.Fits limits ∧ encodeWithLimits p limits = .ok (encode p)) ∨
      ¬p.Fits limits ∧ ∃ error, encodeWithLimits p limits = .error error ∧
        ∀ sequence attempted maximum,
          error ≠ .activityAttemptLimitExceeded sequence attempted maximum := by
  have hoverflow : ∀ error, (encode p).encodedLen = .error error → error = .encodedLengthOverflow := by
    intro error herror
    unfold encodedLen at herror
    cases hlen : base64Len (encode p).payload.length with
    | none =>
      rw [hlen] at herror
      exact (Except.error.inj herror).symm
    | some len =>
      simp only [hlen, orOverflow, bind, Except.bind] at herror
      split at herror
      · cases herror
      · exact (Except.error.inj herror).symm
  cases hlen : (encode p).encodedLen with
  | error error =>
    obtain rfl := hoverflow error hlen
    refine Or.inr ⟨?_, .encodedLengthOverflow, ?_, by simp⟩
    · rintro ⟨n, hn, -⟩
      rw [hlen] at hn
      cases hn
    · simp only [encodeWithLimits, hvalid, validateLifecycleEncodedSize, hlen, bind, Except.bind]
  | ok n =>
    rcases Nat.lt_or_ge limits.maxActiveEncodedBytes n with hlt | hle
    · refine Or.inr ⟨?_, _, encodeWithLimits_exceeded hstate hvalid hlen hlt, by simp⟩
      rintro ⟨m, hm, hle⟩
      rw [hlen] at hm
      cases hm
      omega
    · exact Or.inl ⟨⟨n, hlen, hle⟩, (stored_of_encodedLen hstate hvalid hlen hle).1⟩

end

/-! ## A retry has room -/

/-- The bytes that the attempt of a record takes. -/
def attemptSize (attempt : ActivityAttemptState) : Nat :=
  fieldSize ("attempt", Codec.activityAttemptState.encode attempt)

theorem attemptSize_eq (attempt : ActivityAttemptState) :
    attemptSize attempt = digits attempt.ordinal +
      (Codec.optionalInt.encode attempt.retryNotBeforeUnixMillis).size +
      fieldsSize (Fields.ofOption int "handler_wait_until_unix_millis"
        attempt.handlerWaitUntilUnixMillis) + 55 := by
  have hnames : utf8Length (stringTail "attempt".toList) = 8 ∧
      utf8Length (stringTail "ordinal".toList) = 8 ∧
      utf8Length (stringTail "retry_not_before_unix_millis".toList) = 29 := by decide +kernel
  obtain ⟨hattempt, hordinal, hretry⟩ := hnames
  rw [attemptSize, fieldSize, hattempt]
  simp only [Codec.activityAttemptState]
  rw [size_obj (by simp)]
  change _ + (fieldsSize _ + 1) + 3 = _
  rw [fieldsSize_append]
  simp only [fieldsSize, List.map_cons, List.map_nil, List.sum_cons, List.sum_nil, fieldSize,
    hordinal, hretry, size_nat]
  omega

theorem digits_succ_le (n : Nat) : digits (n + 1) ≤ digits n + 1 := by
  have hlt : n < 10 ^ digits n :=
    (Nat.length_toDigits_le_iff (by decide) Nat.length_toDigits_pos).1 le_rfl
  refine digits_le (Nat.succ_pos _) ?_
  rw [Nat.pow_succ]
  omega

theorem size_int_le {t : Int} (hmin : i64Min ≤ t) (hmax : t ≤ i64Max) : (int.encode t).size ≤ 20 := by
  have hsize := size_num t
  have hdigits : digits t.natAbs ≤ 19 := digits_le (by decide) (by
    unfold i64Min at hmin
    unfold i64Max at hmax
    omega)
  unfold digits at hdigits
  simp only [int]
  rw [hsize]
  split_ifs <;> omega

theorem le_stateSize_dispatchExposed (attemptId : AttemptId) :
    78 ≤ stateSize (.dispatchExposed attemptId) := by
  have hstatus : fieldSize ("status", .str "dispatch_exposed") = 28 := by decide +kernel
  have hnames : utf8Length (stringTail "state".toList) = 6 ∧
      utf8Length (stringTail "attempt_id".toList) = 11 ∧
      utf8Length (stringTail "host_epoch".toList) = 11 ∧
      utf8Length (stringTail "counter".toList) = 8 := by decide +kernel
  obtain ⟨hstate, hattempt, hepoch, hcounter⟩ := hnames
  rw [stateSize, fieldSize, hstate]
  simp only [Codec.activityState, Codec.attemptId]
  rw [size_obj (by simp)]
  simp only [List.map_cons, List.map_nil, List.sum_cons, List.sum_nil, hstatus]
  rw [fieldSize, hattempt, size_obj (by simp)]
  simp only [List.map_cons, List.map_nil, List.sum_cons, List.sum_nil, fieldSize, hepoch, hcounter]
  omega

theorem size_retried_le {r : ActivityRecord} {attemptId : AttemptId} {t : Int}
    (hexposed : r.exposedAttempt? = some attemptId) (hmin : i64Min ≤ t) (hmax : t ≤ i64Max) :
    (Codec.activityRecord.encode (r.retried t)).size ≤ (Codec.activityRecord.encode r).size := by
  have hstate : r.state = .dispatchExposed attemptId := by
    unfold ActivityRecord.exposedAttempt? at hexposed
    cases hstate : r.state <;> simp_all
  have hrequest : ∀ record : ActivityRecord, record.requestSize =
      fieldsSize [("sequence", nat.encode record.sequence),
        ("spec", Codec.activitySpec.encode record.spec)] + attemptSize record.attempt +
      fieldsSize (Fields.ofOption Codec.preparedCommand "prepared_command" record.preparedCommand) +
      fieldsSize (Fields.ofOption Codec.completionClass "completion_class" record.completionClass) := by
    intro record
    simp only [ActivityRecord.requestSize, fieldsSize, attemptSize, List.map_cons, List.map_nil,
      List.sum_cons, List.sum_nil]
    omega
  have hattempt : attemptSize (r.retried t).attempt ≤ attemptSize r.attempt + 21 := by
    have hdigits := digits_succ_le r.attempt.ordinal
    have hretry : (Codec.optionalInt.encode (some t)).size ≤ 20 := size_int_le hmin hmax
    have hwait : fieldsSize (Fields.ofOption int "handler_wait_until_unix_millis" none) = 0 := rfl
    rw [attemptSize_eq, attemptSize_eq]
    simp only [ActivityRecord.retried, hwait]
    omega
  have hle := le_stateSize_dispatchExposed attemptId
  rw [ActivityRecord.size_encode, ActivityRecord.size_encode, hrequest, hrequest, hstate]
  change _ + attemptSize (r.retried t).attempt + _ + _ +
    (ledgerSize r.attempts + failureSize r.failure + stateSize .scheduled) + 1 ≤ _
  rw [stateSize_scheduled]
  simp only [ActivityRecord.retried] at hattempt ⊢
  omega

theorem fits_of_decodeAndValidate {e : CheckpointEnvelope} {execution : ExecutionSpec}
    {limits : CheckpointLimits} {p : CheckpointPayload}
    (hdecode : e.decodeAndValidate execution limits = .ok p) (hencode : e = encode p) :
    p.Fits limits := by
  simp only [decodeAndValidate, bind_eq_ok, validateActiveEncodedSize] at hdecode
  obtain ⟨_, _, ⟨⟩, ⟨n, hn, hle⟩, -⟩ := hdecode
  exact ⟨n, hencode ▸ hn, Nat.not_lt.1 (rejectIf_eq_ok.1 hle)⟩

theorem fits_retried {p : CheckpointPayload} {limits : CheckpointLimits} {r : ActivityRecord}
    {attemptId : AttemptId} {t : Int} (hfits : p.Fits limits) (hlast : p.lastRecord? = some r)
    (hexposed : r.exposedAttempt? = some attemptId) (hmin : i64Min ≤ t) (hmax : t ≤ i64Max) :
    (p.replaceFinalRecord (r.retried t)).Fits limits := by
  obtain ⟨init, hstate⟩ := lastRecord?_eq_some hlast
  have hsize := size_retried_le hexposed hmin hmax
  have hinner := innerLen_last (execution_replaceFinalRecord p _)
    (state_replaceFinalRecord (r.retried t) hstate) hstate
  exact hfits.mono (by omega)

/-! ## Operations on a store without conflicts -/

/-- The store answers every call, and accepts each one that expects what it holds. -/
structure CheckpointStore.Exclusive {σ : Type} (store : CheckpointStore σ)
    (holds : σ → Option StoredCheckpoint) : Prop where
  load (s : σ) : store.load s = .ok (holds s)
  accepts (s : σ) (checkpoint : CheckpointEnvelope) : ∃ revision s',
    store.compareAndSwap s ((holds s).map (·.revision)) checkpoint =
      (.ok (.accepted revision), s') ∧ holds s' = some ⟨revision, checkpoint⟩

/-- The checkpoint of the execution ends with an ordinary activity that is exposed. -/
structure LosesResult (h : DurableHost) (execution : ExecutionSpec) (stored : StoredCheckpoint)
    (p : CheckpointPayload) (r : ActivityRecord) (attemptId : AttemptId) : Prop where
  decode : stored.checkpoint.decodeAndValidate execution h.limits = .ok p
  last : p.lastRecord? = some r
  exposed : r.exposedAttempt? = some attemptId
  plain : r.preparedCommand = none

/-- The checkpoint ends with a retry of the activity or with its failure. -/
def Recovered (r : ActivityRecord) (held : Option StoredCheckpoint) : Prop :=
  ∃ stored p, held = some stored ∧ stored.checkpoint.payload? = some p ∧
    ((∃ t, p.lastRecord? = some (r.retried t)) ∨ p.lastRecord? = some (r.withFailure lostResult))

section

variable {σ : Type} {store : CheckpointStore σ} {holds : σ → Option StoredCheckpoint}
  {h h' : DurableHost} {w : Workflow} {execution : ExecutionSpec} {op : Operation} {s : σ}
  {stored : StoredCheckpoint}

theorem perform_ended {outcome : HostOutcome} (hstore : store.Exclusive holds)
    (hdecide : h.decide w execution (holds s) op = (h', .error outcome)) :
    h.perform store w execution op s = (outcome, h', s) := by
  simp only [DurableHost.perform, hstore.load, hdecide]

theorem perform_accepted {proposal : Proposal} (hstore : store.Exclusive holds)
    (hdecide : h.decide w execution (holds s) op = (h', .ok proposal))
    (hexpected : proposal.expected = (holds s).map (·.revision)) :
    ∃ revision s', h.perform store w execution op s =
        (proposal.acceptance.outcome proposal.boundary revision, h', s') ∧
      holds s' = some ⟨revision, proposal.checkpoint⟩ := by
  obtain ⟨revision, s', hswap, hheld⟩ := hstore.accepts s proposal.checkpoint
  refine ⟨revision, s', ?_, hheld⟩
  simp only [DurableHost.perform, hstore.load, hdecide, hexpected, hswap, Proposal.finish]

end

namespace LosesResult

variable {h : DurableHost} {execution : ExecutionSpec} {stored : StoredCheckpoint}
  {p : CheckpointPayload} {r : ActivityRecord} {attemptId : AttemptId} {now : Int}

theorem exposed_ne (hlost : LosesResult h execution stored p r attemptId) :
    r.exposedAttempt? ≠ none := by
  simp [hlost.exposed]

theorem found (hlost : LosesResult h execution stored p r attemptId) :
    h.observedRecord execution (r.logicalId execution.executionId) (some stored) =
      .ok (stored.revision, p, r) :=
  observedRecord_eq hlost.decode hlost.last rfl

theorem decide_turn (hlost : LosesResult h execution stored p r attemptId) (w : Workflow)
    (resolver : DurableHost.ExposureResolver) (at_ : Option Int) :
    h.decide w execution (some stored) (.turnAndExpose resolver at_) =
      (h, .error (DurableHost.quarantinedOutcome execution r attemptId)) := by
  obtain ⟨init, hstate⟩ := lastRecord?_eq_some hlost.last
  have hchecked : h.checkLoaded execution (some stored) =
      .error (DurableHost.quarantinedOutcome execution r attemptId) := by
    simp [DurableHost.checkLoaded, hlost.decode, orRejected, hstate, hlost.exposed, bind, Except.bind]
  simp only [DurableHost.decide, DurableHost.turnAndExposeResolved, hchecked]

theorem decide_retry_exhausted (hlost : LosesResult h execution stored p r attemptId) (w : Workflow)
    (hretry : r.spec.options.retryNotBeforeUnixMillis r.attempt.ordinal now = none) :
    ∃ sequence attempted maximum,
      h.decide w execution (some stored) (.scheduleRetry (r.logicalId execution.executionId) now) =
        (h, .error (.checkpointRejected
          (.activityAttemptLimitExceeded sequence attempted maximum))) := by
  refine ⟨r.sequence, min (r.attempt.ordinal + 1) u32Max, r.spec.options.maxAttempts, ?_⟩
  simp only [DurableHost.decide, DurableHost.scheduleRetry, hlost.found,
    checkExposed_eq_ok.2 hlost.exposed_ne, hretry, demand, bind, Except.bind]

theorem replaced_cases (hlost : LosesResult h execution stored p r attemptId) (r' : ActivityRecord)
    (hvalid : ∀ index, validateRecord index true r = .ok () → validateRecord index true r' = .ok ()) :
    ((p.replaceFinalRecord r').Fits h.limits ∧
        encodeWithLimits (p.replaceFinalRecord r') h.limits = .ok (encode (p.replaceFinalRecord r'))) ∨
      ¬(p.replaceFinalRecord r').Fits h.limits ∧
        ∃ error, encodeWithLimits (p.replaceFinalRecord r') h.limits = .error error ∧
          ∀ sequence attempted maximum,
            error ≠ .activityAttemptLimitExceeded sequence attempted maximum := by
  obtain ⟨init, hstate⟩ := lastRecord?_eq_some hlost.last
  obtain ⟨-, hinternal⟩ := decodeAndValidate_eq_ok hlost.decode
  have hrecord := hvalid _ (validateRecord_last hinternal hstate)
  exact encodeWithLimits_cases (validateInternal_replaceFinalRecord hinternal hstate hrecord)
    (state_replaceFinalRecord r' hstate)

theorem failure_none (hlost : LosesResult h execution stored p r attemptId) : r.failure = none := by
  obtain ⟨init, hstate⟩ := lastRecord?_eq_some hlost.last
  exact failure_eq_none (CheckpointPayload.validHistory (decodeAndValidate_eq_ok hlost.decode).2 hstate)
    hlost.exposed_ne

theorem lastRecord?_replaced (hlost : LosesResult h execution stored p r attemptId)
    (r' : ActivityRecord) :
    (p.replaceFinalRecord r').lastRecord? = some r' := by
  obtain ⟨init, hstate⟩ := lastRecord?_eq_some hlost.last
  rw [CheckpointPayload.lastRecord?, CheckpointPayload.activeActivities,
    state_replaceFinalRecord r' hstate, Option.bind_some, List.getLast?_concat]

theorem not_recovered (hlost : LosesResult h execution stored p r attemptId) :
    ¬Recovered r (some stored) := by
  rintro ⟨_, p', ⟨⟩, hpayload, hlast⟩
  obtain rfl : p = p' := Option.some.inj ((decodeAndValidate_eq_ok hlost.decode).1.symm.trans hpayload)
  have hexposed := hlost.exposed
  rw [hlost.last] at hlast
  rcases hlast with ⟨t, hlast⟩ | hlast
  · rw [Option.some.inj hlast] at hexposed
    cases hexposed
  · rw [Option.some.inj hlast] at hexposed
    cases hexposed

end LosesResult

/-! ## The lost result -/

section

variable {σ : Type} {store : CheckpointStore σ} {holds : σ → Option StoredCheckpoint}
  {execution : ExecutionSpec} {s : σ} {stored : StoredCheckpoint}
  {p : CheckpointPayload} {r : ActivityRecord} {attemptId : AttemptId} {now t : Int}

section

variable {h : DurableHost}

theorem LosesResult.recovered_of_held (hlost : LosesResult h execution stored p r attemptId)
    {r' : ActivityRecord} {revision : StorageRevision}
    (hr' : (∃ t, r' = r.retried t) ∨ r' = r.withFailure lostResult) :
    Recovered r (some ⟨revision, encode (p.replaceFinalRecord r')⟩) := by
  refine ⟨_, p.replaceFinalRecord r', rfl, payload_encode _, ?_⟩
  rw [hlost.lastRecord?_replaced]
  rcases hr' with ⟨t, rfl⟩ | rfl
  · exact Or.inl ⟨t, rfl⟩
  · exact Or.inr rfl

theorem recover_retry (w : Workflow) (hstore : store.Exclusive holds) (hheld : holds s = some stored)
    (hlost : LosesResult h execution stored p r attemptId)
    (hword : r.spec.options.maxAttempts ≤ u32Max)
    (hretry : r.spec.options.retryNotBeforeUnixMillis r.attempt.ordinal now = some t) :
    ((p.replaceFinalRecord (r.retried t)).Fits h.limits ∧
      Recovered r (holds (ActivityRunner.recoverLostResult store w execution now
        (r.logicalId execution.executionId) h s).2.2)) ∨
    (¬(p.replaceFinalRecord (r.retried t)).Fits h.limits ∧
      (ActivityRunner.recoverLostResult store w execution now
        (r.logicalId execution.executionId) h s).2.2 = s) := by
  obtain ⟨hattempts, -⟩ := ActivityOptions.retryNotBeforeUnixMillis_eq_some.1 hretry
  have hscheduled : r.scheduleRetry t = .ok (r.retried t) :=
    ActivityRecord.scheduleRetry_eq_retried hlost.exposed_ne hattempts hword
  rcases hlost.replaced_cases (r.retried t) fun index hvalid =>
    ActivityRecord.validateRecord_retried hvalid hlost.plain hlost.failure_none hattempts with
    ⟨hfits, hencode⟩ | ⟨hfits, error, hencode, hne⟩
  · have hdecide : h.decide w execution (holds s)
        (.scheduleRetry (r.logicalId execution.executionId) now) =
          (h, .ok ⟨some stored.revision, encode (p.replaceFinalRecord (r.retried t)), .retry,
            .retry (r.logicalId execution.executionId) t⟩) := by
      rw [hheld]
      exact congrArg (h, ·) (scheduleRetry_eq hlost.found hlost.exposed_ne hretry hscheduled hencode)
    obtain ⟨revision, s', hperform, hheld'⟩ := perform_accepted hstore hdecide (by simp [hheld])
    refine Or.inl ⟨hfits, ?_⟩
    simp only [ActivityRunner.recoverLostResult, hperform, Acceptance.outcome, hheld']
    exact hlost.recovered_of_held (Or.inl ⟨t, rfl⟩)
  · have hdecide : h.decide w execution (holds s)
        (.scheduleRetry (r.logicalId execution.executionId) now) =
          (h, .error (.checkpointRejected error)) := by
      simp only [hheld, DurableHost.decide, DurableHost.scheduleRetry, hlost.found,
        checkExposed_eq_ok.2 hlost.exposed_ne, hretry, demand, hscheduled, orRejected,
        DurableHost.replacementProposal, hencode, bind, Except.bind]
    have hperform := perform_ended hstore hdecide
    refine Or.inr ⟨hfits, ?_⟩
    unfold ActivityRunner.recoverLostResult
    rw [hperform]
    -- The checkpoint was refused for its size, so the retry is what `run_once` returns.
    cases error <;> first | rfl | exact absurd rfl (hne _ _ _)

theorem recover_failure (w : Workflow) (hstore : store.Exclusive holds)
    (hheld : holds s = some stored) (hlost : LosesResult h execution stored p r attemptId)
    (hretry : r.spec.options.retryNotBeforeUnixMillis r.attempt.ordinal now = none) :
    ((27 ≤ r.spec.maxResultBytes ∧ (p.replaceFinalRecord (r.withFailure lostResult)).Fits h.limits) ∧
      Recovered r (holds (ActivityRunner.recoverLostResult store w execution now
        (r.logicalId execution.executionId) h s).2.2)) ∨
    (¬(27 ≤ r.spec.maxResultBytes ∧
        (p.replaceFinalRecord (r.withFailure lostResult)).Fits h.limits) ∧
      (ActivityRunner.recoverLostResult store w execution now
        (r.logicalId execution.executionId) h s).2.2 = s) := by
  obtain ⟨sequence, attempted, maximum, hexhausted⟩ := hlost.decide_retry_exhausted w hretry
  have hrecover : ActivityRunner.recoverLostResult store w execution now
      (r.logicalId execution.executionId) h s = h.perform store w execution
        (.observeFailure (r.logicalId execution.executionId) lostResult) s := by
    unfold ActivityRunner.recoverLostResult
    rw [perform_ended hstore (hheld ▸ hexhausted)]
  have hlength : lostResult.payload.elim 0 List.length = 27 := rfl
  rw [hrecover]
  rcases Nat.lt_or_ge r.spec.maxResultBytes 27 with hlt | hge
  · have hdecide : h.decide w execution (holds s)
        (.observeFailure (r.logicalId execution.executionId) lostResult) =
          (h, .error (.observationRejected
            (.resultExceedsDeclaredBound 27 r.spec.maxResultBytes))) := by
      simp only [hheld, DurableHost.decide, DurableHost.observeFailure, hlost.found,
        checkExposed_eq_ok.2 hlost.exposed_ne, DurableHost.checkResultBound, hlength, rejectIf,
        if_pos hlt, bind, Except.bind]
    exact Or.inr ⟨fun hroom => by omega, by rw [perform_ended hstore hdecide]⟩
  · have hbound : DurableHost.checkResultBound r (lostResult.payload.elim 0 List.length) = .ok () :=
      rejectIf_eq_ok.2 (by rw [hlength]; omega)
    have hwithin : lostResult.Within r.spec.maxResultBytes := by
      rintro payload ⟨⟩
      exact hge
    rcases hlost.replaced_cases (r.withFailure lostResult) fun index hvalid =>
      ActivityRecord.validateRecord_withFailure hvalid hlost.plain hwithin with
      ⟨hfits, hencode⟩ | ⟨hfits, error, hencode, -⟩
    · have hdecide : h.decide w execution (holds s)
          (.observeFailure (r.logicalId execution.executionId) lostResult) =
            (h, .ok ⟨some stored.revision, encode (p.replaceFinalRecord (r.withFailure lostResult)),
              .observation, .observation (r.logicalId execution.executionId)⟩) := by
        simp only [hheld, DurableHost.decide, DurableHost.observeFailure, hlost.found,
          checkExposed_eq_ok.2 hlost.exposed_ne, hbound, DurableHost.replacementProposal, hencode,
          orRejected, bind, Except.bind, pure, Except.pure]
      obtain ⟨revision, s', hperform, hheld'⟩ := perform_accepted hstore hdecide (by simp [hheld])
      refine Or.inl ⟨⟨hge, hfits⟩, ?_⟩
      rw [hperform, hheld']
      exact hlost.recovered_of_held (Or.inr rfl)
    · have hdecide : h.decide w execution (holds s)
          (.observeFailure (r.logicalId execution.executionId) lostResult) =
            (h, .error (.checkpointRejected error)) := by
        simp only [hheld, DurableHost.decide, DurableHost.observeFailure, hlost.found,
          checkExposed_eq_ok.2 hlost.exposed_ne, hbound, DurableHost.replacementProposal, hencode,
          orRejected, bind, Except.bind]
      exact Or.inr ⟨fun hroom => hfits hroom.2, by rw [perform_ended hstore hdecide]⟩

end

variable {runner : ActivityRunner}

theorem runOnce_eq_recover (w : Workflow) (now : Int) (hstore : store.Exclusive holds)
    (hheld : holds s = some stored)
    (hlost : LosesResult runner.host execution stored p r attemptId) :
    runner.runOnce store w execution now s = ActivityRunner.recoverLostResult store w execution now
      (r.logicalId execution.executionId) runner.host s := by
  have hdecide := hlost.decide_turn w (.activity identityActivityResolver) (some now)
  rw [← hheld] at hdecide
  unfold ActivityRunner.runOnce
  rw [perform_ended hstore hdecide, DurableHost.quarantinedOutcome, hlost.plain]

/-- There is a record to recover with: a retry that fits or, without a retry time, a failure that is
within the declared bound of the activity and fits. -/
def Recoverable (limits : CheckpointLimits) (p : CheckpointPayload) (r : ActivityRecord) (now : Int) :
    Prop :=
  (∃ t, r.spec.options.retryNotBeforeUnixMillis r.attempt.ordinal now = some t ∧
      (p.replaceFinalRecord (r.retried t)).Fits limits) ∨
    (r.spec.options.retryNotBeforeUnixMillis r.attempt.ordinal now = none ∧
      27 ≤ r.spec.maxResultBytes ∧ (p.replaceFinalRecord (r.withFailure lostResult)).Fits limits)

theorem runOnce_cases (w : Workflow) (now : Int) (hstore : store.Exclusive holds)
    (hheld : holds s = some stored)
    (hlost : LosesResult runner.host execution stored p r attemptId)
    (hword : r.spec.options.maxAttempts ≤ u32Max) :
    (Recoverable runner.host.limits p r now ∧
        Recovered r (holds (runner.runOnce store w execution now s).2.2)) ∨
      (¬Recoverable runner.host.limits p r now ∧ (runner.runOnce store w execution now s).2.2 = s) := by
  rw [runOnce_eq_recover w now hstore hheld hlost]
  unfold Recoverable
  cases hretry : r.spec.options.retryNotBeforeUnixMillis r.attempt.ordinal now with
  | none => simpa [hretry] using recover_failure w hstore hheld hlost hretry
  | some t => simpa [hretry] using recover_retry w hstore hheld hlost hword hretry

/-- A lost result of an ordinary activity is recovered exactly when there is a record to recover with,
and else the store is unchanged.  Where the exposure is stored as hosts encode it, a retry always
fits. -/
theorem lostResult_recovered_iff (w : Workflow) (now : Int) (hstore : store.Exclusive holds)
    (hheld : holds s = some stored)
    (hlost : LosesResult runner.host execution stored p r attemptId)
    (hword : r.spec.options.maxAttempts ≤ u32Max) :
    (Recovered r (holds (runner.runOnce store w execution now s).2.2) ↔
      Recoverable runner.host.limits p r now) ∧
    (¬Recoverable runner.host.limits p r now → (runner.runOnce store w execution now s).2.2 = s) ∧
    (stored.checkpoint = encode p → i64Min ≤ now →
      ∀ t, r.spec.options.retryNotBeforeUnixMillis r.attempt.ordinal now = some t →
        (p.replaceFinalRecord (r.retried t)).Fits runner.host.limits) := by
  refine ⟨?_, ?_, ?_⟩
  · rcases runOnce_cases w now hstore hheld hlost hword with
      ⟨hroom, hrecovered⟩ | ⟨hroom, hsame⟩
    · exact iff_of_true hrecovered hroom
    · rw [hsame, hheld]
      exact iff_of_false hlost.not_recovered hroom
  · intro hroom
    rcases runOnce_cases w now hstore hheld hlost hword with ⟨hroom', -⟩ | ⟨-, hsame⟩
    · exact absurd hroom' hroom
    · exact hsame
  · intro hencode hmin t hretry
    obtain ⟨-, -, hmax, rfl⟩ := ActivityOptions.retryNotBeforeUnixMillis_eq_some.1 hretry
    exact fits_retried (fits_of_decodeAndValidate hlost.decode hencode) hlost.last hlost.exposed
      (by omega) hmax

end

/-! ## A failure that cannot be recorded -/

/-- A store that holds the checkpoint it is in. -/
def exclusiveStore : CheckpointStore (Option StoredCheckpoint) where
  load held := .ok held
  compareAndSwap held expected checkpoint :=
    if expected = held.map (·.revision) then
      (.ok (.accepted ((held.map (·.revision)).getD 0 + 1)),
        some ⟨(held.map (·.revision)).getD 0 + 1, checkpoint⟩)
    else (.ok .conflict, held)

theorem exclusive_exclusiveStore : exclusiveStore.Exclusive fun held => held where
  load _ := rfl
  accepts _ _ := ⟨_, _, if_pos rfl, rfl⟩

namespace Exhausted

/-- An activity of one attempt, which declares that it returns nothing. -/
def spec : ActivitySpec := ⟨LateAnswer.charge, [], 0, 0, ⟨1, 1000, none, none⟩⟩

def exposed : ActivityRecord := (ActivityRecord.scheduled 0 spec).exposed LateAnswer.attempt

def stored : StoredCheckpoint := ⟨1, encode (LateAnswer.payload [exposed])⟩

/-- A runner of another host, without handlers. -/
def runner : ActivityRunner := ⟨EarlyDeadline.host, ⟨∅⟩, ⟨none⟩⟩

theorem stores_exposed : LateAnswer.Stores [exposed] := by
  have hinner : (LateAnswer.payload [exposed]).innerLen = 678 := by
    rw [CheckpointPayload.innerLen, Json.length_toVec]
    decide +kernel
  exact LateAnswer.stores_of_innerLen (by decide +kernel) hinner rfl (by decide)

theorem losesResult : LosesResult runner.host LateAnswer.executionSpec stored
    (LateAnswer.payload [exposed]) exposed LateAnswer.attempt where
  decode := stores_exposed.2
  last := rfl
  exposed := rfl
  plain := rfl

/-- The attempt of another host is found exposed, and no step at any time changes the store. -/
theorem exposed_forever :
    ActivityOptions.new 1 1000 none none = .ok exposed.spec.options ∧
      LosesResult runner.host LateAnswer.executionSpec stored (LateAnswer.payload [exposed]) exposed
        LateAnswer.attempt ∧
      LateAnswer.attempt.hostEpoch ≠ runner.host.hostEpoch ∧
      ∀ w now, (runner.runOnce exclusiveStore w LateAnswer.executionSpec now (some stored)).2.2 =
        some stored := by
  refine ⟨rfl, losesResult, by decide, fun w now => ?_⟩
  have hretry : exposed.spec.options.retryNotBeforeUnixMillis exposed.attempt.ordinal now = none :=
    if_pos le_rfl
  rw [runOnce_eq_recover w now exclusive_exclusiveStore rfl losesResult]
  rcases recover_failure w exclusive_exclusiveStore rfl losesResult hretry with
    ⟨⟨hbound, -⟩, -⟩ | ⟨-, hsame⟩
  · exact absurd hbound (by decide)
  · exact hsame

/-- With attempts left the lost result is recovered by a retry. -/
theorem lostResult_recovered_iff_retried :
    Recovered (EarlyDeadline.exposed (some 5)) (runner.runOnce exclusiveStore LateAnswer.workflow
      LateAnswer.executionSpec 0
      (some (EarlyDeadline.stored 1 (EarlyDeadline.exposed (some 5))))).2.2 := by
  have hlost : LosesResult runner.host LateAnswer.executionSpec
      (EarlyDeadline.stored 1 (EarlyDeadline.exposed (some 5)))
      (LateAnswer.payload [EarlyDeadline.exposed (some 5)]) (EarlyDeadline.exposed (some 5))
      LateAnswer.attempt := ⟨EarlyDeadline.stores_exposed.2, rfl, rfl, rfl⟩
  have hretry : (EarlyDeadline.exposed (some 5)).spec.options.retryNotBeforeUnixMillis
      (EarlyDeadline.exposed (some 5)).attempt.ordinal 0 = some 1000 := by decide
  have hiff := lostResult_recovered_iff LateAnswer.workflow 0 exclusive_exclusiveStore rfl hlost
    (by decide)
  exact hiff.1.2 (Or.inl ⟨1000, hretry, hiff.2.2 rfl (by decide) 1000 hretry⟩)

end Exhausted

end Kuberic.Dex
