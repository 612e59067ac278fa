import Kuberic.Dex.Dispatch

/-!
# When the next attempt is made

A retry waits for a backoff that doubles with every attempt, and a turn on a scheduled activity waits
for the latest of its gates.  The backoff is a shift of a 64-bit word, which drops the bits above the
word.  The time that a waiting turn returns is capped by the deadline of the activity, while the gates
are not: before the last gate a turn at the deadline waits again.
-/

namespace Kuberic.Dex

open Check

/-! ## Backoff -/

namespace ActivityOptions

variable {o : ActivityOptions} {k : Nat} {observedAt t : Int}

/-- The backoff after `k` completed attempts, doubled after each of them but the first. -/
def exactDelay (o : ActivityOptions) (k : Nat) : Nat := o.initialBackoffMillis * 2 ^ (k - 1)

/-- The backoff as the shift of a 64-bit word leaves it. -/
def shiftedDelay (o : ActivityOptions) (k : Nat) : Nat :=
  (o.initialBackoffMillis * 2 ^ min (k - 1) 63) % 2 ^ 64

theorem retryNotBeforeUnixMillis_eq_some :
    o.retryNotBeforeUnixMillis k observedAt = some t ↔ k < o.maxAttempts ∧
      (o.shiftedDelay k : Int) ≤ i64Max ∧ observedAt + o.shiftedDelay k ≤ i64Max ∧
      t = observedAt + o.shiftedDelay k := by
  simp only [retryNotBeforeUnixMillis, shiftedDelay, Option.ite_none_left_eq_some, not_le,
    Option.ite_none_right_eq_some, Option.some.injEq]
  rw [eq_comm (a := t)]

theorem shiftedDelay_eq_exactDelay_iff : o.shiftedDelay k = o.exactDelay k ↔ o.exactDelay k < 2 ^ 64 := by
  unfold shiftedDelay exactDelay
  constructor
  · intro h
    rw [← h]
    exact Nat.mod_lt _ (by norm_num)
  · intro h
    rcases Nat.le_or_ge (k - 1) 63 with hk | hk
    · rw [Nat.min_eq_left hk, Nat.mod_eq_of_lt h]
    · -- A shift of 64 bits and more keeps only a backoff of zero.
      rw [Nat.min_eq_right hk]
      rcases Nat.eq_or_lt_of_le hk with hk | hk
      · rw [hk, Nat.mod_eq_of_lt (hk ▸ h)]
      · have hpow : 2 ^ 64 ≤ 2 ^ (k - 1) := Nat.pow_le_pow_right (by norm_num) hk
        have hzero : o.initialBackoffMillis = 0 := by
          by_contra hne
          have hle := Nat.le_mul_of_pos_left (2 ^ (k - 1)) (Nat.pos_of_ne_zero hne)
          omega
        simp [hzero]

theorem exact_iff_of_eq_some (h : o.retryNotBeforeUnixMillis k observedAt = some t) :
    t - observedAt = o.exactDelay k ↔ o.exactDelay k < 2 ^ 64 := by
  obtain ⟨-, -, -, rfl⟩ := retryNotBeforeUnixMillis_eq_some.1 h
  rw [← shiftedDelay_eq_exactDelay_iff]
  omega

/-- The attempt `k` can be retried at some time. -/
def Retried (o : ActivityOptions) (k : Nat) : Prop :=
  ∃ observedAt t, o.retryNotBeforeUnixMillis k observedAt = some t

theorem exactDelay_succ (hk : 1 ≤ k) : o.exactDelay (k + 1) = 2 * o.exactDelay k := by
  obtain ⟨n, rfl⟩ := Nat.exists_eq_add_of_le hk
  simp only [exactDelay, Nat.add_sub_cancel, Nat.add_comm 1 n, pow_succ]
  rw [Nat.mul_comm (2 ^ n), Nat.mul_left_comm]

/-- No bit is lost at an attempt when all attempts up to it were retried: the first backoff above
`i64` is refused. -/
theorem exactDelay_lt_of_retried (hword : o.initialBackoffMillis ≤ u64Max)
    (hretried : ∀ j, 1 ≤ j → j ≤ k → o.Retried j) (hk : 1 ≤ k) : o.exactDelay k < 2 ^ 63 := by
  -- Induction on the attempt: below `2 ^ 63` the next backoff is still a word, and then at most `i64`.
  induction k, hk using Nat.le_induction with
  | base =>
    obtain ⟨observedAt, t, h⟩ := hretried 1 le_rfl le_rfl
    obtain ⟨-, hle, -⟩ := retryNotBeforeUnixMillis_eq_some.1 h
    have hexact : o.exactDelay 1 = o.initialBackoffMillis := by simp [exactDelay]
    have hshift : o.shiftedDelay 1 = o.exactDelay 1 :=
      shiftedDelay_eq_exactDelay_iff.2 (by rw [hexact]; unfold u64Max at hword; omega)
    rw [hshift, i64Max] at hle
    omega
  | succ k hk ih =>
    have hbefore := ih fun j hj hjk => hretried j hj (by omega)
    obtain ⟨observedAt, t, h⟩ := hretried (k + 1) (by omega) le_rfl
    obtain ⟨-, hle, -⟩ := retryNotBeforeUnixMillis_eq_some.1 h
    have hsucc := exactDelay_succ (o := o) hk
    rw [shiftedDelay_eq_exactDelay_iff.2 (by omega), i64Max] at hle
    omega

end ActivityOptions

/-- `schedule_retry` records that the attempt after `k` is made `delay` after the observation. -/
def RecordsDelay (o : ActivityOptions) (k : Nat) (delay : Int) : Prop :=
  ∃ (h : DurableHost) (execution : ExecutionSpec) (activity : LogicalActivityId) (observedAt : Int)
    (stored : StoredCheckpoint) (proposal : Proposal) (payload : CheckpointPayload)
    (r : ActivityRecord),
    h.scheduleRetry execution activity observedAt (some stored) = .ok proposal ∧
      proposal.checkpoint.payload? = some payload ∧ payload.lastRecord? = some r ∧
      r.spec.options = o ∧ r.attempt = ⟨k + 1, some (observedAt + delay), none⟩

variable {proposal : Proposal}

theorem retryNotBefore_of_scheduleRetry {h : DurableHost} {execution : ExecutionSpec}
    {activity : LogicalActivityId} {observedAt : Int} {loaded : Option StoredCheckpoint}
    {payload : CheckpointPayload} {r : ActivityRecord}
    (hretry : h.scheduleRetry execution activity observedAt loaded = .ok proposal)
    (hpayload : proposal.checkpoint.payload? = some payload) (hr : payload.lastRecord? = some r) :
    ∃ k t, r.attempt = ⟨k + 1, some t, none⟩ ∧
      r.spec.options.retryNotBeforeUnixMillis k observedAt = some t := by
  simp only [DurableHost.scheduleRetry, bind_eq_ok, Prod.exists, orRejected_eq_ok] at hretry
  obtain ⟨revision, found, r₀, hfound, -, -, t, ht, r', hr', hreplace⟩ := hretry
  obtain ⟨-, rfl⟩ := scheduleRetry_eq_ok hr'
  obtain ⟨init, -, -, hstate, -⟩ := observedRecord_eq_ok hfound
  simp only [DurableHost.replacementProposal, bind_eq_ok, orRejected_eq_ok, pure, Except.pure,
    Except.ok.injEq] at hreplace
  obtain ⟨checkpoint, hencode, rfl⟩ := hreplace
  obtain ⟨rfl, -⟩ := CheckpointEnvelope.encodeWithLimits_eq_ok.1 hencode
  rw [CheckpointEnvelope.payload_encode, Option.some.injEq] at hpayload
  subst hpayload
  rw [CheckpointPayload.lastRecord?, CheckpointPayload.activeActivities,
    state_replaceFinalRecord _ hstate, Option.bind_some, List.getLast?_concat,
    Option.some.injEq] at hr
  subst hr
  refine ⟨r₀.attempt.ordinal, t, rfl, ?_⟩
  cases hsome : r₀.spec.options.retryNotBeforeUnixMillis r₀.attempt.ordinal observedAt with
  | none => simp [hsome, demand] at ht
  | some t' =>
    simp only [hsome, demand, Except.ok.injEq] at ht
    exact congrArg some ht

theorem RecordsDelay.eq_some {o : ActivityOptions} {k : Nat} {delay : Int}
    (h : RecordsDelay o k delay) :
    ∃ observedAt, o.retryNotBeforeUnixMillis k observedAt = some (observedAt + delay) := by
  obtain ⟨host, execution, activity, observedAt, stored, proposal, payload, r, hretry, hpayload, hr,
    rfl, hattempt⟩ := h
  obtain ⟨k', t, hattempt', ht⟩ := retryNotBefore_of_scheduleRetry hretry hpayload hr
  rw [hattempt', ActivityAttemptState.mk.injEq] at hattempt
  obtain ⟨hk, ht', -⟩ := hattempt
  obtain rfl : k' = k := by omega
  rw [Option.some.injEq] at ht'
  exact ⟨observedAt, ht' ▸ ht⟩

/-- The retry time after an attempt is exact or refused exactly when the attempt is the last one, the
doubled backoff is a 64-bit word, or what is left of its bits does not fit into `i64`, alone or added
to the time of the observation; and the delays recorded for successive attempts never decrease. -/
theorem retryBackoff_exact_iff (o : ActivityOptions) (hword : o.initialBackoffMillis ≤ u64Max) :
    (∀ k, 1 ≤ k → ∀ observedAt, (∀ t, o.retryNotBeforeUnixMillis k observedAt = some t →
        t - observedAt = o.initialBackoffMillis * 2 ^ (k - 1)) ↔
      (o.maxAttempts ≤ k ∨ o.initialBackoffMillis * 2 ^ (k - 1) < 2 ^ 64 ∨
        i64Max < o.shiftedDelay k ∨ i64Max < observedAt + o.shiftedDelay k)) ∧
    ∀ (delay : Nat → Int) (n : Nat), (∀ k, 1 ≤ k → k ≤ n → RecordsDelay o k (delay k)) →
      ∀ k, 1 ≤ k → k < n → delay k ≤ delay (k + 1) := by
  constructor
  · intro k _ observedAt
    cases h : o.retryNotBeforeUnixMillis k observedAt with
    | none =>
      have hnone : o.retryNotBeforeUnixMillis k observedAt ≠ some (observedAt + o.shiftedDelay k) := by
        simp [h]
      simp only [ne_eq, ActivityOptions.retryNotBeforeUnixMillis_eq_some, and_true, not_and_or, not_lt,
        not_le] at hnone
      simp only [reduceCtorEq, false_imp_iff, implies_true, true_iff]
      tauto
    | some t =>
      obtain ⟨hk, hfits, hsum, -⟩ := ActivityOptions.retryNotBeforeUnixMillis_eq_some.1 h
      have hiff := ActivityOptions.exact_iff_of_eq_some h
      simp only [ActivityOptions.exactDelay, Nat.cast_mul, Nat.cast_pow, Nat.cast_ofNat] at hiff
      simpa [not_le.2 hk, not_lt.2 hfits, not_lt.2 hsum] using hiff
  · intro delay n hrecords k hk hkn
    have hretried : ∀ m ≤ n, ∀ j, 1 ≤ j → j ≤ m → o.Retried j := by
      intro m hm j hj hjm
      obtain ⟨observedAt, h⟩ := (hrecords j hj (hjm.trans hm)).eq_some
      exact ⟨observedAt, _, h⟩
    have hexact : ∀ j, 1 ≤ j → j ≤ n → delay j = o.exactDelay j := by
      intro j hj hjn
      obtain ⟨observedAt, h⟩ := (hrecords j hj hjn).eq_some
      have hlt := ActivityOptions.exactDelay_lt_of_retried hword (hretried j hjn) hj
      have heq := (ActivityOptions.exact_iff_of_eq_some h).2 (by omega)
      omega
    rw [hexact k hk hkn.le, hexact (k + 1) (by omega) hkn, ActivityOptions.exactDelay_succ hk]
    omega

/-- A backoff of `2 ^ 63` milliseconds is refused after the first attempt, and is zero after the
second one. -/
theorem retryBackoff_lost : ∃ o, ActivityOptions.new 3 (2 ^ 63) none none = .ok o ∧
    o.retryNotBeforeUnixMillis 2 1000 = some 1000 ∧
    (1000 : Int) - 1000 ≠ o.initialBackoffMillis * 2 ^ (2 - 1) :=
  ⟨_, rfl, by decide, by decide⟩

theorem retryBackoff_exact_iff_default :
    (default : ActivityOptions).retryNotBeforeUnixMillis 2 1000 = some 3000 ∧
      (3000 : Int) - 1000 = (default : ActivityOptions).initialBackoffMillis * 2 ^ (2 - 1) :=
  ⟨by decide, ((retryBackoff_exact_iff default (by decide)).1 2 (by decide) 1000).2
    (.inr (.inl (by decide))) 3000 (by decide)⟩

/-! ## Waiting turns -/

/-- The decision of an operation leads to an outcome, for some answer of the store. -/
inductive Returns : Decision → HostOutcome → Prop
  | ended (outcome : HostOutcome) : Returns (.error outcome) outcome
  | answered (proposal : Proposal) (reply : Except StoreError CasOutcome) :
    Returns (.ok proposal) (proposal.finish reply)

variable {outcome : HostOutcome}

@[simp] theorem returns_error_iff {ended : HostOutcome} :
    Returns (.error ended) outcome ↔ ended = outcome := by
  constructor
  · rintro ⟨⟩
    rfl
  · rintro rfl
    exact .ended _

@[simp] theorem returns_ok_iff :
    Returns (.ok proposal) outcome ↔ ∃ reply, proposal.finish reply = outcome := by
  constructor
  · rintro ⟨⟩
    exact ⟨_, rfl⟩
  · rintro ⟨reply, rfl⟩
    exact .answered proposal reply

/-- The operation returns that it waits. -/
def Waits (decision : Decision) : Prop :=
  ∃ activity wakeAt, Returns decision (.waiting activity wakeAt)

variable {checkpoint : CheckpointEnvelope}

namespace DurableHost

variable {h : DurableHost} {w : Workflow} {execution : ExecutionSpec} {resolver : ExposureResolver}
  {loaded : Option StoredCheckpoint} {now : Int} {activity : LogicalActivityId} {wakeAt : Int}

theorem not_waits_rejected {error : CheckpointError} :
    ¬Waits (.error (.checkpointRejected error)) := by
  rintro ⟨activity, wakeAt, hreturns⟩
  cases hreturns

theorem not_waits_orRejected {α : Type} {x : Except CheckpointError α} {f : α → Decision}
    (hf : ∀ a, ¬Waits (f a)) : ¬Waits (orRejected x >>= f) := by
  cases x with
  | error error => exact not_waits_rejected
  | ok a => exact hf a

theorem not_waits_proposal
    (hacceptance : ∀ activity wakeAt, proposal.acceptance ≠ .wait activity wakeAt) :
    ¬Waits (.ok proposal) := by
  rintro ⟨activity, wakeAt, hreturns⟩
  obtain ⟨reply, hfinish⟩ := returns_ok_iff.1 hreturns
  cases reply with
  | error error => cases hfinish
  | ok answer =>
    cases answer with
    | conflict | outcomeUnknown => cases hfinish
    | accepted revision =>
      cases hcase : proposal.acceptance with
      | wait activity' wakeAt' => exact hacceptance activity' wakeAt' hcase
      | schedule | exposure | observation | retry | completion =>
        simp [Proposal.finish, hcase, Acceptance.outcome] at hfinish

variable {boundary : PersistenceBoundary}

theorem not_waits_prepareExposure {expected : Option StorageRevision} :
    ¬Waits (h.prepareExposure execution expected boundary checkpoint activity).2 := by
  unfold prepareExposure
  cases h.exposable execution checkpoint with
  | error error => exact not_waits_rejected
  | ok found =>
    obtain ⟨payload, record⟩ := found
    dsimp only
    cases hproposal : h.exposureProposal expected boundary activity payload record with
    | error error => exact not_waits_rejected
    | ok proposal =>
      refine not_waits_proposal fun activity' wakeAt hwait => ?_
      simp only [exposureProposal, bind_eq_ok, pure, Except.pure, Except.ok.injEq] at hproposal
      obtain ⟨_, -, _, -, rfl⟩ := hproposal
      cases hwait

theorem not_waits_commitCompletion {expected : Option StorageRevision} {outcome : TerminalOutcome}
    {count : Nat} :
    ¬Waits (h.commitCompletion expected execution outcome count checkpoint boundary) := by
  refine not_waits_orRejected fun active => not_waits_orRejected fun terminal =>
    not_waits_orRejected fun checkpoint => not_waits_proposal fun activity wakeAt hwait => ?_
  cases hwait

theorem not_waits_afterEvaluation {keepEffect : Bool}
    {onScheduled : LogicalActivityId → CheckpointEnvelope → DurableHost × Decision}
    (hscheduled : ∀ activity checkpoint, ¬Waits (onScheduled activity checkpoint).2)
    (evaluation : Evaluation) :
    ¬Waits (h.afterEvaluation execution loaded boundary keepEffect onScheduled evaluation).2 := by
  have hended : ∀ outcome, (∀ activity wakeAt, outcome ≠ .waiting activity wakeAt) →
      ¬Waits (.error outcome) := fun outcome hne ⟨activity, wakeAt, hreturns⟩ =>
    hne activity wakeAt (returns_error_iff.1 hreturns)
  cases evaluation with
  | scheduled activity checkpoint => exact hscheduled activity checkpoint
  | pending activity state =>
    cases state with
    | scheduled =>
      cases loaded with
      | none => exact hended _ (by simp)
      | some stored => exact not_waits_prepareExposure
    | dispatchExposed attemptId =>
      refine hended _ fun activity' wakeAt hwait => ?_
      unfold pendingExposed at hwait
      split at hwait <;> cases hwait
    | completed result => exact hended _ (by simp)
  | complete outcome count checkpoint => exact not_waits_commitCompletion
  | terminal | nondeterminism | checkpointRejected | preparationRejected | workflowStalled =>
    exact hended _ (by simp)

theorem checkLoaded_ne_waiting :
    h.checkLoaded execution loaded ≠ .error (.waiting activity wakeAt) := by
  intro hchecked
  cases loaded with
  | none => cases hchecked
  | some stored =>
    simp only [checkLoaded] at hchecked
    cases hdecode : stored.checkpoint.decodeAndValidate execution h.limits with
    | error error =>
      rw [hdecode] at hchecked
      cases hchecked
    | ok payload =>
      simp only [hdecode, orRejected, bind, Except.bind] at hchecked
      split at hchecked
      · cases hchecked
      · split at hchecked <;> cases hchecked

/-- A turn waits for the gates of the activity that was loaded, and for nothing else. -/
theorem turn_returns_waiting_iff :
    Returns (h.turnAndExposeResolved w execution resolver (some now) loaded).2
        (.waiting activity wakeAt) ↔
      h.checkLoaded execution loaded = .ok () ∧
        h.checkWakeup execution (some now) loaded = .error (.waiting activity wakeAt) := by
  unfold turnAndExposeResolved
  cases hchecked : h.checkLoaded execution loaded with
  | error outcome =>
    refine ⟨fun hreturns => ?_, by simp⟩
    obtain rfl := returns_error_iff.1 hreturns
    exact absurd hchecked checkLoaded_ne_waiting
  | ok _ =>
    cases hwakeup : h.checkWakeup execution (some now) loaded with
    | error outcome => simp
    | ok _ =>
      refine ⟨fun hreturns => ?_, by simp⟩
      exact absurd ⟨activity, wakeAt, hreturns⟩
        (not_waits_afterEvaluation (fun _ _ => not_waits_prepareExposure) _)

/-- The times before which the next attempt is not made. -/
def gates (attempt : ActivityAttemptState) : List Int :=
  [attempt.retryNotBeforeUnixMillis, attempt.handlerWaitUntilUnixMillis].filterMap id

theorem gatedWakeup_eq_none {attempt : ActivityAttemptState} :
    gatedWakeup attempt now = none ↔ ∀ gate ∈ gates attempt, gate ≤ now := by
  simp [gatedWakeup, gates, List.max?_eq_none_iff, List.filter_eq_nil_iff]

theorem gatedWakeup_eq_some {attempt : ActivityAttemptState} {wakeup : Int}
    (hwakeup : gatedWakeup attempt now = some wakeup) :
    wakeup ∈ gates attempt ∧ now < wakeup ∧ ∀ gate ∈ gates attempt, gate ≤ wakeup := by
  have hmem := List.mem_filter.1 (List.max?_mem hwakeup)
  have hlt : now < wakeup := by simpa using hmem.2
  refine ⟨hmem.1, hlt, fun gate hgate => ?_⟩
  rcases le_or_gt gate now with hle | hgt
  · omega
  · exact (List.max?_le_iff hwakeup).1 le_rfl gate (List.mem_filter.2 ⟨hgate, by simpa using hgt⟩)

/-- A turn waits until the latest gate, or until the deadline if that is earlier. -/
theorem checkWakeup_eq_error {r : ActivityRecord} (hr : h.loadedRecord? execution loaded = some r) :
    h.checkWakeup execution (some now) loaded = .error (.waiting activity wakeAt) ↔
      r.state = .scheduled ∧ activity = r.logicalId execution.executionId ∧
        ∃ wakeup, gatedWakeup r.attempt now = some wakeup ∧
          wakeAt = r.spec.options.actionDeadlineUnixMillis.elim wakeup (min · wakeup) := by
  simp only [checkWakeup, hr]
  by_cases hstate : r.state = .scheduled
  · cases hwakeup : gatedWakeup r.attempt now with
    | none => simp [hstate]
    | some wakeup => simp [hstate, eq_comm]
  · simp [hstate]

theorem loadedRecord?_of_checkWakeup
    (hwakeup : h.checkWakeup execution (some now) loaded = .error outcome) :
    ∃ r, h.loadedRecord? execution loaded = some r := by
  cases hr : h.loadedRecord? execution loaded with
  | none => simp [checkWakeup, hr] at hwakeup
  | some r => exact ⟨r, rfl⟩

/-- A waiting turn returns a time that is still to come, and from which no turn on the same checkpoint
waits, exactly when the activity has no deadline before one of its gates. -/
theorem waiting_useful_iff {stored : StoredCheckpoint}
    (hwait : Returns (h.turnAndExposeResolved w execution resolver (some now) (some stored)).2
      (.waiting activity wakeAt)) :
    (now < wakeAt ∧ ∀ later, wakeAt ≤ later →
        ¬Waits (h.turnAndExposeResolved w execution resolver (some later) (some stored)).2) ↔
      ∀ r ∈ h.loadedRecord? execution (some stored),
        ∀ deadline ∈ r.spec.options.actionDeadlineUnixMillis, ∀ gate ∈ gates r.attempt,
          gate ≤ deadline := by
  obtain ⟨hchecked, hwakeup⟩ := turn_returns_waiting_iff.1 hwait
  obtain ⟨r, hr⟩ := loadedRecord?_of_checkWakeup hwakeup
  obtain ⟨hscheduled, -, wakeup, hgated, hwakeAt⟩ := (checkWakeup_eq_error hr).1 hwakeup
  obtain ⟨hmem, hlt, hlatest⟩ := gatedWakeup_eq_some hgated
  have hwaits : ∀ later, Waits (h.turnAndExposeResolved w execution resolver (some later)
      (some stored)).2 ↔ later < wakeup := by
    intro later
    constructor
    · rintro ⟨activity', wakeAt', hreturns⟩
      obtain ⟨-, -, wakeup', hgated', -⟩ :=
        (checkWakeup_eq_error hr).1 (turn_returns_waiting_iff.1 hreturns).2
      obtain ⟨hmem', hlt', -⟩ := gatedWakeup_eq_some hgated'
      exact hlt'.trans_le (hlatest wakeup' hmem')
    · intro hlater
      cases hgated' : gatedWakeup r.attempt later with
      | none => exact absurd (gatedWakeup_eq_none.1 hgated' wakeup hmem) (not_le.2 hlater)
      | some wakeup' =>
        exact ⟨_, _, turn_returns_waiting_iff.2 ⟨hchecked,
          (checkWakeup_eq_error hr).2 ⟨hscheduled, rfl, wakeup', hgated', rfl⟩⟩⟩
  simp only [hwaits, not_lt, hr, Option.mem_some_iff, forall_eq']
  cases hdeadline : r.spec.options.actionDeadlineUnixMillis with
  | none =>
    obtain rfl : wakeAt = wakeup := by simpa [hdeadline] using hwakeAt
    simp [hlt]
  | some deadline =>
    replace hwakeAt : wakeAt = min deadline wakeup := by simpa [hdeadline] using hwakeAt
    simp only [Option.mem_some_iff, forall_eq']
    constructor
    · -- A deadline before the last gate is the wakeup, and the gate is still closed then.
      rintro ⟨-, huseful⟩ gate hgate
      have hopen := huseful wakeAt le_rfl
      have hle := hlatest gate hgate
      omega
    · intro hcovers
      have hle := hcovers wakeup hmem
      refine ⟨by omega, fun later hlater => by omega⟩

end DurableHost

/-! ## A deadline before the retry -/

section

variable {h : DurableHost} {execution : ExecutionSpec} {stored : StoredCheckpoint}
  {payload : CheckpointPayload} {r : ActivityRecord} {activity : LogicalActivityId}

theorem scheduleRetry_eq {observedAt t : Int} {r' : ActivityRecord}
    (hfound : h.observedRecord execution activity (some stored) = .ok (stored.revision, payload, r))
    (hexposed : r.exposedAttempt? ≠ none)
    (hretry : r.spec.options.retryNotBeforeUnixMillis r.attempt.ordinal observedAt = some t)
    (hr' : r.scheduleRetry t = .ok r')
    (hencode : CheckpointEnvelope.encodeWithLimits (payload.replaceFinalRecord r') h.limits =
      .ok checkpoint) :
    h.scheduleRetry execution activity observedAt (some stored) =
      .ok ⟨some stored.revision, checkpoint, .retry, .retry activity t⟩ := by
  simp only [DurableHost.scheduleRetry, hfound, checkExposed_eq_ok.2 hexposed, hretry, demand, hr',
    orRejected, DurableHost.replacementProposal, hencode, bind, Except.bind, pure, Except.pure]

theorem turnAndExpose_waiting {w : Workflow} {resolver : DurableHost.ExposureResolver} {now wakeup : Int}
    (hdecode : stored.checkpoint.decodeAndValidate execution h.limits = .ok payload)
    (hlast : payload.lastRecord? = some r) (hscheduled : r.state = .scheduled)
    (hgated : DurableHost.gatedWakeup r.attempt now = some wakeup) :
    Returns (h.turnAndExposeResolved w execution resolver (some now) (some stored)).2
      (.waiting (r.logicalId execution.executionId)
        (r.spec.options.actionDeadlineUnixMillis.elim wakeup (min · wakeup))) := by
  have hloaded : h.loadedRecord? execution (some stored) = some r := by
    simp [DurableHost.loadedRecord?, hdecode, Except.toOption, hlast]
  obtain ⟨init, hstate⟩ := lastRecord?_eq_some hlast
  have hchecked : h.checkLoaded execution (some stored) = .ok () := by
    simp [DurableHost.checkLoaded, hdecode, orRejected, hstate, ActivityRecord.exposedAttempt?,
      hscheduled, bind, Except.bind]
  exact DurableHost.turn_returns_waiting_iff.2 ⟨hchecked,
    (DurableHost.checkWakeup_eq_error hloaded).2 ⟨hscheduled, rfl, wakeup, hgated, rfl⟩⟩

end

namespace EarlyDeadline

open DurableHost

def spec (deadline : Option Int) : ActivitySpec :=
  ⟨LateAnswer.charge, [], 0, 0, ⟨3, 1000, deadline, none⟩⟩

def exposed (deadline : Option Int) : ActivityRecord :=
  (ActivityRecord.scheduled 0 (spec deadline)).exposed LateAnswer.attempt

/-- The record of the retry of an attempt that failed at time zero. -/
def retried (deadline : Option Int) : ActivityRecord :=
  { exposed deadline with attempt := ⟨2, some 1000, none⟩, state := .scheduled }

def host : DurableHost := .new LateAnswer.hostB LateAnswer.limits

def activity (deadline : Option Int) : LogicalActivityId :=
  (exposed deadline).logicalId LateAnswer.executionSpec.executionId

def stored (revision : Nat) (r : ActivityRecord) : StoredCheckpoint :=
  ⟨revision, .encode (LateAnswer.payload [r])⟩

theorem stores_exposed : LateAnswer.Stores [exposed (some 5)] := by
  have hinner : (LateAnswer.payload [exposed (some 5)]).innerLen = 675 := by
    rw [CheckpointPayload.innerLen, Json.length_toVec]
    decide +kernel
  exact LateAnswer.stores_of_innerLen (by decide +kernel) hinner rfl (by decide)

theorem stores_retried : LateAnswer.Stores [retried (some 5)] := by
  have hinner : (LateAnswer.payload [retried (some 5)]).innerLen = 594 := by
    rw [CheckpointPayload.innerLen, Json.length_toVec]
    decide +kernel
  exact LateAnswer.stores_of_innerLen (by decide +kernel) hinner rfl (by decide)

theorem stores_retried_none : LateAnswer.Stores [retried none] := by
  have hinner : (LateAnswer.payload [retried none]).innerLen = 597 := by
    rw [CheckpointPayload.innerLen, Json.length_toVec]
    decide +kernel
  exact LateAnswer.stores_of_innerLen (by decide +kernel) hinner rfl (by decide)

theorem loads_retried {deadline : Option Int} (hstores : LateAnswer.Stores [retried deadline]) :
    host.loadedRecord? LateAnswer.executionSpec (some (stored 2 (retried deadline))) =
      some (retried deadline) := by
  have hdecode : (stored 2 (retried deadline)).checkpoint.decodeAndValidate LateAnswer.executionSpec
      host.limits = .ok (LateAnswer.payload [retried deadline]) := hstores.2
  simp only [loadedRecord?, Option.bind_some, hdecode]
  rfl

theorem waits_retried {deadline : Option Int} (hstores : LateAnswer.Stores [retried deadline])
    (w : Workflow) (resolver : ExposureResolver) (now wakeAt : Int)
    (hgated : gatedWakeup (retried deadline).attempt now = some 1000)
    (hwake : deadline.elim 1000 (min · 1000) = wakeAt) :
    Returns (host.turnAndExposeResolved w LateAnswer.executionSpec resolver (some now)
      (some (stored 2 (retried deadline)))).2 (.waiting (activity deadline) wakeAt) := by
  have hdecode : (stored 2 (retried deadline)).checkpoint.decodeAndValidate LateAnswer.executionSpec
      host.limits = .ok (LateAnswer.payload [retried deadline]) := hstores.2
  have hlast : (LateAnswer.payload [retried deadline]).lastRecord? = some (retried deadline) := rfl
  have hscheduled : (retried deadline).state = .scheduled := rfl
  have hwaits : Returns (host.turnAndExposeResolved w LateAnswer.executionSpec resolver (some now)
      (some (stored 2 (retried deadline)))).2
      (.waiting ((retried deadline).logicalId LateAnswer.executionSpec.executionId)
        ((retried deadline).spec.options.actionDeadlineUnixMillis.elim 1000 (min · 1000))) :=
    turnAndExpose_waiting hdecode hlast hscheduled hgated
  rw [← hwake]
  exact hwaits

/-- A retry is scheduled past the deadline of its activity.  A turn at the deadline returns that it
waits until then, and so does every turn before the retry. -/
theorem waits_at_deadline :
    (∃ proposal, host.scheduleRetry LateAnswer.executionSpec (activity (some 5)) 0
        (some (stored 1 (exposed (some 5)))) = .ok proposal ∧
          proposal.checkpoint = (stored 2 (retried (some 5))).checkpoint) ∧
      ∀ w resolver, Returns (host.turnAndExposeResolved w LateAnswer.executionSpec resolver (some 5)
        (some (stored 2 (retried (some 5))))).2 (.waiting (activity (some 5)) 5) := by
  constructor
  · have hdecode : (stored 1 (exposed (some 5))).checkpoint.decodeAndValidate
        LateAnswer.executionSpec host.limits = .ok (LateAnswer.payload [exposed (some 5)]) :=
      stores_exposed.2
    have hlast : (LateAnswer.payload [exposed (some 5)]).lastRecord? = some (exposed (some 5)) := rfl
    have hretry : (exposed (some 5)).spec.options.retryNotBeforeUnixMillis
        (exposed (some 5)).attempt.ordinal 0 = some 1000 := by decide
    have hscheduled : (exposed (some 5)).scheduleRetry 1000 = .ok (retried (some 5)) := rfl
    have hencode : CheckpointEnvelope.encodeWithLimits
        ((LateAnswer.payload [exposed (some 5)]).replaceFinalRecord (retried (some 5))) host.limits =
          .ok (stored 2 (retried (some 5))).checkpoint := by
      rw [show (LateAnswer.payload [exposed (some 5)]).replaceFinalRecord (retried (some 5)) =
        LateAnswer.payload [retried (some 5)] from rfl]
      exact stores_retried.1
    have hfound : host.observedRecord LateAnswer.executionSpec (activity (some 5))
        (some (stored 1 (exposed (some 5)))) =
          .ok (1, LateAnswer.payload [exposed (some 5)], exposed (some 5)) :=
      observedRecord_eq hdecode hlast rfl
    have hproposal := scheduleRetry_eq hfound (by decide) hretry hscheduled hencode
    exact ⟨_, hproposal, rfl⟩
  · intro w resolver
    exact waits_retried stores_retried w resolver 5 5 rfl (by decide)

theorem waiting_useful_iff_without_deadline :
    (0 : Int) < 1000 ∧ ∀ later, 1000 ≤ later →
      ¬Waits (host.turnAndExposeResolved LateAnswer.workflow LateAnswer.executionSpec
        (.effect LateAnswer.resolver) (some later) (some (stored 2 (retried none)))).2 := by
  have hno : ∀ r ∈ host.loadedRecord? LateAnswer.executionSpec (some (stored 2 (retried none))),
      ∀ deadline ∈ r.spec.options.actionDeadlineUnixMillis, ∀ gate ∈ gates r.attempt,
        gate ≤ deadline := by
    rw [loads_retried stores_retried_none]
    rintro r ⟨⟩ deadline ⟨⟩
  have hgated : gatedWakeup (retried none).attempt 0 = some 1000 := rfl
  have hwait := waits_retried stores_retried_none LateAnswer.workflow (.effect LateAnswer.resolver)
    0 1000 hgated rfl
  exact (waiting_useful_iff hwait).2 hno

end EarlyDeadline

end Kuberic.Dex
