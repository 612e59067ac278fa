import Kuberic.Dex.Progress

/-!
# Proposals make steps

Every proposal of a host is a checkpoint of the execution some steps after the one that was loaded.
-/

namespace Kuberic.Dex

open Check CheckpointEnvelope

/-! ## Checkpoints -/

variable {p : CheckpointPayload}

theorem decodeAndValidate_eq_ok {e : CheckpointEnvelope} {execution : ExecutionSpec}
    {limits : CheckpointLimits} (h : e.decodeAndValidate execution limits = .ok p) :
    e.payload? = some p ∧ p.validateInternal limits = .ok () := by
  simp only [decodeAndValidate, bind_eq_ok, pure, Except.pure, Except.ok.injEq] at h
  obtain ⟨-, -, -, -, payload, hpayload, -, -, ⟨⟩, hvalid, rfl⟩ := h
  refine ⟨?_, ?_⟩
  · cases hread : e.payload? <;> simp_all [demand]
  · simp only [CheckpointPayload.validate, seq_eq_ok] at hvalid
    exact hvalid.2.2.2

/-- The records of the checkpoint that an operation loaded, when that is active. -/
def LoadedRecords (loaded : Option StoredCheckpoint) (records : List ActivityRecord) : Prop :=
  match loaded with
  | none => records = []
  | some stored => ∃ payload, stored.checkpoint.payload? = some payload ∧
      payload.state = .active records

def Progress.Represents (p : Progress) (state : CheckpointState) : Prop :=
  match p.outcome with
  | none => state = .active p.records
  | some outcome => ∃ metadata, state = .terminal outcome p.records.length metadata

theorem Progress.Represents.of_active {p : Progress} {records : List ActivityRecord}
    (h : p.Represents (.active records)) : p.records = records ∧ p.outcome = none := by
  unfold Represents at h
  cases houtcome : p.outcome with
  | none =>
    simp only [houtcome, CheckpointState.active.injEq] at h
    exact ⟨h.symm, rfl⟩
  | some outcome => simp [houtcome] at h

def Acceptance.permits : Acceptance → List DispatchPermit
  | .exposure permit => [permit]
  | _ => []

/-- The checkpoint of a proposal is some steps after an active one with the given records. -/
def Refines (w : Workflow) (execution : ExecutionSpec) (op : Operation)
    (records : List ActivityRecord) (proposal : Proposal) : Prop :=
  ∃ payload records' outcome, proposal.checkpoint = encode payload ∧
    (∀ exposures, Progress.Advance w execution op ⟨records, exposures, none⟩
      ⟨records', exposures ++ proposal.acceptance.permits, outcome⟩) ∧
    Progress.Represents ⟨records', [], outcome⟩ payload.state

section

variable {w : Workflow} {execution : ExecutionSpec} {op : Operation} {h : DurableHost}
  {proposal : Proposal} {records init : List ActivityRecord}

theorem Refines.head {records' : List ActivityRecord} (hrefines : Refines w execution op records' proposal)
    (hstep : ∀ exposures, Progress.Step w execution op ⟨records, exposures, none⟩
      ⟨records', exposures, none⟩) : Refines w execution op records proposal := by
  obtain ⟨payload, records'', outcome, hcheckpoint, hadvance, hstate⟩ := hrefines
  exact ⟨payload, records'', outcome, hcheckpoint,
    fun exposures => .head (hstep exposures) (hadvance exposures), hstate⟩

theorem orRejected_eq_ok {α : Type} {x : Except CheckpointError α} {a : α} :
    orRejected x = .ok a ↔ x = .ok a := by
  cases x <;> simp [orRejected]

variable {r : ActivityRecord}

theorem lastRecord?_eq_some (hr : p.lastRecord? = some r) :
    ∃ init, p.state = .active (init ++ [r]) := by
  unfold CheckpointPayload.lastRecord? CheckpointPayload.activeActivities at hr
  cases hstate : p.state with
  | terminal => simp [hstate] at hr
  | active activities =>
    simp only [hstate, Option.bind_some] at hr
    exact ⟨activities.dropLast, by rw [List.dropLast_append_getLast? r hr]⟩

theorem state_replaceFinalRecord (r' : ActivityRecord) (hstate : p.state = .active (init ++ [r])) :
    (p.replaceFinalRecord r').state = .active (init ++ [r']) := by
  simp [CheckpointPayload.replaceFinalRecord, hstate]

theorem state_push (hstate : p.state = .active records) :
    (p.push r).state = .active (records ++ [r]) := by
  simp [CheckpointPayload.push, hstate]

/-! ## Exposure and completion -/

variable {checkpoint : CheckpointEnvelope} {payload : CheckpointPayload}

theorem exposable_eq_ok (hexposable : h.exposable execution checkpoint = .ok (payload, r)) :
    checkpoint.payload? = some payload ∧ payload.lastRecord? = some r := by
  simp only [DurableHost.exposable, bind_eq_ok, pure, Except.pure, Except.ok.injEq,
    Prod.mk.injEq] at hexposable
  obtain ⟨payload, hdecode, r, hr, -, -, -, -, rfl, rfl⟩ := hexposable
  refine ⟨(decodeAndValidate_eq_ok hdecode).1, ?_⟩
  cases hlast : payload.lastRecord? <;> simp_all [demand]

theorem exposeAttempt_eq_ok {r' : ActivityRecord} {attemptId : AttemptId}
    (hexpose : r.exposeAttempt attemptId = .ok r') : r' = r.exposed attemptId := by
  unfold ActivityRecord.exposeAttempt at hexpose
  split_ifs at hexpose
  · simp only [bind_eq_ok, pure, Except.pure, Except.ok.injEq] at hexpose
    obtain ⟨-, -, rfl⟩ := hexpose
    rfl
  · exact (Except.ok.inj hexpose).symm

variable {expected : Option StorageRevision} {boundary : PersistenceBoundary}

theorem prepareExposure_refines (hcontext : op.context? execution.executionId ≠ none)
    (hpayload : checkpoint.payload? = some payload) (hstate : payload.state = .active (init ++ [r]))
    (hscheduled : r.state = .scheduled)
    (hprepare : (h.prepareExposure execution expected boundary checkpoint
      (r.logicalId execution.executionId)).2 = .ok proposal) :
    proposal.expected = expected ∧ Refines w execution op (init ++ [r]) proposal := by
  unfold DurableHost.prepareExposure at hprepare
  cases hexposable : h.exposable execution checkpoint with
  | error error => simp [hexposable] at hprepare
  | ok found =>
    obtain ⟨payload', r'⟩ := found
    obtain ⟨hpayload', hlast⟩ := exposable_eq_ok hexposable
    rw [hpayload] at hpayload'
    cases hpayload'
    obtain ⟨init', hstate'⟩ := lastRecord?_eq_some hlast
    rw [hstate] at hstate'
    obtain ⟨rfl, hr⟩ := List.append_inj' (CheckpointState.active.inj hstate') rfl
    cases hr
    simp only [hexposable, orRejected_eq_ok, DurableHost.exposureProposal, bind_eq_ok, pure,
      Except.pure, Except.ok.injEq] at hprepare
    obtain ⟨exposed, hexpose, checkpoint', hencode, rfl⟩ := hprepare
    cases exposeAttempt_eq_ok hexpose
    obtain ⟨rfl, hvalid, -⟩ := encodeWithLimits_eq_ok.1 hencode
    have hstate'' := state_replaceFinalRecord (r.exposed h.nextAttempt) hstate
    refine ⟨rfl, payload.replaceFinalRecord (r.exposed h.nextAttempt), _, none, rfl, ?_, hstate''⟩
    intro exposures
    exact .single (.expose hcontext hscheduled (CheckpointPayload.validHistory hvalid hstate''))

theorem completionMetadataOf_eq_ok {count : Nat} {metadata : CompletionMetadata}
    (hmetadata : completionMetadataOf records count = .ok (some metadata)) :
    metadata.completedActivityCount = count ∧
      CompletionMetadata.fromClasses (records.filterMap (·.completionClass)) = .ok metadata := by
  unfold completionMetadataOf at hmetadata
  split_ifs at hmetadata
  · simp only [bind_eq_ok, effectContract_eq_ok] at hmetadata
    obtain ⟨metadata', hclasses, hcount⟩ := hmetadata
    split_ifs at hcount with hne
    cases hcount
    exact ⟨not_not.1 hne, hclasses⟩
  · cases hmetadata

theorem intoTerminal_eq_ok {t : CheckpointPayload} {outcome : TerminalOutcome} {count : Nat}
    (h : p.intoTerminal outcome count = .ok t) :
    outcome.payload.length ≤ p.execution.spec.maxTerminalPayloadBytes ∧
      ∃ metadata, t = ⟨p.execution, .terminal outcome count metadata⟩ ∧
        ∀ m ∈ metadata, m.completedActivityCount = count ∧
          ∃ classes, CompletionMetadata.fromClasses classes = .ok m := by
  unfold CheckpointPayload.intoTerminal at h
  cases hstate : p.state with
  | terminal => simp [hstate] at h
  | active activities =>
    simp only [hstate, bind_eq_ok] at h
    obtain ⟨_, hbound, metadata, hmetadata, h⟩ := h
    have hle : outcome.payload.length ≤ p.execution.spec.maxTerminalPayloadBytes := by
      simpa [validateTerminalOutcome] using hbound
    refine ⟨hle, metadata, ?_⟩
    cases metadata with
    | none =>
      cases h
      exact ⟨rfl, fun m hm => absurd hm (Option.not_mem_none m)⟩
    | some m =>
      obtain ⟨hcount, hclasses⟩ := completionMetadataOf_eq_ok hmetadata
      cases h
      refine ⟨by rw [CheckpointPayload.terminalWithMetadata, hcount], fun m' hm' => ?_⟩
      obtain rfl : m = m' := Option.some.inj hm'
      exact ⟨hcount, _, hclasses⟩

theorem commitCompletion_refines {outcome : TerminalOutcome} {ctx : WorkflowContext}
    (hcontext : op.context? execution.executionId = some ctx)
    (hreplays : ReplaysAll ctx w execution.workflowInput records (.complete outcome))
    (hcommit : h.commitCompletion expected execution outcome records.length checkpoint boundary =
      .ok proposal) : proposal.expected = expected ∧ Refines w execution op records proposal := by
  simp only [DurableHost.commitCompletion, bind_eq_ok, orRejected_eq_ok, pure, Except.pure,
    Except.ok.injEq] at hcommit
  obtain ⟨active, -, terminal, hterminal, checkpoint', hencode, rfl⟩ := hcommit
  obtain ⟨rfl, -, -⟩ := encodeWithLimits_eq_ok.1 hencode
  obtain ⟨-, metadata, rfl, -⟩ := intoTerminal_eq_ok hterminal
  refine ⟨rfl, _, records, some outcome, rfl, fun exposures => ?_, metadata, rfl⟩
  have hstep : Progress.Step w execution op ⟨records, exposures, none⟩
      ⟨records, exposures, some outcome⟩ := .finish hcontext hreplays
  simpa [Acceptance.permits, Progress.Advance] using Relation.TransGen.single hstep

/-! ## Turns -/

variable {loaded : Option StoredCheckpoint}

theorem loadPayload_eq_ok {limits : CheckpointLimits}
    (hload : loadPayload execution (loaded.map (·.checkpoint)) limits = .ok payload)
    (hstate : payload.state = .active records) :
    LoadedRecords loaded records ∧ ValidHistory records := by
  cases loaded with
  | none =>
    simp only [Option.map_none, loadPayload, bind_eq_ok, pure, Except.pure, Except.ok.injEq] at hload
    obtain ⟨-, -, rfl⟩ := hload
    cases hstate
    exact ⟨rfl, rfl⟩
  | some stored =>
    obtain ⟨hpayload, hvalid⟩ := decodeAndValidate_eq_ok hload
    exact ⟨⟨payload, hpayload, hstate⟩, CheckpointPayload.validHistory hvalid hstate⟩

theorem evaluateInternal_cases (w : Workflow) (execution : ExecutionSpec)
    (checkpoint : Option CheckpointEnvelope) (limits : CheckpointLimits)
    (resolver : PreparedActivityResolver) (effectResolver : Option PreparedEffectResolver) :
    (evaluateInternal w execution checkpoint limits resolver effectResolver).Stops ∨
      ∃ payload, loadPayload execution checkpoint limits = .ok payload ∧
        Evaluated ⟨execution.executionId, resolver, effectResolver⟩ w execution.workflowInput payload
          limits (evaluateInternal w execution checkpoint limits resolver effectResolver) := by
  unfold evaluateInternal
  cases loadPayload execution checkpoint limits with
  | error error => exact Or.inl trivial
  | ok payload => exact Or.inr ⟨payload, rfl, evaluatePayload_cases _ _ _ _ _⟩

/-- A turn that evaluated the workflow in the context `ctx`, given how it goes on with a scheduled
record. -/
theorem afterEvaluation_refines {keepEffect : Bool} {ctx : WorkflowContext}
    {evaluation : Evaluation}
    {onScheduled : LogicalActivityId → CheckpointEnvelope → DurableHost × Decision}
    (hcontext : op.context? execution.executionId = some ctx)
    (hexecution : ctx.executionId = execution.executionId)
    (hevaluation : evaluation.Stops ∨ ∃ payload,
      loadPayload execution (loaded.map (·.checkpoint)) h.limits = .ok payload ∧
      Evaluated ctx w execution.workflowInput payload h.limits evaluation)
    (hscheduled : ∀ (payload : CheckpointPayload) (records : List ActivityRecord)
      (r : ActivityRecord), payload.state = .active records → r.state = .scheduled →
      (∀ exposures, Progress.Step w execution op ⟨records, exposures, none⟩
        ⟨records ++ [r], exposures, none⟩) →
      (onScheduled (r.logicalId execution.executionId) (encode (payload.push r))).2 = .ok proposal →
      proposal.expected = loaded.map (·.revision) ∧ Refines w execution op records proposal)
    (hafter : (h.afterEvaluation execution loaded boundary keepEffect onScheduled evaluation).2 =
      .ok proposal) :
    ∃ records, LoadedRecords loaded records ∧ proposal.expected = loaded.map (·.revision) ∧
      Refines w execution op records proposal := by
  obtain hstops | ⟨payload, hload, hevaluated⟩ := hevaluation
  · cases evaluation <;> first | exact hstops.elim | cases hafter
  cases hevaluated with
  | stopped hstops =>
    cases evaluation <;> first | exact hstops.elim | cases hafter
  | @scheduled records request r checkpoint hstate hreplays hnew hencode =>
    obtain ⟨rfl, hvalid, -⟩ := encodeWithLimits_eq_ok.1 hencode
    rw [hexecution] at hafter
    have hstep : ∀ exposures, Progress.Step w execution op ⟨records, exposures, none⟩
        ⟨records ++ [r], exposures, none⟩ := fun exposures =>
      .request hcontext hreplays hnew (CheckpointPayload.validHistory hvalid (state_push hstate))
    exact ⟨records, (loadPayload_eq_ok hload hstate).1,
      hscheduled payload records r hstate hnew.state hstep hafter⟩
  | @pending init r rest request hstate hreplays hcompares hincomplete =>
    obtain ⟨hrecords, hvalid⟩ := loadPayload_eq_ok hload hstate
    obtain rfl := hvalid.rest_eq_nil hincomplete
    refine ⟨init ++ [r], hrecords, ?_⟩
    have hid : (⟨ctx.executionId, init.length, r.spec⟩ : LogicalActivityId) =
        r.logicalId execution.executionId := by
      rw [ActivityRecord.logicalId, hvalid.last.sequence, hexecution]
    rw [hid] at hafter
    cases hr : r.state with
    | dispatchExposed | completed => simp [DurableHost.afterEvaluation, hr] at hafter
    | scheduled =>
      cases loaded with
      | none => simp [DurableHost.afterEvaluation, hr] at hafter
      | some stored =>
        simp only [DurableHost.afterEvaluation, hr] at hafter
        exact prepareExposure_refines (by simp [hcontext]) (decodeAndValidate_eq_ok hload).1 hstate
          hr hafter
  | @complete records outcome checkpoint hstate hreplays hencode =>
    exact ⟨records, (loadPayload_eq_ok hload hstate).1,
      commitCompletion_refines hcontext hreplays hafter⟩

theorem turn_refines (hturn : (h.turn w execution loaded).2 = .ok proposal) :
    ∃ records, LoadedRecords loaded records ∧ proposal.expected = loaded.map (·.revision) ∧
      Refines w execution .turn records proposal := by
  unfold DurableHost.turn at hturn
  cases hcheck : h.checkLoaded execution loaded with
  | error outcome => simp [hcheck] at hturn
  | ok =>
    simp only [hcheck] at hturn
    refine afterEvaluation_refines rfl rfl (evaluateInternal_cases _ _ _ _ _ _) ?_ hturn
    intro payload records r hstate hr hstep hproposal
    cases hproposal
    refine ⟨rfl, payload.push r, records ++ [r], none, rfl, fun exposures => ?_, state_push hstate⟩
    simpa [Acceptance.permits, Progress.Advance] using
      Relation.TransGen.single (hstep exposures)

theorem prepareExposure_push_refines (hcontext : op.context? execution.executionId ≠ none)
    (hstate : payload.state = .active records) (hscheduled : r.state = .scheduled)
    (hstep : ∀ exposures, Progress.Step w execution op ⟨records, exposures, none⟩
      ⟨records ++ [r], exposures, none⟩)
    (hprepare : (h.prepareExposure execution expected boundary (encode (payload.push r))
      (r.logicalId execution.executionId)).2 = .ok proposal) :
    proposal.expected = expected ∧ Refines w execution op records proposal := by
  obtain ⟨hexpected, hrefines⟩ := prepareExposure_refines (w := w) hcontext (payload_encode _)
    (state_push hstate) hscheduled hprepare
  exact ⟨hexpected, hrefines.head hstep⟩

theorem turnAndExpose_refines {resolver : DurableHost.ExposureResolver} {now : Option Int}
    (hturn : (h.turnAndExposeResolved w execution resolver now loaded).2 = .ok proposal) :
    ∃ records, LoadedRecords loaded records ∧ proposal.expected = loaded.map (·.revision) ∧
      Refines w execution (.turnAndExpose resolver now) records proposal := by
  unfold DurableHost.turnAndExposeResolved at hturn
  cases hcheck : h.checkLoaded execution loaded with
  | error outcome => simp [hcheck] at hturn
  | ok =>
    cases hwakeup : h.checkWakeup execution now loaded with
    | error outcome => simp [hcheck, hwakeup] at hturn
    | ok =>
      simp only [hcheck, hwakeup] at hturn
      -- Both kinds of resolver evaluate in the context of the operation.
      cases resolver with
      | activity resolver | effect resolver =>
        refine afterEvaluation_refines rfl rfl (evaluateInternal_cases _ _ _ _ _ _) ?_ hturn
        intro payload records r hstate hr hstep hproposal
        exact prepareExposure_push_refines nofun hstate hr hstep hproposal

/-! ## Observations -/

variable {activity : LogicalActivityId} {revision : StorageRevision}

theorem observedRecord_eq_ok
    (hfound : h.observedRecord execution activity loaded = .ok (revision, payload, r)) :
    ∃ init, LoadedRecords loaded (init ++ [r]) ∧ loaded.map (·.revision) = some revision ∧
      payload.state = .active (init ++ [r]) ∧ ValidHistory (init ++ [r]) ∧
      activity = r.logicalId execution.executionId := by
  cases loaded with
  | none => cases hfound
  | some stored =>
    simp only [DurableHost.observedRecord, bind_eq_ok, orRejected_eq_ok] at hfound
    obtain ⟨payload', hdecode, hfound⟩ := hfound
    obtain ⟨hpayload, hvalid⟩ := decodeAndValidate_eq_ok hdecode
    cases hlast : payload'.lastRecord? with
    | none => simp [hlast] at hfound
    | some r' =>
      simp only [hlast] at hfound
      split_ifs at hfound with hactivity
      cases hfound
      obtain ⟨init, hstate⟩ := lastRecord?_eq_some hlast
      exact ⟨init, ⟨payload, hpayload, hstate⟩, rfl, hstate,
        CheckpointPayload.validHistory hvalid hstate, (not_not.1 hactivity).symm⟩

theorem replacementProposal_refines {r' : ActivityRecord} {acceptance : Acceptance}
    (hstate : payload.state = .active (init ++ [r]))
    (hobserved : Observed execution.executionId op r r') (hpermits : acceptance.permits = [])
    (hreplace : h.replacementProposal revision payload r' boundary acceptance = .ok proposal) :
    proposal.expected = some revision ∧ Refines w execution op (init ++ [r]) proposal := by
  simp only [DurableHost.replacementProposal, bind_eq_ok, orRejected_eq_ok, pure, Except.pure,
    Except.ok.injEq] at hreplace
  obtain ⟨checkpoint, hencode, rfl⟩ := hreplace
  obtain ⟨rfl, hvalid, -⟩ := encodeWithLimits_eq_ok.1 hencode
  have hstate' := state_replaceFinalRecord r' hstate
  refine ⟨rfl, payload.replaceFinalRecord r', init ++ [r'], none, rfl, fun exposures => ?_, hstate'⟩
  have hstep : Progress.Step w execution op ⟨init ++ [r], exposures, none⟩
      ⟨init ++ [r'], exposures, none⟩ :=
    .observe hobserved (CheckpointPayload.validHistory hvalid hstate')
  simpa [hpermits, Progress.Advance] using Relation.TransGen.single hstep

theorem observation_refines {r' : ActivityRecord} {acceptance : Acceptance}
    (hfound : h.observedRecord execution activity loaded = .ok (revision, payload, r))
    (hobserved : activity = r.logicalId execution.executionId → Observed execution.executionId op r r')
    (hpermits : acceptance.permits = [])
    (hreplace : h.replacementProposal revision payload r' boundary acceptance = .ok proposal) :
    ∃ records, LoadedRecords loaded records ∧ proposal.expected = loaded.map (·.revision) ∧
      Refines w execution op records proposal := by
  obtain ⟨init, hloaded, hrevision, hstate, hvalid, hid⟩ := observedRecord_eq_ok hfound
  refine ⟨init ++ [r], hloaded, ?_⟩
  rw [hrevision]
  exact replacementProposal_refines hstate (hobserved hid) hpermits hreplace

section

variable {executionId : ExecutionId} {r r' : ActivityRecord}

theorem Observed.of_completed {result : ExactBytes}
    (hactivity : op.activity? = some (r.logicalId executionId)) (hexposed : r.exposedAttempt? ≠ none)
    (hvalue : op.value? = some (.ok result)) :
    Observed executionId op r (r.withState (.completed result)) :=
  ⟨hactivity, hexposed, rfl, rfl, rfl, rfl, Or.inr ⟨nofun, hvalue.symm⟩⟩

theorem Observed.of_failure {failure : ActivityFailure}
    (hactivity : op.activity? = some (r.logicalId executionId)) (hexposed : r.exposedAttempt? ≠ none)
    (hvalue : op.value? = some (.error failure)) :
    Observed executionId op r (r.withFailure failure) :=
  ⟨hactivity, hexposed, rfl, rfl, rfl, rfl, Or.inr ⟨nofun, hvalue.symm⟩⟩

theorem scheduleRetry_eq_ok {retryNotBefore : Int} (h : r.scheduleRetry retryNotBefore = .ok r') :
    r.exposedAttempt? ≠ none ∧ r' = { r with
      attempt := ⟨r.attempt.ordinal + 1, some retryNotBefore, none⟩, state := .scheduled } := by
  unfold ActivityRecord.scheduleRetry at h
  split_ifs at h with hexposed
  exact ⟨hexposed, (Except.ok.inj h).symm⟩

theorem deferWait_eq_ok {waitUntil : Int} (h : r.deferWait waitUntil = .ok r') :
    r.exposedAttempt? ≠ none ∧ r' = { r with
      attempt := { r.attempt with handlerWaitUntilUnixMillis := some waitUntil }
      state := .scheduled } := by
  unfold ActivityRecord.deferWait at h
  split_ifs at h with hexposed
  exact ⟨hexposed, (Except.ok.inj h).symm⟩

theorem observeEffectAttempt_eq_ok {attemptId : AttemptId}
    {disposition : EffectObservationDisposition} {result : ExactBytes}
    {failure : Option ActivityFailure}
    (h : r.observeEffectAttempt attemptId disposition result failure = .ok r') :
    r' = r.observed attemptId disposition result failure ∧
      r.attempts.map (·.attemptId) = r.attempts.dropLast.map (·.attemptId) ++ [attemptId] := by
  unfold ActivityRecord.observeEffectAttempt at h
  cases hlast : r.attempts.getLast? with
  | none => simp [hlast] at h
  | some attempt =>
    simp only [hlast] at h
    split_ifs at h with hmatch
    push Not at hmatch
    simp only [bind_eq_ok, pure, Except.pure, Except.ok.injEq] at h
    obtain ⟨-, -, rfl⟩ := h
    refine ⟨rfl, ?_⟩
    rw [← hmatch.1]
    conv_lhs => rw [← List.dropLast_append_getLast? attempt hlast]
    simp

theorem attemptIds_withLastAttempt {attemptId : AttemptId} (state : EffectAttemptState)
    (hledger : r.attempts.map (·.attemptId) =
      r.attempts.dropLast.map (·.attemptId) ++ [attemptId]) :
    (r.withLastAttempt ⟨attemptId, state⟩).attempts.map (·.attemptId) =
      r.attempts.map (·.attemptId) := by
  rw [hledger, ActivityRecord.withLastAttempt, List.map_append, List.map_singleton]

/-- An observation of an effect keeps the identities in its ledger and completes the activity, or
makes it ready for redelivery. -/
theorem Observed.of_effect {observation : DurableHost.EffectObservation}
    {disposition : EffectObservationDisposition}
    (hactivity : op.activity? = some (r.logicalId executionId)) (hexposed : r.exposedAttempt? ≠ none)
    (hvalue : op.value? = some (Operation.effectValue observation))
    (hredelivery : disposition = .provenNoAdmission → op.reschedules = true)
    (hfailure : r.failure = none)
    (hledger : r.attempts.map (·.attemptId) =
      r.attempts.dropLast.map (·.attemptId) ++ [observation.attemptId]) :
    Observed executionId op r
      (r.observed observation.attemptId disposition observation.result observation.failure) := by
  unfold ActivityRecord.observed
  split_ifs with hproven
  · exact ⟨hactivity, hexposed, rfl, rfl, rfl, attemptIds_withLastAttempt _ hledger,
      Or.inl ⟨rfl, hredelivery hproven.1⟩⟩
  · rw [Operation.effectValue] at hvalue
    cases hcase : observation.failure with
    | some failure =>
      rw [hcase] at hvalue
      exact ⟨hactivity, hexposed, rfl, rfl, rfl, attemptIds_withLastAttempt .observed hledger,
        Or.inr ⟨nofun, hvalue.symm⟩⟩
    | none =>
      rw [hcase] at hvalue
      have hresult : ((r.withLastAttempt ⟨observation.attemptId, .observed⟩).finished
          observation.result none).value? = some (.ok observation.result) := by
        simp [ActivityRecord.value?, ActivityRecord.finished, ActivityRecord.withLastAttempt, hfailure]
      exact ⟨hactivity, hexposed, rfl, rfl, rfl, attemptIds_withLastAttempt .observed hledger,
        Or.inr ⟨by simp [hresult], hresult.trans hvalue.symm⟩⟩

end

theorem checkExposed_eq_ok : DurableHost.checkExposed r = .ok () ↔ r.exposedAttempt? ≠ none := by
  simp [DurableHost.checkExposed]

theorem failure_eq_none (hvalid : ValidHistory (init ++ [r])) (hexposed : r.exposedAttempt? ≠ none) :
    r.failure = none := by
  by_contra hfailure
  have hcompleted := hvalid.last.failure hfailure
  cases hstate : r.state <;>
    simp [ActivityRecord.exposedAttempt?, hstate, ActivityState.isCompleted] at hexposed hcompleted

theorem observeEffectWithRedelivery_refines {observation : DurableHost.EffectObservation}
    {allowRedelivery : Bool} (hactivity : op.activity? = some observation.activity)
    (hvalue : op.value? = some (Operation.effectValue observation))
    (hredelivery : allowRedelivery = true → op.reschedules = true)
    (hobserve : h.observeEffectWithRedelivery execution observation allowRedelivery loaded =
      .ok proposal) :
    ∃ records, LoadedRecords loaded records ∧ proposal.expected = loaded.map (·.revision) ∧
      Refines w execution op records proposal := by
  simp only [DurableHost.observeEffectWithRedelivery, bind_eq_ok, Prod.exists, orRejected_eq_ok]
    at hobserve
  obtain ⟨revision, payload, r, hfound, ⟨⟩, hattempt, -, -, r', hr', hreplace⟩ := hobserve
  rw [rejectIf_eq_ok, not_not] at hattempt
  have hexposed : r.exposedAttempt? ≠ none := by simp [hattempt]
  obtain ⟨init, -, -, -, hvalid, -⟩ := observedRecord_eq_ok hfound
  obtain ⟨rfl, hledger⟩ := observeEffectAttempt_eq_ok hr'
  refine observation_refines hfound (fun hid => ?_) rfl hreplace
  refine .of_effect (hactivity.trans (congrArg some hid)) hexposed hvalue (fun hproven => ?_)
    (failure_eq_none hvalid hexposed) hledger
  cases allowRedelivery with
  | true => exact hredelivery rfl
  | false => cases hproven

theorem observe_refines {observation : DurableHost.ActivityObservation}
    (hobserve : h.observe execution observation loaded = .ok proposal) :
    ∃ records, LoadedRecords loaded records ∧ proposal.expected = loaded.map (·.revision) ∧
      Refines w execution (.observe observation) records proposal := by
  simp only [DurableHost.observe, bind_eq_ok, Prod.exists] at hobserve
  obtain ⟨revision, payload, r, hfound, ⟨⟩, hexposed, -, -, hreplace⟩ := hobserve
  rw [checkExposed_eq_ok] at hexposed
  exact observation_refines hfound (fun hid => .of_completed (congrArg some hid) hexposed rfl) rfl
    hreplace

theorem observeFailure_refines {failure : ActivityFailure}
    (hobserve : h.observeFailure execution activity failure loaded = .ok proposal) :
    ∃ records, LoadedRecords loaded records ∧ proposal.expected = loaded.map (·.revision) ∧
      Refines w execution (.observeFailure activity failure) records proposal := by
  simp only [DurableHost.observeFailure, bind_eq_ok, Prod.exists] at hobserve
  obtain ⟨revision, payload, r, hfound, ⟨⟩, hexposed, -, -, hreplace⟩ := hobserve
  rw [checkExposed_eq_ok] at hexposed
  exact observation_refines hfound (fun hid => .of_failure (congrArg some hid) hexposed rfl) rfl
    hreplace

theorem scheduleRetry_refines {observedAt : Int}
    (hretry : h.scheduleRetry execution activity observedAt loaded = .ok proposal) :
    ∃ records, LoadedRecords loaded records ∧ proposal.expected = loaded.map (·.revision) ∧
      Refines w execution (.scheduleRetry activity observedAt) records proposal := by
  simp only [DurableHost.scheduleRetry, bind_eq_ok, Prod.exists, orRejected_eq_ok] at hretry
  obtain ⟨revision, payload, r, hfound, -, -, retryNotBefore, -, r', hr', hreplace⟩ := hretry
  obtain ⟨hexposed, rfl⟩ := scheduleRetry_eq_ok hr'
  refine observation_refines hfound (fun hid => ?_) rfl hreplace
  exact ⟨congrArg some hid, hexposed, rfl, rfl, rfl, rfl, Or.inl ⟨rfl, rfl⟩⟩

theorem deferWait_refines {waitUntil : Int}
    (hdefer : h.deferWait execution activity waitUntil loaded = .ok proposal) :
    ∃ records, LoadedRecords loaded records ∧ proposal.expected = loaded.map (·.revision) ∧
      Refines w execution (.deferWait activity waitUntil) records proposal := by
  simp only [DurableHost.deferWait, bind_eq_ok, Prod.exists, orRejected_eq_ok] at hdefer
  obtain ⟨revision, payload, r, hfound, r', hr', hreplace⟩ := hdefer
  obtain ⟨hexposed, rfl⟩ := deferWait_eq_ok hr'
  refine observation_refines hfound (fun hid => ?_) rfl hreplace
  exact ⟨congrArg some hid, hexposed, rfl, rfl, rfl, rfl, Or.inl ⟨rfl, rfl⟩⟩

/-! ## Observation and turn in one checkpoint -/

theorem afterObservation_refines {ctx : WorkflowContext} {evaluation : Evaluation}
    (hcontext : op.context? execution.executionId = some ctx)
    (hexecution : ctx.executionId = execution.executionId)
    (hstate : payload.state = .active records)
    (hevaluated : Evaluated ctx w execution.workflowInput payload h.limits evaluation)
    (hafter : (h.afterObservation execution revision r evaluation).2 = .ok proposal) :
    proposal.expected = some revision ∧ Refines w execution op records proposal := by
  cases hevaluated with
  | stopped hstops => cases evaluation <;> first | exact hstops.elim | cases hafter
  | @scheduled records' request r' checkpoint hstate' hreplays hnew hencode =>
    rw [hstate] at hstate'
    cases hstate'
    obtain ⟨rfl, hvalid, -⟩ := encodeWithLimits_eq_ok.1 hencode
    rw [hexecution] at hafter
    refine prepareExposure_push_refines (by simp [hcontext]) hstate hnew.state (fun exposures => ?_)
      hafter
    exact .request hcontext hreplays hnew (CheckpointPayload.validHistory hvalid (state_push hstate))
  | @pending init r' rest request hstate' hreplays hcompares hincomplete =>
    cases hr : r'.state <;> simp [DurableHost.afterObservation, hr] at hafter
  | @complete records' outcome checkpoint hstate' hreplays hencode =>
    rw [hstate] at hstate'
    cases hstate'
    exact commitCompletion_refines hcontext hreplays hafter

theorem observeAndTurn_refines {observation : DurableHost.ActivityObservation}
    {resolver : PreparedActivityResolver}
    (hobserve : (h.observeAndTurnWith w execution observation resolver loaded).2 = .ok proposal) :
    ∃ records, LoadedRecords loaded records ∧ proposal.expected = loaded.map (·.revision) ∧
      Refines w execution (.observeAndTurn observation resolver) records proposal := by
  unfold DurableHost.observeAndTurnWith at hobserve
  cases hcompleted : h.completedCheckpoint execution observation loaded with
  | error outcome => simp [hcompleted] at hobserve
  | ok found =>
    obtain ⟨revision, r, checkpoint⟩ := found
    simp only [hcompleted] at hobserve
    simp only [DurableHost.completedCheckpoint, bind_eq_ok, Prod.exists, orRejected_eq_ok, pure,
      Except.pure, Except.ok.injEq, Prod.mk.injEq] at hcompleted
    obtain ⟨revision, payload, r, hfound, ⟨⟩, hexposed, -, -, checkpoint, hencode, rfl, rfl, rfl⟩ :=
      hcompleted
    rw [checkExposed_eq_ok] at hexposed
    obtain ⟨init, hloaded, hrevision, hstate, -, hid⟩ := observedRecord_eq_ok hfound
    obtain ⟨rfl, hvalid, -⟩ := encodeWithLimits_eq_ok.1 hencode
    have hstate' := state_replaceFinalRecord (r.withState (.completed observation.result)) hstate
    refine ⟨init ++ [r], hloaded, ?_⟩
    rw [hrevision]
    obtain hstops | ⟨payload', hload, hevaluated⟩ :=
      evaluateInternal_cases w execution _ h.limits resolver none
    · change (evaluatePrepared w execution _ h.limits resolver).Stops at hstops
      generalize evaluatePrepared w execution _ h.limits resolver = evaluation at hstops hobserve
      cases evaluation <;> first | exact hstops.elim | cases hobserve
    · obtain rfl : payload.replaceFinalRecord (r.withState (.completed observation.result)) = payload' :=
        Option.some.inj ((payload_encode _).symm.trans (decodeAndValidate_eq_ok hload).1)
      have hcontext : Operation.context? execution.executionId
          (.observeAndTurn observation resolver) = some ⟨execution.executionId, resolver, none⟩ := rfl
      obtain ⟨hexpected, hrefines⟩ :=
        afterObservation_refines hcontext rfl hstate' hevaluated hobserve
      refine ⟨hexpected, hrefines.head fun exposures => ?_⟩
      exact .observe (.of_completed (congrArg some hid) hexposed rfl)
        (CheckpointPayload.validHistory hvalid hstate')

/-- Every proposal of a host is some steps after what it loaded, and replaces exactly that. -/
theorem decide_refines (hdecide : (h.decide w execution loaded op).2 = .ok proposal) :
    ∃ records, LoadedRecords loaded records ∧ proposal.expected = loaded.map (·.revision) ∧
      Refines w execution op records proposal := by
  cases op with
  | turn => exact turn_refines hdecide
  | turnAndExpose resolver now => exact turnAndExpose_refines hdecide
  | observe observation => exact observe_refines hdecide
  | scheduleRetry activity observedAt => exact scheduleRetry_refines hdecide
  | observeFailure activity failure => exact observeFailure_refines hdecide
  | deferWait activity waitUntil => exact deferWait_refines hdecide
  | observeEffect observation =>
    exact observeEffectWithRedelivery_refines rfl rfl (fun _ => rfl) hdecide
  | observeQuarantinedEffect observation =>
    have hobserve : h.observeEffectWithRedelivery execution observation false loaded =
        .ok proposal := hdecide
    exact observeEffectWithRedelivery_refines rfl rfl (by simp) hobserve
  | observeAndTurn observation resolver => exact observeAndTurn_refines hdecide

end

end Kuberic.Dex
