import Kuberic.Dex.System
import Mathlib.Data.List.Perm.Subperm

/-!
# Dispatch of strict effects

A strict effect is dispatched at most twice, the second time only after its first attempt was proven
not to have been admitted.  The permits that hosts hold are in memory, while the ledger of the effect is
in the store: what bounds the permits is that each is of an exposure that the store accepted.
-/

namespace Kuberic.Dex

/-- A checkpoint has the record in its active history. -/
def CheckpointEnvelope.Records (e : CheckpointEnvelope) (r : ActivityRecord) : Prop :=
  ∃ payload records, e.payload? = some payload ∧ payload.state = .active records ∧ r ∈ records

/-- The call exposes the activity when it is accepted. -/
def Call.exposes (activity : LogicalActivityId) (call : Call) : Bool :=
  call.proposal.acceptance.permits.any (·.activity = activity)

namespace System

/-- The permits that were handed out for an activity. -/
def handedFor (s : System) (activity : LogicalActivityId) : List HandedPermit :=
  s.permits.filter (·.permit.activity = activity)

/-- Some accepted checkpoint records the activity with a prepared command. -/
def StrictEffect (s : System) (execution : ExecutionSpec) (activity : LogicalActivityId) : Prop :=
  ∃ call ∈ s.log, ∃ r, call.proposal.checkpoint.Records r ∧
    r.logicalId execution.executionId = activity ∧ r.preparedCommand.isSome

end System

/-! ## Counting exposures -/

theorem length_le_countP {α : Type} {l : List α} {P : α → Bool} {is : List Nat} (hnodup : is.Nodup)
    (his : ∀ i ∈ is, ∃ a, l[i]? = some a ∧ P a = true) : is.length ≤ l.countP P := by
  have hsubset : is ⊆ (l.zipIdx.filter (P ·.1)).map (·.2) := by
    intro i hi
    obtain ⟨a, ha, hP⟩ := his i hi
    exact List.mem_map.2 ⟨(a, i), List.mem_filter.2 ⟨List.mem_zipIdx_iff_getElem?.2 ha, hP⟩, rfl⟩
  have hcount : (l.zipIdx.filter (P ·.1)).length = l.countP P := by
    conv_rhs => rw [← List.zipIdx_map_fst 0 l, List.countP_map]
    exact List.countP_eq_length_filter.symm
  have hle := (hnodup.subperm hsubset).length_le
  rwa [List.length_map, hcount] at hle

section

variable {w : Workflow} {execution : ExecutionSpec} {log : List Call} {p : Progress}
  {activity : LogicalActivityId}

theorem Traces.countP_exposes (h : Traces w execution log p) :
    log.countP (Call.exposes activity) = (p.exposuresOf activity).length := by
  have hcount : ∀ log : List Call, log.countP (Call.exposes activity) =
      ((log.flatMap (·.proposal.acceptance.permits)).filter (·.activity = activity)).length := by
    intro log
    induction log with
    | nil => rfl
    | cons call log ih =>
      rw [List.countP_cons, ih, List.flatMap_cons, List.filter_append, List.length_append,
        Nat.add_comm]
      congr 1
      unfold Call.exposes Acceptance.permits
      cases call.proposal.acceptance with
      | exposure permit => by_cases hactivity : permit.activity = activity <;> simp [hactivity]
      | schedule | observation | retry | wait | completion => rfl
  rw [hcount, Progress.exposuresOf, h.exposures]

variable {call : Call}

theorem Traces.represents (h : Traces w execution (log ++ [call]) p) :
    ∃ payload, call.proposal.checkpoint = .encode payload ∧ p.Represents payload.state := by
  generalize hlog : log ++ [call] = log' at h
  cases h with
  | nil => simp at hlog
  | concat _ _ _ _ hcheckpoint hrepresents =>
    obtain ⟨-, heq⟩ := List.append_inj' hlog rfl
    cases heq
    exact ⟨_, hcheckpoint, hrepresents⟩

variable {r : ActivityRecord}

theorem Traces.mem_of_records (h : Traces w execution (log ++ [call]) p)
    (hr : call.proposal.checkpoint.Records r) : r ∈ p.records := by
  obtain ⟨payload, hcheckpoint, hrepresents⟩ := h.represents
  obtain ⟨payload', records, hpayload, hstate, hr⟩ := hr
  rw [hcheckpoint, CheckpointEnvelope.payload_encode] at hpayload
  cases hpayload
  rw [hstate] at hrepresents
  rwa [hrepresents.of_active.1]

theorem Traces.records_of_mem (h : Traces w execution (log ++ [call]) p)
    (houtcome : p.outcome = none) (hr : r ∈ p.records) : call.proposal.checkpoint.Records r := by
  obtain ⟨payload, hcheckpoint, hrepresents⟩ := h.represents
  refine ⟨payload, p.records, ?_, ?_, hr⟩
  · rw [hcheckpoint, CheckpointEnvelope.payload_encode]
  · simpa [Progress.Represents, houtcome] using hrepresents

theorem take_succ_of_getElem? {i : Nat} (hi : log[i]? = some call) :
    log.take (i + 1) = log.take i ++ [call] := by
  rw [List.take_add_one, hi, Option.toList_some]

theorem Traces.exists_record (h : Traces w execution log p) (hcall : call ∈ log)
    (hr : call.proposal.checkpoint.Records r) :
    ∃ r' ∈ p.records, r'.logicalId execution.executionId = r.logicalId execution.executionId ∧
      r'.preparedCommand = r.preparedCommand := by
  obtain ⟨i, hi⟩ := List.getElem?_of_mem hcall
  obtain ⟨q, q', hat⟩ := h.at hi
  have hafter := hat.after
  rw [take_succ_of_getElem? hi] at hafter
  obtain ⟨k, hk⟩ := List.getElem?_of_mem (hafter.mem_of_records hr)
  obtain ⟨r', hr', hid, hcommand, -⟩ := hat.persists k r hk
  exact ⟨r', List.mem_of_getElem? hr', hid, hcommand⟩

theorem Traces.not_exposed_after_quarantined (h : Traces w execution log p) {i j : Nat}
    {observed exposing : Call} {observation : DurableHost.EffectObservation}
    (hi : log[i]? = some observed) (hj : log[j]? = some exposing) (hij : i ≤ j)
    (hobserved : observed.operation = .observeQuarantinedEffect observation)
    {permit : DispatchPermit} (hexposing : exposing.proposal.acceptance = .exposure permit)
    (hactivity : permit.activity = observation.activity) : False := by
  obtain ⟨q, q', hat⟩ := h.at hj
  have hledger := hat.before.ledger
  have hexposures : q'.exposures = q.exposures ++ [permit] := by
    rw [hat.exposures, hexposing, Acceptance.permits]
  have hcontext := hat.advance.context_ne_none (by simp [hexposures])
  -- When the exposure is decided, the observation is in the log.
  have hlt : i < j := by
    refine lt_of_le_of_ne hij fun heq => ?_
    rw [heq, hj] at hi
    cases hi
    rw [hobserved] at hcontext
    exact hcontext rfl
  have hi' : (log.take j)[i]? = some observed := by rwa [List.getElem?_take_of_lt hlt]
  obtain ⟨o, o', hat'⟩ := hat.before.at hi'
  have hadvance := hat'.advance
  rw [hobserved] at hadvance
  obtain ⟨r, hr, hid, hcompleted⟩ := hadvance.quarantined hat'.before.ledger
  obtain ⟨r', hr', -, -, heq⟩ := hat'.persists _ r hr
  obtain rfl := heq hcompleted
  have hstate : r'.state ≠ .scheduled := by
    intro hscheduled
    rw [hscheduled] at hcompleted
    cases hcompleted
  have hsame := hat.advance.exposuresOf_eq hcontext hledger hr' hstate
  simp [Progress.exposuresOf, hexposures, hid, hactivity] at hsame

/-- A second exposure of a strict effect is decided on a checkpoint whose only attempt was proven not
to have been admitted. -/
theorem Traces.redelivers (h : Traces w execution log p) {i j : Nat} {earlier later : Call}
    (hi : log[i]? = some earlier) (hj : log[j]? = some later) (hij : i < j)
    {first second : DispatchPermit} (hearlier : earlier.proposal.acceptance = .exposure first)
    (hlater : later.proposal.acceptance = .exposure second)
    (hactivity : first.activity = second.activity) (hstrict : second.preparedCommand.isSome) :
    ∃ call ∈ log.take j, ∃ r attempt, call.proposal.checkpoint.Records r ∧
      r.logicalId execution.executionId = second.activity ∧ r.attempts = [attempt] ∧
      attempt.state = .provenNoAdmission ∧ attempt.attemptId = first.attemptId := by
  obtain ⟨q, q', hat⟩ := h.at hj
  have hexposures : q'.exposures = q.exposures ++ [second] := by
    rw [hat.exposures, hlater, Acceptance.permits]
  have hcontext := hat.advance.context_ne_none (by simp [hexposures])
  have hfirst : first ∈ q.exposuresOf second.activity := by
    have hmem : earlier ∈ log.take j :=
      List.mem_of_getElem? ((List.getElem?_take_of_lt hij).trans hi)
    rw [Progress.exposuresOf, hat.before.exposures]
    refine List.mem_filter.2 ⟨List.mem_flatMap.2 ⟨earlier, hmem, ?_⟩, decide_eq_true hactivity⟩
    simp [hearlier, Acceptance.permits]
  obtain ⟨r, attempt, hr, hid, hattempts, hproven, hids⟩ :=
    hat.advance.redelivers hcontext hat.before.ledger hexposures hstrict (List.ne_nil_of_mem hfirst)
  -- The checkpoint before the second exposure is the one that it was decided on.
  have hpos : 0 < j := by omega
  have hlt : j - 1 < log.length := (Nat.sub_le j 1).trans_lt (List.getElem?_eq_some_iff.1 hj).1
  obtain ⟨call, hcall⟩ : ∃ call, log[j - 1]? = some call :=
    ⟨log[j - 1], List.getElem?_eq_getElem hlt⟩
  have htake : log.take j = log.take (j - 1) ++ [call] := by
    rw [← take_succ_of_getElem? hcall, Nat.sub_add_cancel hpos]
  have hbefore := hat.before
  rw [htake] at hbefore
  have houtcome : q.outcome = none := by
    obtain ⟨host, hdecide⟩ := hat.decided
    obtain ⟨records, hloaded, -⟩ := decide_refines hdecide
    exact (hat.before.loaded hloaded).2
  refine ⟨call, by simp [htake], r, attempt,
    hbefore.records_of_mem houtcome (List.mem_of_getElem? hr), hid.symm, hattempts, hproven, ?_⟩
  have hmem := List.mem_map_of_mem (f := DispatchPermit.attemptId) hfirst
  rw [hids, List.mem_singleton] at hmem
  exact hmem.symm

/-- In a trace that records a strict effect, the exposures of that effect have its command and are at
most two. -/
theorem Traces.strict (h : Traces w execution log p) (hr : r ∈ p.records)
    (hid : r.logicalId execution.executionId = activity) (hstrict : r.preparedCommand.isSome) :
    log.countP (Call.exposes activity) ≤ 2 ∧
      ∀ call ∈ log, ∀ permit, call.proposal.acceptance = .exposure permit →
        permit.activity = activity → permit.preparedCommand = r.preparedCommand := by
  have hledger := h.ledger
  obtain ⟨i, hi⟩ := List.getElem?_of_mem hr
  constructor
  · have hattempts := congrArg List.length (hledger.attempts r hr hstrict)
    rw [List.length_map, List.length_map, hid] at hattempts
    rw [h.countP_exposes, hattempts]
    obtain hle | ⟨first, second, heq, -⟩ :=
      validateEffectAttempts_eq_ok.1 ((hledger.valid.record hi).attempts hstrict)
    · omega
    · simp [heq]
  · intro call hcall permit hpermit hactivity
    have hmem : permit ∈ p.exposures := by
      rw [h.exposures]
      exact List.mem_flatMap.2 ⟨call, hcall, by simp [hpermit, Acceptance.permits]⟩
    obtain ⟨r', hr', -, hcommand⟩ := hledger.exposed permit hmem
    have hsequence : permit.activity.sequence = i := by
      rw [hactivity, ← hid]
      exact hledger.valid.sequence hi
    rw [hsequence, hi] at hr'
    cases hr'
    exact hcommand

end

/-! ## Permits of a run -/

namespace System

variable {w : Workflow} {execution : ExecutionSpec} {s : System} {activity : LogicalActivityId}

theorem Inv.length_handedFor_le (h : s.Inv w execution) :
    (s.handedFor activity).length ≤ s.log.countP (Call.exposes activity) := by
  have hdistinct : ∀ a ∈ s.permits, ∀ b ∈ s.permits, a.revision - 1 = b.revision - 1 → a = b := by
    intro a ha b hb heq
    obtain ⟨-, ha0, -⟩ := h.granted a ha
    obtain ⟨-, hb0, -⟩ := h.granted b hb
    exact List.inj_on_of_nodup_map h.distinct ha hb (by omega)
  have hnodup : ((s.handedFor activity).map (·.revision - 1)).Nodup := by
    refine List.Nodup.map_on (fun a ha b hb => ?_) ((List.Nodup.of_map _ h.distinct).filter _)
    exact hdistinct a (List.mem_of_mem_filter ha) b (List.mem_of_mem_filter hb)
  rw [← List.length_map (f := fun permit : HandedPermit => permit.revision - 1)]
  refine length_le_countP hnodup fun i hi => ?_
  obtain ⟨permit, hpermit, rfl⟩ := List.mem_map.1 hi
  obtain ⟨hmem, hactivity⟩ := List.mem_filter.1 hpermit
  obtain ⟨call, -, -, -, hcall, hacceptance⟩ := h.granted permit hmem
  refine ⟨call, hcall, ?_⟩
  simpa [Call.exposes, hacceptance, Acceptance.permits] using hactivity

/-- Of two permits of an effect, the one that was handed out later came after both exposures. -/
theorem Inv.handedAt_le (h : s.Inv w execution) {first second : HandedPermit}
    (hpair : s.handedFor activity = [first, second]) :
    first.revision ≤ second.handedAt ∧ second.revision ≤ second.handedAt ∧
      first.revision ≠ second.revision := by
  have hsublist : [first, second].Sublist s.permits := hpair ▸ List.filter_sublist
  have hfirst : first ∈ s.permits := hsublist.subset (by simp)
  have hsecond : second ∈ s.permits := hsublist.subset (by simp)
  obtain ⟨-, -, hle, -⟩ := h.granted first hfirst
  obtain ⟨-, -, hle', -⟩ := h.granted second hsecond
  have hordered := List.pairwise_pair.1 (h.ordered.sublist hsublist)
  have hne := (h.distinct.sublist (hsublist.map HandedPermit.revision))
  exact ⟨hle.trans hordered, hle', by simpa using hne⟩

end System

theorem strictEffect_dispatched_at_most_twice {w : Workflow} {execution : ExecutionSpec}
    {events : List Event} {s : System} (hrun : System.run w execution events = some s)
    {activity : LogicalActivityId} (hstrict : s.StrictEffect execution activity) :
    (s.handedFor activity).length ≤ 2 ∧
    (∃ command, ∀ handed ∈ s.handedFor activity, handed.permit.preparedCommand = some command) ∧
    (∀ first second, s.handedFor activity = [first, second] →
      ∃ call ∈ s.log.take second.handedAt, ∃ r attempt, call.proposal.checkpoint.Records r ∧
        r.logicalId execution.executionId = activity ∧ r.attempts = [attempt] ∧
        attempt.state = .provenNoAdmission ∧
        attempt.attemptId =
          (if first.revision < second.revision then first else second).permit.attemptId) ∧
    (∀ (i : Nat) call observation, s.log[i]? = some call →
      call.operation = .observeQuarantinedEffect observation → observation.activity = activity →
      ∀ handed ∈ s.handedFor activity, handed.revision ≤ i) := by
  have h := System.Inv.run hrun
  obtain ⟨p, htraces⟩ := h.traces
  obtain ⟨call, hcall, r₀, hr₀, hid₀, hcommand₀⟩ := hstrict
  obtain ⟨r, hr, hid, hcommand⟩ := htraces.exists_record hcall hr₀
  have hstrict : r.preparedCommand.isSome := hcommand ▸ hcommand₀
  obtain ⟨hcount, hcommands⟩ := htraces.strict hr (hid.trans hid₀) hstrict
  have hgranted : ∀ handed ∈ s.handedFor activity, handed.permit.activity = activity ∧
      ∃ call, System.Grants s.log handed call := fun handed hhanded =>
    ⟨of_decide_eq_true (List.mem_filter.1 hhanded).2, h.granted handed (List.mem_filter.1 hhanded).1⟩
  have hpermit : ∀ handed ∈ s.handedFor activity,
      handed.permit.preparedCommand = r.preparedCommand := by
    intro handed hhanded
    obtain ⟨hactivity, call, -, -, -, hcall, hacceptance⟩ := hgranted handed hhanded
    exact hcommands call (List.mem_of_getElem? hcall) handed.permit hacceptance hactivity
  refine ⟨h.length_handedFor_le.trans hcount, ?_, ?_, ?_⟩
  · obtain ⟨command, hsome⟩ := Option.isSome_iff_exists.1 hstrict
    exact ⟨command, fun handed hhanded => (hpermit handed hhanded).trans hsome⟩
  · intro first second hpair
    obtain ⟨hle, hle', hne⟩ := h.handedAt_le hpair
    have hfirst : first ∈ s.handedFor activity := by simp [hpair]
    have hsecond : second ∈ s.handedFor activity := by simp [hpair]
    obtain ⟨hactivity, call₁, hzero₁, -, -, hcall₁, haccept₁⟩ := hgranted first hfirst
    obtain ⟨hactivity', call₂, hzero₂, -, -, hcall₂, haccept₂⟩ := hgranted second hsecond
    have hsame := hactivity.trans hactivity'.symm
    -- The permits may be handed out in the other order than their exposures were accepted in.
    split_ifs with hlt
    · obtain ⟨call, hmem, r', attempt, hr', hid', hrest⟩ := htraces.redelivers hcall₁ hcall₂
        (by omega) haccept₁ haccept₂ hsame (by rwa [hpermit second hsecond])
      exact ⟨call, List.take_subset_take_left _ (by omega) hmem, r', attempt, hr',
        hid'.trans hactivity', hrest⟩
    · obtain ⟨call, hmem, r', attempt, hr', hid', hrest⟩ := htraces.redelivers hcall₂ hcall₁
        (by omega) haccept₂ haccept₁ hsame.symm (by rwa [hpermit first hfirst])
      exact ⟨call, List.take_subset_take_left _ (by omega) hmem, r', attempt, hr',
        hid'.trans hactivity, hrest⟩
  · intro i call observation hi hoperation hactivity handed hhanded
    obtain ⟨hactivity', exposing, hzero, -, -, hexposing, hacceptance⟩ := hgranted handed hhanded
    by_contra hlt
    exact htraces.not_exposed_after_quarantined hi hexposing (by omega) hoperation hacceptance
      (hactivity'.trans hactivity.symm)

/-! ## Decisions of given hosts -/

section

variable {w : Workflow} {execution : ExecutionSpec} {h : DurableHost} {payload : CheckpointPayload}
  {r r' : ActivityRecord} {checkpoint : CheckpointEnvelope} {activity : LogicalActivityId}
  {expected : Option StorageRevision} {boundary : PersistenceBoundary}

theorem maximumActivityCompletedEncodedLen_eq {init : List ActivityRecord} {n resultLen : Nat}
    (hstate : payload.state = .active (init ++ [r]))
    (hresult : base64Len r.spec.maxResultBytes = some resultLen)
    (hinner : (payload.replaceFinalRecord { r with state := .completed [] }).innerLen = n) :
    payload.maximumActivityCompletedEncodedLen = projectedEncodedLen n resultLen := by
  have hactive : payload.activeActivities = some (init ++ [r]) := by
    rw [CheckpointPayload.activeActivities, hstate]
  simp only [CheckpointPayload.maximumActivityCompletedEncodedLen, hactive, Check.demand,
    List.getLast?_concat, hresult, orOverflow, bind, Except.bind, hinner]

theorem exposable_eq {n : Nat} (hdecode : checkpoint.decodeAndValidate execution h.limits = .ok payload)
    (hlast : payload.lastRecord? = some r)
    (hreserved : payload.maximumActivityCompletedEncodedLen = .ok n)
    (hroom : n ≤ h.limits.maxActiveEncodedBytes) :
    h.exposable execution checkpoint = .ok (payload, r) := by
  simp only [DurableHost.exposable, hdecode, hlast, Check.demand, hreserved, bind, Except.bind,
    Check.rejectIf, Nat.not_lt.2 hroom, if_false, pure, Except.pure]

theorem prepareExposure_eq (hexposable : h.exposable execution checkpoint = .ok (payload, r))
    (hexpose : r.exposeAttempt h.nextAttempt = .ok r')
    {checkpoint' : CheckpointEnvelope} (hencode : CheckpointEnvelope.encodeWithLimits
      (payload.replaceFinalRecord r') h.limits = .ok checkpoint') :
    h.prepareExposure execution expected boundary checkpoint activity = (h.advance,
      .ok ⟨expected, checkpoint', boundary, .exposure ⟨activity, h.nextAttempt, r.attempt.ordinal,
        r.attempt.retryNotBeforeUnixMillis, r.preparedCommand⟩⟩) := by
  simp only [DurableHost.prepareExposure, hexposable, DurableHost.exposureProposal, hexpose, hencode,
    orRejected, bind, Except.bind, pure, Except.pure]

theorem evaluateEffects_fresh {limits : CheckpointLimits} {resolver : PreparedEffectResolver}
    {spec : ActivitySpec} {metadata : EffectMetadata} {command : PreparedCommand}
    (hload : loadPayload execution none limits = .ok payload) (hstate : payload.state = .active [])
    (haction : w execution.workflowInput [] = .await (.effect spec metadata))
    (hprepare : WorkflowContext.prepareCommand
      ⟨execution.executionId, identityActivityResolver, some resolver⟩ none spec metadata = .ok command)
    (hencode : CheckpointEnvelope.encodeWithLimits (payload.push ⟨0, spec, .first, some command,
      some metadata.completionClass, [], none, .scheduled⟩) limits = .ok checkpoint) :
    evaluateEffects w execution none limits resolver =
      .scheduled ⟨execution.executionId, 0, spec⟩ checkpoint := by
  have hprepared : ActivityRecord.preparedEffect 0 spec command metadata.completionClass []
      .scheduled = .ok ⟨0, spec, .first, some command, some metadata.completionClass, [], none,
        .scheduled⟩ := rfl
  simp only [evaluateEffects, evaluateInternal, hload, evaluatePayload, hstate, pollWorkflow, haction,
    List.head?_nil, WorkflowContext.poll, WorkflowContext.pollEffect, Option.filter_none, hprepare,
    evaluateDecision, hprepared, evaluateScheduled, hencode]

theorem turnAndExpose_fresh {resolver : DurableHost.ExposureResolver} {result : DurableHost × Decision}
    (hevaluate : resolver.evaluate w execution none h.limits = .scheduled activity checkpoint)
    (hprepare : h.prepareExposure execution none .scheduleExposure checkpoint activity = result) :
    h.decide w execution none (.turnAndExpose resolver none) = result := by
  simp only [DurableHost.decide, DurableHost.turnAndExposeResolved, DurableHost.checkLoaded,
    DurableHost.checkWakeup, Option.map_none, hevaluate, DurableHost.afterEvaluation, hprepare]

theorem observedRecord_eq {stored : StoredCheckpoint}
    (hdecode : stored.checkpoint.decodeAndValidate execution h.limits = .ok payload)
    (hlast : payload.lastRecord? = some r) (hid : r.logicalId execution.executionId = activity) :
    h.observedRecord execution activity (some stored) = .ok (stored.revision, payload, r) := by
  simp only [DurableHost.observedRecord, hdecode, orRejected, hlast, bind, Except.bind, hid, ne_eq,
    not_true_eq_false, if_false]

theorem observeQuarantinedEffect_eq {stored : StoredCheckpoint}
    {observation : DurableHost.EffectObservation} {checkpoint' : CheckpointEnvelope}
    (hfound : h.observedRecord execution observation.activity (some stored) =
      .ok (stored.revision, payload, r))
    (hattempt : r.exposedAttempt? = some observation.attemptId)
    (hbound : DurableHost.checkResultBound r (max observation.result.length
      ((observation.failure.bind (·.payload)).elim 0 List.length)) = .ok ())
    (hobserve : r.observeEffectAttempt observation.attemptId .completed observation.result
      observation.failure = .ok r')
    (hencode : CheckpointEnvelope.encodeWithLimits (payload.replaceFinalRecord r') h.limits =
      .ok checkpoint') :
    h.decide w execution (some stored) (.observeQuarantinedEffect observation) =
      (h, .ok ⟨some stored.revision, checkpoint', .observation,
        .observation observation.activity⟩) := by
  simp only [DurableHost.decide, DurableHost.observeQuarantinedEffect,
    DurableHost.observeEffectWithRedelivery, Bool.false_eq_true, if_false, hfound, hattempt, hbound,
    hobserve, DurableHost.replacementProposal, hencode, orRejected, Check.rejectIf, ne_eq,
    not_true_eq_false, bind, Except.bind, pure, Except.pure]

end

/-! ## An answer that arrives late -/

namespace LateAnswer

def executionSpec : ExecutionSpec := ⟨.filled 0, [], 0⟩

def contract : ExecutionContract := ⟨executionSpec, 2000, some 1000⟩

def limits : CheckpointLimits := ⟨1, 2000, 1000, Nat.one_ne_zero,
  Nat.succ_ne_zero (nat_lit 1999), Nat.succ_ne_zero (nat_lit 999)⟩

def charge : ActivityName := ⟨"charge", 1, by decide, Nat.one_ne_zero⟩

def spec : ActivitySpec := ⟨charge, [], 0, 0, default⟩

def command : PreparedCommand := ⟨[7], 1⟩

/-- One strict effect. -/
def workflow : Workflow := fun _ results =>
  match results with
  | [] => .await (.effect spec ⟨1, .externalEffect⟩)
  | _ => .complete (.succeeded [])

def resolver : PreparedEffectResolver := fun _ _ _ _ => .ok command

def hostA : HostEpoch := .filled 1

def hostB : HostEpoch := .filled 2

def attempt : AttemptId := ⟨hostA, 1, Nat.one_ne_zero⟩

def scheduled : ActivityRecord :=
  ⟨0, spec, .first, some command, some .externalEffect, [], none, .scheduled⟩

def exposed : ActivityRecord := scheduled.exposed attempt

def observation : DurableHost.EffectObservation :=
  ⟨scheduled.logicalId executionSpec.executionId, attempt, [], none, .completed⟩

def completed : ActivityRecord := exposed.observed attempt .completed [] none

def payload (records : List ActivityRecord) : CheckpointPayload := .active contract records

theorem maximumTerminalEncodedLen_payload (records : List ActivityRecord) :
    (payload records).maximumTerminalEncodedLen = .ok 721 := by
  have hlengths : (CheckpointPayload.terminalCandidates contract ⟨u64Max, u64Max, 0⟩
      ⟨u64Max, 10 ^ 19, u64Max - 10 ^ 19⟩).map CheckpointPayload.innerLen =
        [350, 347, 497, 494, 515, 512] := by
    unfold CheckpointPayload.innerLen
    simp only [Json.length_toVec]
    decide +kernel
  have hpayload : base64Len contract.spec.maxTerminalPayloadBytes = some 0 := by decide
  have heq : (payload records).maximumTerminalEncodedLen =
      largestProjected 0 [350, 347, 497, 494, 515, 512] :=
    maximumTerminalEncodedLen_eq hpayload hlengths
  rw [heq]
  decide +kernel

/-- The history is written and read back. -/
def Stores (records : List ActivityRecord) : Prop :=
  CheckpointEnvelope.encodeWithLimits (payload records) limits = .ok (.encode (payload records)) ∧
    (CheckpointEnvelope.encode (payload records)).decodeAndValidate executionSpec limits =
      .ok (payload records)

theorem validateInternal_payload {records : List ActivityRecord}
    (hstate : validateState (payload records) limits = .ok ()) :
    (payload records).validateInternal limits = .ok () := by
  have hadmitted : (payload records).execution.admittedTerminal = 1000 := rfl
  exact validateInternal_of_state (maximumTerminalEncodedLen_payload records)
    (hadmitted ▸ by decide) rfl rfl hstate

theorem stores_of_innerLen {records : List ActivityRecord} {inner outer : Nat}
    (hstate : validateState (payload records) limits = .ok ())
    (hinner : (payload records).innerLen = inner)
    (houter : ((orOverflow (base64Len inner)).bind fun payloadLen =>
      orOverflow (checkedAdd 33 payloadLen)) = .ok outer) (hle : outer ≤ 2000) :
    Stores records := by
  exact stored_of_encodedLen rfl (validateInternal_payload hstate)
    (encodedLen_of_innerLen hinner houter) hle

theorem stores_scheduled : Stores [scheduled] := by
  have hinner : (payload [scheduled]).innerLen = 684 := by
    rw [CheckpointPayload.innerLen, Json.length_toVec]
    decide +kernel
  exact stores_of_innerLen (by decide +kernel) hinner rfl (by decide)

theorem stores_exposed : Stores [exposed] := by
  have hinner : (payload [exposed]).innerLen = 883 := by
    rw [CheckpointPayload.innerLen, Json.length_toVec]
    decide +kernel
  exact stores_of_innerLen (by decide +kernel) hinner rfl (by decide)

theorem stores_completed : Stores [completed] := by
  have hinner : (payload [completed]).innerLen = 815 := by
    rw [CheckpointPayload.innerLen, Json.length_toVec]
    decide +kernel
  exact stores_of_innerLen (by decide +kernel) hinner rfl (by decide)

theorem load_initial : loadPayload executionSpec none limits = .ok (payload []) := by
  have hvalid : (payload []).validate executionSpec limits = .ok () :=
    CheckpointEnvelope.validate_self (validateInternal_payload rfl)
  exact Check.bind_eq_ok.2 ⟨(), hvalid, rfl⟩

theorem maximumActivityCompletedEncodedLen_scheduled :
    (payload [scheduled]).maximumActivityCompletedEncodedLen = .ok 961 := by
  have hstate : (payload [scheduled]).state = .active ([] ++ [scheduled]) := rfl
  have hreplace : (payload [scheduled]).replaceFinalRecord { scheduled with state := .completed [] } =
      payload [{ scheduled with state := .completed [] }] := rfl
  have hinner : ((payload [scheduled]).replaceFinalRecord
      { scheduled with state := .completed [] }).innerLen = 696 := by
    rw [hreplace, CheckpointPayload.innerLen, Json.length_toVec]
    decide +kernel
  have hprojected : projectedEncodedLen 696 0 = .ok 961 := by decide +kernel
  exact (maximumActivityCompletedEncodedLen_eq hstate rfl hinner).trans hprojected

theorem decide_hostA : (DurableHost.new hostA limits).decide workflow executionSpec none
    (.turnAndExpose (.effect resolver) none) = ((DurableHost.new hostA limits).advance,
      .ok ⟨none, .encode (payload [exposed]), .scheduleExposure,
        .exposure (scheduled.permit executionSpec.executionId attempt)⟩) := by
  have hencode : CheckpointEnvelope.encodeWithLimits ((payload []).push scheduled) limits =
      .ok (.encode (payload [scheduled])) := by
    rw [show (payload []).push scheduled = payload [scheduled] from rfl]
    exact stores_scheduled.1
  have hevaluate : (DurableHost.ExposureResolver.effect resolver).evaluate workflow executionSpec none
      limits = .scheduled (scheduled.logicalId executionSpec.executionId)
        (.encode (payload [scheduled])) :=
    evaluateEffects_fresh load_initial rfl rfl rfl hencode
  have hexposable : (DurableHost.new hostA limits).exposable executionSpec
      (.encode (payload [scheduled])) = .ok (payload [scheduled], scheduled) :=
    exposable_eq stores_scheduled.2 rfl maximumActivityCompletedEncodedLen_scheduled (by decide)
  have hexposed : CheckpointEnvelope.encodeWithLimits
      ((payload [scheduled]).replaceFinalRecord exposed) limits = .ok (.encode (payload [exposed])) := by
    rw [show (payload [scheduled]).replaceFinalRecord exposed = payload [exposed] from rfl]
    exact stores_exposed.1
  exact turnAndExpose_fresh hevaluate (prepareExposure_eq hexposable rfl hexposed)

theorem decide_hostB : (DurableHost.new hostB limits).decide workflow executionSpec
    (some ⟨1, .encode (payload [exposed])⟩) (.observeQuarantinedEffect observation) =
      (DurableHost.new hostB limits, .ok ⟨some 1, .encode (payload [completed]), .observation,
        .observation observation.activity⟩) := by
  have hencode : CheckpointEnvelope.encodeWithLimits
      ((payload [exposed]).replaceFinalRecord completed) limits =
        .ok (.encode (payload [completed])) := by
    rw [show (payload [exposed]).replaceFinalRecord completed = payload [completed] from rfl]
    exact stores_completed.1
  exact observeQuarantinedEffect_eq (observedRecord_eq stores_exposed.2 rfl rfl) rfl rfl rfl hencode

def callA : Call := ⟨0, .turnAndExpose (.effect resolver) none, none, .encode (payload [exposed]),
  .scheduleExposure, .exposure (scheduled.permit executionSpec.executionId attempt)⟩

def callB : Call := ⟨1, .observeQuarantinedEffect observation, some 1, .encode (payload [completed]),
  .observation, .observation observation.activity⟩

/-- The first host exposes the effect and waits; the second one resolves it from observation; only
then does the first one learn that its exposure was accepted. -/
def events : List Event :=
  [.start hostA limits, .start hostB limits, .operate hostA callA.operation, .apply 0,
    .operate hostB callB.operation, .apply 1, .answer hostA (.ok (.accepted 1))]

def late : HandedPermit := ⟨scheduled.permit executionSpec.executionId attempt, 1, 2⟩

/-- The hosts before the exposure, and after it. -/
def started : System :=
  (System.init.setHost hostA (.idle (.new hostA limits))).setHost hostB (.idle (.new hostB limits))

def proposed : System :=
  { started.setHost hostA (.waiting (DurableHost.new hostA limits).advance callA) with
    calls := [callA], log := [callA] }

def observed : System :=
  { proposed.setHost hostB (.waiting (.new hostB limits) callB) with
    calls := [callA, callB], log := [callA, callB] }

def final : System :=
  { observed.setHost hostA (.idle (DurableHost.new hostA limits).advance) with permits := [late] }

theorem run_events : System.run workflow executionSpec events = some final := by
  simp only [System.run, events, List.foldlM_cons, List.foldlM_nil, Option.bind_eq_bind]
  refine Option.bind_eq_some_iff.2 ⟨_, System.step_start rfl, ?_⟩
  refine Option.bind_eq_some_iff.2 ⟨started, System.step_start rfl, ?_⟩
  refine Option.bind_eq_some_iff.2 ⟨_, System.step_operate rfl decide_hostA, ?_⟩
  refine Option.bind_eq_some_iff.2 ⟨proposed, System.step_apply rfl rfl, ?_⟩
  refine Option.bind_eq_some_iff.2 ⟨_, System.step_operate rfl decide_hostB, ?_⟩
  refine Option.bind_eq_some_iff.2 ⟨observed, System.step_apply rfl rfl, ?_⟩
  have hanswer : observed.MayAnswer callA (.ok (.accepted 1)) := ⟨Nat.one_ne_zero, rfl⟩
  exact Option.bind_eq_some_iff.2 ⟨final, System.step_answer rfl hanswer, rfl⟩

theorem strictEffect_final : final.StrictEffect executionSpec observation.activity :=
  ⟨callA, List.mem_cons_self, exposed, ⟨payload [exposed], [exposed],
    CheckpointEnvelope.payload_encode _, rfl, List.mem_singleton_self _⟩, rfl, rfl⟩

/-- The permit is handed out after the quarantined observation, which is the second accepted call. -/
theorem handed_after_quarantined_observation :
    System.run workflow executionSpec events = some final ∧
      final.StrictEffect executionSpec observation.activity ∧
      (∃ call, final.log[1]? = some call ∧ call.operation = .observeQuarantinedEffect observation) ∧
      ∃ handed ∈ final.handedFor observation.activity, 1 < handed.handedAt :=
  ⟨run_events, strictEffect_final, ⟨callB, rfl, rfl⟩, late, by decide, by decide⟩

theorem strictEffect_dispatched_at_most_twice_final :
    (final.handedFor observation.activity).length ≤ 2 :=
  (strictEffect_dispatched_at_most_twice run_events strictEffect_final).1

end LateAnswer

end Kuberic.Dex
