import Kuberic.Dex.Dispatch

/-!
# The history of an execution

Whatever the hosts do, the store holds one history.  Each accepted checkpoint extends the one before
it: the records keep their activities and commands, and a completed record is never touched again.  A
terminal checkpoint is the last one.  A permit is handed out only after its exposure is part of that
history, and from then on every checkpoint says so.
-/

namespace Kuberic.Dex

/-- The checkpoint of the call holds the state. -/
def Call.Stores (call : Call) (state : CheckpointState) : Prop :=
  ∃ payload, call.proposal.checkpoint.payload? = some payload ∧ payload.state = state

theorem Call.Stores.unique {call : Call} {state state' : CheckpointState} (h : call.Stores state)
    (h' : call.Stores state') : state = state' := by
  obtain ⟨payload, hpayload, rfl⟩ := h
  obtain ⟨payload', hpayload', rfl⟩ := h'
  rw [hpayload] at hpayload'
  cases hpayload'
  rfl

/-- The records of a later checkpoint: those of the earlier one with their activities and commands,
the completed ones as they were, and perhaps more. -/
def ExtendsRecords (executionId : ExecutionId) (records records' : List ActivityRecord) : Prop :=
  ∀ (i : Nat) (r : ActivityRecord), records[i]? = some r → ∃ r', records'[i]? = some r' ∧
    r'.logicalId executionId = r.logicalId executionId ∧ r'.preparedCommand = r.preparedCommand ∧
    (r.state.isCompleted = true → r' = r)

section

variable {w : Workflow} {execution : ExecutionSpec} {log : List Call} {call : Call} {p p' : Progress}
  {op : Operation} {i j : Nat}

theorem Progress.Advance.outcome_before (h : Progress.Advance w execution op p p') :
    p.outcome = none := by
  induction h using Relation.TransGen.head_induction_on with
  | single hstep | head hstep => cases hstep <;> rfl

theorem Traces.stores (h : Traces w execution (log ++ [call]) p) :
    (p.outcome = none ∧ call.Stores (.active p.records)) ∨
      ∃ outcome metadata, p.outcome = some outcome ∧
        call.Stores (.terminal outcome p.records.length metadata) := by
  obtain ⟨payload, hcheckpoint, hrepresents⟩ := h.represents
  have hpayload : call.proposal.checkpoint.payload? = some payload := by
    rw [hcheckpoint, CheckpointEnvelope.payload_encode]
  unfold Progress.Represents at hrepresents
  cases houtcome : p.outcome with
  | none =>
    simp only [houtcome] at hrepresents
    exact .inl ⟨rfl, payload, hpayload, hrepresents⟩
  | some outcome =>
    simp only [houtcome] at hrepresents
    obtain ⟨metadata, hstate⟩ := hrepresents
    exact .inr ⟨outcome, metadata, rfl, payload, hpayload, hstate⟩

theorem Traces.upTo (h : Traces w execution log p) (hi : log[i]? = some call) :
    ∃ q, Traces w execution (log.take i ++ [call]) q := by
  obtain ⟨q, q', hat⟩ := h.at hi
  exact ⟨q', take_succ_of_getElem? hi ▸ hat.after⟩

theorem Traces.active_of_lt (h : Traces w execution log p) (hi : log[i]? = some call)
    (hlt : i + 1 < log.length) : ∃ q : Progress, call.Stores (.active q.records) ∧
      q.Persists execution.executionId p := by
  obtain ⟨q, q', hat⟩ := h.at (List.getElem?_eq_getElem hlt)
  have hbefore := hat.before
  rw [take_succ_of_getElem? hi] at hbefore
  have hnone := hat.advance.outcome_before
  obtain ⟨-, hstores⟩ | ⟨outcome, -, hsome, -⟩ := hbefore.stores
  · exact ⟨q, hstores, hat.advance.persists.trans hat.persists⟩
  · rw [hnone] at hsome
    cases hsome

end

section Runs

variable {w : Workflow} {execution : ExecutionSpec} {events : List Event} {s : System}

/-- Of two accepted checkpoints the earlier one is active, and the later one extends its history; if
the later one is terminal, it is the last of all. -/
theorem accepted_checkpoints_extend (hrun : System.run w execution events = some s) {i j : Nat}
    {earlier later : Call} (hi : s.log[i]? = some earlier) (hj : s.log[j]? = some later)
    (hij : i < j) :
    ∃ records, earlier.Stores (.active records) ∧
      ((∃ records', later.Stores (.active records') ∧
          ExtendsRecords execution.executionId records records') ∨
        ∃ outcome count metadata, later.Stores (.terminal outcome count metadata) ∧
          records.length ≤ count ∧ j + 1 = s.log.length) := by
  obtain ⟨p, htraces⟩ := (System.Inv.run hrun).traces
  obtain ⟨q, hlater⟩ := htraces.upTo hj
  have hjlt := (List.getElem?_eq_some_iff.1 hj).1
  -- the trace that ends with the later checkpoint
  have hi' : (s.log.take j ++ [later])[i]? = some earlier := by
    rw [List.getElem?_append_left (by simp; omega), List.getElem?_take_of_lt hij, hi]
  obtain ⟨q₀, hearlier, hpersists⟩ := hlater.active_of_lt hi' (by simp; omega)
  refine ⟨q₀.records, hearlier, ?_⟩
  obtain ⟨-, hstores⟩ | ⟨outcome, metadata, -, hstores⟩ := hlater.stores
  · exact .inl ⟨q.records, hstores, hpersists⟩
  · refine .inr ⟨outcome, _, metadata, hstores, ?_, ?_⟩
    · by_contra hlt
      obtain ⟨r, hr, -⟩ := hpersists q.records.length _ (List.getElem?_eq_getElem (by omega))
      simp at hr
    · by_contra hne
      obtain ⟨q₁, hactive, -⟩ := htraces.active_of_lt hj (by omega)
      cases hstores.unique hactive

/-- A permit is of an exposure that the store accepted before the permit was handed out, no other
permit is of that exposure, and every active checkpoint from then on has the record of the activity,
with its command and, for a strict effect, with the attempt in its ledger. -/
theorem permit_follows_accepted_exposure (hrun : System.run w execution events = some s)
    {handed : HandedPermit} (hhanded : handed ∈ s.permits) :
    (∃ call, s.log[handed.revision - 1]? = some call ∧
      call.proposal.acceptance = .exposure handed.permit) ∧
    0 < handed.revision ∧ handed.revision ≤ handed.handedAt ∧
    (∀ other ∈ s.permits, other.revision = handed.revision → other = handed) ∧
    ∀ j later records, handed.revision ≤ j + 1 → s.log[j]? = some later →
      later.Stores (.active records) →
      ∃ r, records[handed.permit.activity.sequence]? = some r ∧
        r.logicalId execution.executionId = handed.permit.activity ∧
        r.preparedCommand = handed.permit.preparedCommand ∧
        (r.preparedCommand.isSome → ∃ attempt ∈ r.attempts,
          attempt.attemptId = handed.permit.attemptId) := by
  have hinv := System.Inv.run hrun
  obtain ⟨call, hne, hle, -, hcall, hacceptance⟩ := hinv.granted handed hhanded
  refine ⟨⟨call, hcall, hacceptance⟩, Nat.pos_of_ne_zero hne, hle, ?_, ?_⟩
  · exact fun other hother heq => List.inj_on_of_nodup_map hinv.distinct hother hhanded heq
  · intro j later records hj hlater hstores
    obtain ⟨p, htraces⟩ := hinv.traces
    obtain ⟨q, hupTo⟩ := htraces.upTo hlater
    obtain ⟨-, hactive⟩ | ⟨_, _, -, hterminal⟩ := hupTo.stores
    swap
    · cases hterminal.unique hstores
    cases hactive.unique hstores
    -- the exposure is one of those that the trace up to the checkpoint has made
    have hmem : call ∈ s.log.take j ++ [later] := by
      rw [← take_succ_of_getElem? hlater]
      exact List.mem_of_getElem? ((List.getElem?_take_of_lt (by omega)).trans hcall)
    have hexposed : handed.permit ∈ q.exposures := by
      rw [hupTo.exposures, List.mem_flatMap]
      exact ⟨call, hmem, by simp [hacceptance, Acceptance.permits]⟩
    have hledger := hupTo.ledger
    obtain ⟨r, hr, hid, hcommand⟩ := hledger.exposed _ hexposed
    refine ⟨r, hr, hid.symm, hcommand.symm, fun hstrict => ?_⟩
    have hattempts := hledger.attempts r (List.mem_of_getElem? hr) hstrict
    have hattempt : handed.permit.attemptId ∈ r.attempts.map (·.attemptId) := by
      rw [← hattempts]
      exact List.mem_map.2 ⟨_, List.mem_filter.2 ⟨hexposed, by simpa using hid⟩, rfl⟩
    obtain ⟨attempt, hattempt, heq⟩ := List.mem_map.1 hattempt
    exact ⟨attempt, hattempt, heq⟩

end Runs

namespace LateAnswer

/-- The second checkpoint has the exposed effect completed. -/
theorem accepted_checkpoints_extend_final : ∃ records, callA.Stores (.active records) ∧
    ((∃ records', callB.Stores (.active records') ∧
        ExtendsRecords executionSpec.executionId records records') ∨
      ∃ outcome count metadata, callB.Stores (.terminal outcome count metadata) ∧
        records.length ≤ count ∧ 2 = final.log.length) :=
  accepted_checkpoints_extend run_events rfl rfl Nat.zero_lt_one

theorem permit_follows_accepted_exposure_late :
    (∃ call, final.log[0]? = some call ∧ call.proposal.acceptance = .exposure late.permit) ∧
      ∀ other ∈ final.permits, other.revision = 1 → other = late := by
  obtain ⟨hcall, -, -, hunique, -⟩ :=
    permit_follows_accepted_exposure run_events (List.mem_singleton_self late)
  exact ⟨hcall, hunique⟩

end LateAnswer

end Kuberic.Dex
