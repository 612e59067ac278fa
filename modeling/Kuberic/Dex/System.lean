import Kuberic.Dex.Refinement

/-!
# Hosts over one store

Any number of hosts, each with its own epoch, work on one execution over a linearizable store.  A
host loads the checkpoint, and may ask the store for a compare-and-swap.  The store applies a call at
any later time, or never; the host learns the answer later still, or crashes, or is told that the
outcome is unknown.  The store's log of accepted calls is a trace of the execution: each call was
decided on what the calls before it had stored.
-/

namespace Kuberic.Dex

/-! ## The system -/

/-- A compare-and-swap that a host asked of the store. -/
structure Call where
  ticket : Nat
  operation : Operation
  proposal : Proposal

/-- A host and what it is doing. -/
inductive HostState
  | absent
  | idle (host : DurableHost)
  | waiting (host : DurableHost) (call : Call)
  | crashed

/-- A permit, the revision of its exposure, and the revision of the store when the host got it. -/
structure HandedPermit where
  permit : DispatchPermit
  revision : Nat
  handedAt : Nat
  deriving DecidableEq

structure System where
  hosts : HostEpoch → HostState
  calls : List Call
  log : List Call
  permits : List HandedPermit

/-- What the store holds after the calls of a log. -/
def stored (log : List Call) : Option StoredCheckpoint :=
  log.getLast?.map fun call => ⟨log.length, call.proposal.checkpoint⟩

inductive Event
  | start (hostEpoch : HostEpoch) (limits : CheckpointLimits)
  | operate (hostEpoch : HostEpoch) (operation : Operation)
  | apply (ticket : Nat)
  | answer (hostEpoch : HostEpoch) (reply : Except StoreError CasOutcome)
  | crash (hostEpoch : HostEpoch)

namespace System

def init : System := ⟨fun _ => .absent, [], [], []⟩

def setHost (s : System) (hostEpoch : HostEpoch) (state : HostState) : System :=
  { s with hosts := Function.update s.hosts hostEpoch state }

/-- The answers that a linearizable store may give to a call.  An unknown outcome and an error say
nothing about the call. -/
def MayAnswer (s : System) (call : Call) : Except StoreError CasOutcome → Prop
  | .ok (.accepted revision) =>
    revision ≠ 0 ∧ (s.log[revision - 1]?).map (·.ticket) = some call.ticket
  | .ok .conflict => call.ticket ∉ s.log.map (·.ticket) ∧
      call.proposal.expected ≠ (stored s.log).map (·.revision)
  | .ok .outcomeUnknown | .error _ => True

instance (s : System) (call : Call) (reply : Except StoreError CasOutcome) :
    Decidable (s.MayAnswer call reply) := by
  unfold MayAnswer
  split <;> infer_instance

/-- The permit that an outcome hands out. -/
def handed (s : System) : HostOutcome → List HandedPermit
  | .dispatchPermitted permit revision _ => [⟨permit, revision, s.log.length⟩]
  | _ => []

/-- A host has decided: its operation ended, or it waits for the answer to a call. -/
def decided (s : System) (hostEpoch : HostEpoch) (operation : Operation) :
    DurableHost × Decision → System
  | (host, .error _) => s.setHost hostEpoch (.idle host)
  | (host, .ok proposal) =>
    let call : Call := ⟨s.calls.length, operation, proposal⟩
    { s.setHost hostEpoch (.waiting host call) with calls := s.calls ++ [call] }

/-- One event of the system, if it can happen. -/
def step (w : Workflow) (execution : ExecutionSpec) (s : System) : Event → Option System
  | .start hostEpoch limits =>
    match s.hosts hostEpoch with
    | .absent => some (s.setHost hostEpoch (.idle (.new hostEpoch limits)))
    | _ => none
  | .operate hostEpoch operation =>
    match s.hosts hostEpoch with
    | .idle host =>
      some (s.decided hostEpoch operation (host.decide w execution (stored s.log) operation))
    | _ => none
  | .apply ticket =>
    match s.calls[ticket]? with
    | some call =>
      if call.proposal.expected = (stored s.log).map (·.revision) then
        some { s with log := s.log ++ [call] }
      else none
    | none => none
  | .answer hostEpoch reply =>
    match s.hosts hostEpoch with
    | .waiting host call =>
      if s.MayAnswer call reply then
        some { s.setHost hostEpoch (.idle host) with
          permits := s.permits ++ s.handed (call.proposal.finish reply) }
      else none
    | _ => none
  | .crash hostEpoch =>
    match s.hosts hostEpoch with
    | .idle _ | .waiting _ _ => some (s.setHost hostEpoch .crashed)
    | _ => none

/-- The system after a run of events, if they can happen in that order. -/
def run (w : Workflow) (execution : ExecutionSpec) (events : List Event) : Option System :=
  events.foldlM (step w execution) init

variable {execution : ExecutionSpec} {e : HostEpoch}

theorem step_start {w : Workflow} {s : System} {limits : CheckpointLimits}
    (hhost : s.hosts e = .absent) :
    s.step w execution (.start e limits) = some (s.setHost e (.idle (.new e limits))) := by
  simp only [step, hhost]

theorem step_operate {w : Workflow} {s : System} {operation : Operation} {host host' : DurableHost}
    {proposal : Proposal} (hhost : s.hosts e = .idle host)
    (hdecide : host.decide w execution (stored s.log) operation = (host', .ok proposal)) :
    s.step w execution (.operate e operation) =
      some { s.setHost e (.waiting host' ⟨s.calls.length, operation, proposal⟩) with
        calls := s.calls ++ [⟨s.calls.length, operation, proposal⟩] } := by
  simp only [step, hhost, hdecide, decided]

theorem step_apply {w : Workflow} {s : System} {ticket : Nat} {call : Call}
    (hcall : s.calls[ticket]? = some call)
    (hexpected : call.proposal.expected = (stored s.log).map (·.revision)) :
    s.step w execution (.apply ticket) = some { s with log := s.log ++ [call] } := by
  simp only [step, hcall, hexpected, if_true]

variable {reply : Except StoreError CasOutcome}

theorem step_answer {w : Workflow} {s : System} {host : DurableHost} {call : Call}
    (hhost : s.hosts e = .waiting host call) (hanswer : s.MayAnswer call reply) :
    s.step w execution (.answer e reply) = some { s.setHost e (.idle host) with
      permits := s.permits ++ s.handed (call.proposal.finish reply) } := by
  simp only [step, hhost, hanswer, if_true]

end System

/-! ## The log is a trace of the execution -/

/-- Some host decided on the call when the store held the calls of the log. -/
def Decided (w : Workflow) (execution : ExecutionSpec) (log : List Call) (call : Call) : Prop :=
  ∃ host : DurableHost, (host.decide w execution (stored log) call.operation).2 = .ok call.proposal

/-- The calls of the log bring the execution to `p`. -/
inductive Traces (w : Workflow) (execution : ExecutionSpec) : List Call → Progress → Prop
  | nil : Traces w execution [] ⟨[], [], none⟩
  | concat {log call p p' payload} : Traces w execution log p → Decided w execution log call →
      Progress.Advance w execution call.operation p p' →
      p'.exposures = p.exposures ++ call.proposal.acceptance.permits →
      call.proposal.checkpoint = .encode payload → p'.Represents payload.state →
      Traces w execution (log ++ [call]) p'

section

variable {w : Workflow} {execution : ExecutionSpec} {log : List Call} {call : Call} {p : Progress}

theorem stored_concat : stored (log ++ [call]) = some ⟨log.length + 1, call.proposal.checkpoint⟩ := by
  simp [stored]

theorem Traces.loaded (h : Traces w execution log p) {records : List ActivityRecord}
    (hloaded : LoadedRecords (stored log) records) : p.records = records ∧ p.outcome = none := by
  cases h with
  | nil => exact ⟨hloaded.symm, rfl⟩
  | @concat log call p p' payload _ _ _ _ hcheckpoint hrepresents =>
    rw [stored_concat] at hloaded
    obtain ⟨payload', hpayload, hstate⟩ := hloaded
    rw [hcheckpoint, CheckpointEnvelope.payload_encode] at hpayload
    cases hpayload
    rw [hstate] at hrepresents
    exact hrepresents.of_active

theorem Decided.expected (h : Decided w execution log call) :
    call.proposal.expected = (stored log).map (·.revision) := by
  obtain ⟨host, hdecide⟩ := h
  obtain ⟨-, -, hexpected, -⟩ := decide_refines hdecide
  exact hexpected

theorem Traces.exists_concat (h : Traces w execution log p) (hdecided : Decided w execution log call) :
    ∃ p', Traces w execution (log ++ [call]) p' := by
  obtain ⟨host, hdecide⟩ := id hdecided
  obtain ⟨records, hloaded, -, payload, records', outcome, hcheckpoint, hadvance, hrepresents⟩ :=
    decide_refines hdecide
  obtain ⟨hrecords, houtcome⟩ := h.loaded hloaded
  obtain ⟨precords, pexposures, poutcome⟩ := p
  cases hrecords
  cases houtcome
  exact ⟨_, .concat h hdecided (hadvance pexposures) rfl hcheckpoint hrepresents⟩

theorem Traces.ledger (h : Traces w execution log p) : p.Ledger execution.executionId := by
  induction h with
  | nil => exact Progress.Ledger.nil
  | concat _ _ hadvance _ _ _ ih => exact ih.advance hadvance

theorem Traces.exposures (h : Traces w execution log p) :
    p.exposures = log.flatMap (·.proposal.acceptance.permits) := by
  induction h with
  | nil => rfl
  | concat _ _ _ hexposures _ _ ih => simp [hexposures, ih]

/-- The trace up to a call of the log, the call, and what persists from then on. -/
structure TraceAt (w : Workflow) (execution : ExecutionSpec) (log : List Call) (i : Nat) (call : Call)
    (p q q' : Progress) : Prop where
  before : Traces w execution (log.take i) q
  decided : Decided w execution (log.take i) call
  advance : Progress.Advance w execution call.operation q q'
  exposures : q'.exposures = q.exposures ++ call.proposal.acceptance.permits
  after : Traces w execution (log.take (i + 1)) q'
  persists : q'.Persists execution.executionId p

theorem Traces.at (h : Traces w execution log p) {i : Nat} (hi : log[i]? = some call) :
    ∃ q q', TraceAt w execution log i call p q q' := by
  induction h with
  | nil => simp at hi
  | @concat log call' p p' payload htraces hdecided hadvance hexposures hcheckpoint hrepresents ih =>
    rcases Nat.lt_trichotomy i log.length with hlt | rfl | hgt
    · rw [List.getElem?_append_left hlt] at hi
      obtain ⟨q, q', hat⟩ := ih hi
      refine ⟨q, q', ?_, ?_, hat.advance, hat.exposures, ?_, hat.persists.trans hadvance.persists⟩
      · rw [List.take_append_of_le_length hlt.le]
        exact hat.before
      · rw [List.take_append_of_le_length hlt.le]
        exact hat.decided
      · rw [List.take_append_of_le_length hlt]
        exact hat.after
    · rw [List.getElem?_concat_length] at hi
      cases hi
      refine ⟨p, p', ?_, ?_, hadvance, hexposures, ?_, .refl _ _⟩
      · simpa using htraces
      · simpa using hdecided
      · rw [List.take_of_length_le (by simp)]
        exact .concat htraces hdecided hadvance hexposures hcheckpoint hrepresents
    · rw [List.getElem?_eq_none (by simp; omega)] at hi
      cases hi

end

/-! ## Invariants of the system -/

namespace System

variable {w : Workflow} {execution : ExecutionSpec} {s s' : System}

/-- What an event does. -/
inductive Transition (w : Workflow) (execution : ExecutionSpec) (s : System) : System → Prop
  | host {hostEpoch state} : (∀ host call, state ≠ .waiting host call) →
      Transition w execution s (s.setHost hostEpoch state)
  | call {hostEpoch host call} : call.ticket = s.calls.length → Decided w execution s.log call →
      Transition w execution s
        { s.setHost hostEpoch (.waiting host call) with calls := s.calls ++ [call] }
  | apply {call} : call ∈ s.calls → call.proposal.expected = (stored s.log).map (·.revision) →
      Transition w execution s { s with log := s.log ++ [call] }
  | answer {hostEpoch host call reply} : s.hosts hostEpoch = .waiting host call →
      s.MayAnswer call reply → Transition w execution s
        { s.setHost hostEpoch (.idle host) with
          permits := s.permits ++ s.handed (call.proposal.finish reply) }

theorem step_cases {event : Event} (h : s.step w execution event = some s') :
    Transition w execution s s' := by
  cases event with
  | start hostEpoch limits =>
    simp only [step] at h
    split at h <;> cases h
    exact .host (by simp)
  | operate hostEpoch operation =>
    simp only [step] at h
    split at h
    · rename_i host _
      obtain rfl := Option.some.inj h
      cases hdecide : host.decide w execution (stored s.log) operation with
      | mk host' decision =>
        cases decision with
        | error outcome => exact .host (by simp)
        | ok proposal => exact .call rfl ⟨host, congrArg Prod.snd hdecide⟩
    · cases h
  | apply ticket =>
    simp only [step] at h
    split at h
    · rename_i call hcall
      split_ifs at h with hexpected
      cases h
      exact .apply (List.mem_of_getElem? hcall) hexpected
    · cases h
  | answer hostEpoch reply =>
    simp only [step] at h
    split at h
    · rename_i host call hhost
      split_ifs at h with hanswer
      cases h
      exact .answer hhost hanswer
    · cases h
  | crash hostEpoch =>
    simp only [step] at h
    split at h <;> cases h <;> exact .host (by simp)

/-- The accepted exposure that a permit is of, which was accepted before the permit was handed out. -/
def Grants (log : List Call) (h : HandedPermit) (call : Call) : Prop :=
  h.revision ≠ 0 ∧ h.revision ≤ h.handedAt ∧ h.handedAt ≤ log.length ∧
    log[h.revision - 1]? = some call ∧ call.proposal.acceptance = .exposure h.permit

structure Inv (w : Workflow) (execution : ExecutionSpec) (s : System) : Prop where
  tickets : ∀ call ∈ s.calls, s.calls[call.ticket]? = some call
  decided : ∀ call ∈ s.calls, ∃ n ≤ s.log.length, Decided w execution (s.log.take n) call
  logged : ∀ call ∈ s.log, call ∈ s.calls
  traces : ∃ p, Traces w execution s.log p
  granted : ∀ h ∈ s.permits, ∃ call, Grants s.log h call
  distinct : (s.permits.map (·.revision)).Nodup
  ordered : s.permits.Pairwise (·.handedAt ≤ ·.handedAt)
  waiting : ∀ e host call, s.hosts e = .waiting host call → call ∈ s.calls ∧
    ∀ h ∈ s.permits, ∀ call', Grants s.log h call' → call'.ticket ≠ call.ticket
  apart : ∀ e host call e' host' call', s.hosts e = .waiting host call →
    s.hosts e' = .waiting host' call' → e ≠ e' → call.ticket ≠ call'.ticket

theorem Inv.ticket_lt (h : s.Inv w execution) {call : Call} (hcall : call ∈ s.calls) :
    call.ticket < s.calls.length :=
  (List.getElem?_eq_some_iff.1 (h.tickets call hcall)).1

theorem Inv.eq_of_ticket (h : s.Inv w execution) {call call' : Call} (hcall : call ∈ s.calls)
    (hcall' : call' ∈ s.calls) (hticket : call.ticket = call'.ticket) : call = call' := by
  have heq := h.tickets call hcall
  rw [hticket, h.tickets call' hcall'] at heq
  exact (Option.some.inj heq).symm

theorem revision_stored (log : List Call) :
    (stored log).map (·.revision) = if log.length = 0 then none else some log.length := by
  rcases List.eq_nil_or_concat log with rfl | ⟨log, call, rfl⟩ <;> simp [stored]

theorem Inv.decided_applied (h : s.Inv w execution) {call : Call} (hcall : call ∈ s.calls)
    (hexpected : call.proposal.expected = (stored s.log).map (·.revision)) :
    Decided w execution s.log call := by
  obtain ⟨n, hn, hdecided⟩ := h.decided call hcall
  have hrevision := hdecided.expected.symm.trans hexpected
  have hlength : (s.log.take n).length = n := by simpa using hn
  rw [revision_stored, revision_stored, hlength] at hrevision
  have heq : n = s.log.length := by
    split_ifs at hrevision with hzero hzero' hzero'
    · omega
    · exact Option.some.inj hrevision
  rwa [heq, List.take_length] at hdecided

theorem waiting_setHost {e' : HostEpoch} {state : HostState} {host : DurableHost} {call : Call}
    (hwaiting : (s.setHost e state).hosts e' = .waiting host call) :
    (e' = e ∧ state = .waiting host call) ∨ (e' ≠ e ∧ s.hosts e' = .waiting host call) := by
  by_cases he : e' = e
  · subst he
    exact Or.inl ⟨rfl, by simpa [setHost] using hwaiting⟩
  · exact Or.inr ⟨he, by simpa [setHost, he] using hwaiting⟩

theorem Inv.host (h : s.Inv w execution) {state : HostState}
    (hstate : ∀ host call, state ≠ .waiting host call) : (s.setHost e state).Inv w execution where
  tickets := h.tickets
  decided := h.decided
  logged := h.logged
  traces := h.traces
  granted := h.granted
  distinct := h.distinct
  ordered := h.ordered
  waiting e' host call hwaiting := by
    obtain ⟨-, heq⟩ | ⟨-, hwaiting⟩ := waiting_setHost hwaiting
    · exact absurd heq (hstate host call)
    · exact h.waiting e' host call hwaiting
  apart e₁ host₁ call₁ e₂ host₂ call₂ h₁ h₂ hne := by
    obtain ⟨-, heq⟩ | ⟨-, h₁⟩ := waiting_setHost h₁
    · exact absurd heq (hstate host₁ call₁)
    · obtain ⟨-, heq⟩ | ⟨-, h₂⟩ := waiting_setHost h₂
      · exact absurd heq (hstate host₂ call₂)
      · exact h.apart e₁ host₁ call₁ e₂ host₂ call₂ h₁ h₂ hne

theorem Inv.call (h : s.Inv w execution) {host : DurableHost} {call : Call}
    (hticket : call.ticket = s.calls.length) (hdecided : Decided w execution s.log call) :
    Inv w execution { s.setHost e (.waiting host call) with calls := s.calls ++ [call] } where
  tickets call' hcall' := by
    rcases List.mem_append.1 hcall' with hcall' | hcall'
    · rw [List.getElem?_append_left (h.ticket_lt hcall'), h.tickets call' hcall']
    · rw [List.mem_singleton.1 hcall', hticket, List.getElem?_concat_length]
  decided call' hcall' := by
    rcases List.mem_append.1 hcall' with hcall' | hcall'
    · exact h.decided call' hcall'
    · rw [List.mem_singleton.1 hcall']
      exact ⟨s.log.length, le_rfl, by simpa [setHost] using hdecided⟩
  logged call' hcall' := List.mem_append_left _ (h.logged call' hcall')
  traces := h.traces
  granted := h.granted
  distinct := h.distinct
  ordered := h.ordered
  waiting e' host' call' hwaiting := by
    obtain ⟨-, heq⟩ | ⟨-, hwaiting⟩ := waiting_setHost hwaiting
    · cases heq
      refine ⟨by simp, fun permit hpermit call'' hgrants => ?_⟩
      have hlogged := h.ticket_lt (h.logged call'' (List.mem_of_getElem? hgrants.2.2.2.1))
      exact (hticket ▸ hlogged).ne
    · obtain ⟨hcall', hfresh⟩ := h.waiting e' host' call' hwaiting
      exact ⟨List.mem_append_left _ hcall', hfresh⟩
  apart e₁ host₁ call₁ e₂ host₂ call₂ h₁ h₂ hne := by
    obtain ⟨he₁, heq₁⟩ | ⟨-, h₁⟩ := waiting_setHost h₁
    · obtain ⟨he₂, -⟩ | ⟨-, h₂⟩ := waiting_setHost h₂
      · exact absurd (he₁.trans he₂.symm) hne
      · cases heq₁
        exact (hticket ▸ h.ticket_lt (h.waiting e₂ host₂ call₂ h₂).1).ne'
    · obtain ⟨-, heq₂⟩ | ⟨-, h₂⟩ := waiting_setHost h₂
      · cases heq₂
        exact (hticket ▸ h.ticket_lt (h.waiting e₁ host₁ call₁ h₁).1).ne
      · exact h.apart e₁ host₁ call₁ e₂ host₂ call₂ h₁ h₂ hne

theorem Grants.append {log : List Call} {permit : HandedPermit} {call call' : Call}
    (h : Grants log permit call) : Grants (log ++ [call']) permit call := by
  obtain ⟨hne, hle, hlength, hcall, hacceptance⟩ := h
  refine ⟨hne, hle, ?_, ?_, hacceptance⟩
  · rw [List.length_append, List.length_singleton]
    omega
  · rw [List.getElem?_append_left (by omega), hcall]

theorem Grants.unique {log : List Call} {permit : HandedPermit} {call call' : Call}
    (h : Grants log permit call) (h' : Grants log permit call') : call = call' :=
  Option.some.inj (h.2.2.2.1.symm.trans h'.2.2.2.1)

theorem Inv.apply (h : s.Inv w execution) {call : Call} (hcall : call ∈ s.calls)
    (hexpected : call.proposal.expected = (stored s.log).map (·.revision)) :
    Inv w execution { s with log := s.log ++ [call] } where
  tickets := h.tickets
  logged call' hcall' := by
    rcases List.mem_append.1 hcall' with hcall' | hcall'
    · exact h.logged call' hcall'
    · rwa [List.mem_singleton.1 hcall']
  decided call' hcall' := by
    obtain ⟨n, hn, hdecided⟩ := h.decided call' hcall'
    refine ⟨n, by simp; omega, ?_⟩
    rwa [List.take_append_of_le_length hn]
  traces := by
    obtain ⟨p, htraces⟩ := h.traces
    exact htraces.exists_concat (h.decided_applied hcall hexpected)
  granted permit hpermit := by
    obtain ⟨call', hgrants⟩ := h.granted permit hpermit
    exact ⟨call', hgrants.append⟩
  distinct := h.distinct
  ordered := h.ordered
  waiting e host call' hwaiting := by
    obtain ⟨hcall', hfresh⟩ := h.waiting e host call' hwaiting
    refine ⟨hcall', fun permit hpermit call'' hgrants => ?_⟩
    obtain ⟨granted, hgranted⟩ := h.granted permit hpermit
    rw [hgrants.unique hgranted.append]
    exact hfresh permit hpermit granted hgranted
  apart := h.apart

theorem Inv.handed_cases (h : s.Inv w execution) {call : Call} (hcall : call ∈ s.calls)
    (hanswer : s.MayAnswer call reply) :
    s.handed (call.proposal.finish reply) = [] ∨ ∃ permit : HandedPermit,
      s.handed (call.proposal.finish reply) = [permit] ∧ permit.handedAt = s.log.length ∧
      Grants s.log permit call := by
  cases reply with
  | error error => exact Or.inl rfl
  | ok outcome =>
    cases outcome with
    | conflict | outcomeUnknown => exact Or.inl rfl
    | accepted revision =>
      cases hacceptance : call.proposal.acceptance with
      | schedule | observation | retry | wait | completion =>
        exact Or.inl (by simp [Proposal.finish, Acceptance.outcome, hacceptance, handed])
      | exposure permit =>
        refine Or.inr ⟨⟨permit, revision, s.log.length⟩,
          by simp [Proposal.finish, Acceptance.outcome, hacceptance, handed], rfl, ?_⟩
        obtain ⟨hne, hlog⟩ := hanswer
        obtain ⟨call', hcall', hticket⟩ := Option.map_eq_some_iff.1 hlog
        obtain rfl := h.eq_of_ticket (h.logged call' (List.mem_of_getElem? hcall')) hcall hticket
        exact ⟨hne, Nat.le_of_pred_lt (List.getElem?_eq_some_iff.1 hcall').1, le_rfl, hcall',
          hacceptance⟩

theorem Inv.answer (h : s.Inv w execution) {host : DurableHost} {call : Call}
    (hhost : s.hosts e = .waiting host call) (hanswer : s.MayAnswer call reply) :
    Inv w execution { s.setHost e (.idle host) with
      permits := s.permits ++ s.handed (call.proposal.finish reply) } := by
  have hidle : (s.setHost e (.idle host)).Inv w execution := h.host (by simp)
  obtain ⟨hcall, hfresh⟩ := h.waiting e host call hhost
  obtain hnone | ⟨permit, hpermit, hhanded, hgrants⟩ := h.handed_cases hcall hanswer
  · rw [hnone, List.append_nil]
    exact hidle
  · rw [hpermit]
    refine ⟨h.tickets, h.decided, h.logged, h.traces, ?_, ?_, ?_, ?_, hidle.apart⟩
    · intro permit' hpermit'
      rcases List.mem_append.1 hpermit' with hpermit' | hpermit'
      · exact h.granted permit' hpermit'
      · rw [List.mem_singleton.1 hpermit']
        exact ⟨call, hgrants⟩
    · -- No earlier permit is of the same accepted call.
      rw [List.map_append, List.map_singleton, List.nodup_append]
      refine ⟨h.distinct, List.nodup_singleton _, ?_⟩
      rintro revision hrevision _ hmem rfl
      obtain ⟨permit', hpermit', rfl⟩ := List.mem_map.1 hrevision
      obtain ⟨call', hgrants'⟩ := h.granted permit' hpermit'
      refine hfresh permit' hpermit' call' hgrants' (congrArg Call.ticket ?_)
      have hcall' := hgrants'.2.2.2.1
      rw [List.mem_singleton.1 hmem, hgrants.2.2.2.1] at hcall'
      exact (Option.some.inj hcall').symm
    · rw [List.pairwise_append]
      refine ⟨h.ordered, List.pairwise_singleton _ _, fun permit' hpermit' permit'' hpermit'' => ?_⟩
      rw [List.mem_singleton.1 hpermit'', hhanded]
      obtain ⟨call', -, -, hle, -⟩ := h.granted permit' hpermit'
      exact hle
    · intro e' host' call' hwaiting
      obtain ⟨-, heq⟩ | ⟨hne, hwaiting⟩ := waiting_setHost hwaiting
      · cases heq
      · obtain ⟨hcall', hfresh'⟩ := h.waiting e' host' call' hwaiting
        refine ⟨hcall', fun permit' hpermit' call'' hgrants' => ?_⟩
        rcases List.mem_append.1 hpermit' with hpermit' | hpermit'
        · exact hfresh' permit' hpermit' call'' hgrants'
        · rw [List.mem_singleton.1 hpermit'] at hgrants'
          rw [← hgrants.unique hgrants']
          exact h.apart e host call e' host' call' hhost hwaiting (Ne.symm hne)

theorem Inv.init : Inv w execution System.init where
  tickets := by simp [System.init]
  decided := by simp [System.init]
  logged := by simp [System.init]
  traces := ⟨_, .nil⟩
  granted := by simp [System.init]
  distinct := List.nodup_nil
  ordered := List.Pairwise.nil
  waiting e host call hwaiting := by simp [System.init] at hwaiting
  apart e host call e' host' call' hwaiting := by simp [System.init] at hwaiting

theorem Inv.transition (h : s.Inv w execution) (hstep : Transition w execution s s') :
    s'.Inv w execution := by
  cases hstep with
  | host hstate => exact h.host hstate
  | call hticket hdecided => exact h.call hticket hdecided
  | apply hcall hexpected => exact h.apply hcall hexpected
  | answer hhost hanswer => exact h.answer hhost hanswer

theorem Inv.run {events : List Event} (h : System.run w execution events = some s) :
    s.Inv w execution := by
  suffices hfrom : ∀ (events : List Event) (s₀ : System), s₀.Inv w execution →
      events.foldlM (step w execution) s₀ = some s → s.Inv w execution from
    hfrom events System.init Inv.init h
  intro events
  induction events with
  | nil =>
    intro s₀ hs₀ hrun
    cases hrun
    exact hs₀
  | cons event events ih =>
    intro s₀ hs₀ hrun
    rw [List.foldlM_cons, Option.bind_eq_bind, Option.bind_eq_some_iff] at hrun
    obtain ⟨s₁, hstep, hrun⟩ := hrun
    exact ih s₁ (hs₀.transition (step_cases hstep)) hrun

end System

end Kuberic.Dex
