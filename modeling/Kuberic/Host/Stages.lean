import Kuberic.Host.Deactivation

/-!
# The stages of a pending command

A command stays pending across crashes, restarts and drivers that give up, until it is complete or a
newer command supersedes it.  All that time its durable stage moves in one fixed order, and a stage
that was left does not come back.  A command that starts at its first stage and grants writes to the
replica as the primary gets to the stage that opens them only after the catch-up quorum was confirmed
while this very command was pending, or by way of a driver that preserves the access of the primary.
A command that changes the access alone starts at the last stage, and nothing is said about it.
-/

namespace Kuberic

open Effect DurableState Relation

/-! ## The order of the stages -/

/-- The place of a stage in the course of a command.  A failover turns the role before it reads the
progress, and the catch-up of a new primary comes last in any other transition. -/
def CoordinatorStage.place (failover localPrimary : Bool) : CoordinatorStage → Nat
  | .admitAuthority => 0
  | .failoverPrefix => 1
  | .demote => 2
  | .getLsn => if failover then 6 else 3
  | .catchup => if failover then 7 else if localPrimary then 9 else 4
  | .deactivate => if failover then 8 else 5
  | .replicatorRole => if failover then 3 else 6
  | .epoch => if failover then 4 else 7
  | .applicationRole => if failover then 5 else 8
  | .activate => 10
  | .retireBuild => 11
  | .complete => 12

namespace Driven

variable {d d' : Driven} {role : ReplicaRole} {stage : CoordinatorStage}

def place (d : Driven) (stage : CoordinatorStage) : Nat := stage.place d.isFailover d.isLocalPrimary

theorem place_le_nextStage : stage = d.nextStage role stage ∨
    d.place stage < d.place (d.nextStage role stage) := by
  unfold place
  cases stage with
  | failoverPrefix | retireBuild => exact .inr (by simp [nextStage, CoordinatorStage.place])
  | complete => exact .inl rfl
  | epoch => exact .inr (by simp only [nextStage, CoordinatorStage.place]; split_ifs <;> omega)
  | replicatorRole =>
    right
    simp only [nextStage]
    split_ifs <;> simp only [CoordinatorStage.place] <;> split_ifs <;> omega
  | _ =>
    right
    simp only [nextStage]
    split_ifs <;> simp_all [CoordinatorStage.place]

/-- The stages that come after the catch-up of a primary. -/
def pastCatchUp (d : Driven) : CoordinatorStage → Bool
  | .deactivate => d.isFailover
  | .activate | .retireBuild | .complete => true
  | _ => false

/-- A primary that is granted writes gets past its catch-up only through it, or with its access
preserved. -/
theorem pastCatchUp_nextStage (hprimary : d.isLocalPrimary = true)
    (hgrant : d.command.primaryWriteStatus = .granted)
    (h : d.pastCatchUp (d.nextStage role stage) = true) :
    d.pastCatchUp stage = true ∨ stage = .catchup ∨
      stage = .admitAuthority ∧ d.preserveAccess = true := by
  cases stage with
  | catchup => exact .inr (.inl rfl)
  | activate | retireBuild | complete => exact .inl rfl
  | failoverPrefix | epoch => cases h
  | _ =>
    simp only [nextStage] at h
    split_ifs at h <;> simp_all [pastCatchUp]

theorem For.congr {identity : ReplicaIdentity} (h : d.For identity) (h' : d'.For identity)
    (hcommand : d'.command = d.command) :
    d'.isFailover = d.isFailover ∧ d'.isLocalPrimary = d.isLocalPrimary :=
  ⟨by rw [isFailover, isFailover, hcommand], isLocalPrimary_congr h h' hcommand⟩

end Driven

/-! ## Steps of a pending command -/

variable {σ : Type}

/-- The engine confirms the catch-up quorum. -/
def Engine.ConfirmsCatchUp (e : Engine σ) : Prop := (checkCatchUpQuorum.run e).1 = .ok ()

namespace Replica

def pending (r : Replica σ) : Option EnsureConfiguration := r.agent.reconfiguration.map (·.command)

/-- The engine confirms the catch-up quorum if the pending command is at its catch-up. -/
def Confirmed (r : Replica σ) : Prop :=
  ∀ record, r.agent.reconfiguration = some record → record.stage = .catchup →
    r.engine.ConfirmsCatchUp

/-- What a step does to the record of a command that stays pending. -/
inductive RecordStep (r r' : Replica σ) : Prop
  | stays : r'.agent.localIdentity = r.agent.localIdentity →
      r'.agent.reconfiguration = r.agent.reconfiguration →
      r'.agent.stageResult = r.agent.stageResult →
      (∀ o, r'.work = some (.executed o) → r.work = some (.executed o) ∨ r.Confirmed) →
      RecordStep r r'
  | completes {o} : r'.agent.localIdentity = r.agent.localIdentity →
      r'.agent.reconfiguration = r.agent.reconfiguration → r.work = some (.executed o) →
      RecordStep r r'
  | advances {d record o} : r'.agent.localIdentity = r.agent.localIdentity →
      r.driven = some d → r.record? d = some record → r.agent.stageResult = some o →
      (∃ observed, r'.agent.reconfiguration = some
        ⟨record.command, d.nextStage r.agent.role record.stage, observed⟩) →
      r'.agent.stageResult = none → r'.work = r.work → RecordStep r r'

variable {promised : Epoch → Int → Prop} {r r' : Replica σ} {c : EnsureConfiguration}

theorem eq_of_beginConfiguration {s s' : AgentState}
    (h : s.beginConfiguration c = .ok (some s')) (hc : s.reconfiguration.map (·.command) = some c) :
    s' = s := by
  obtain ⟨record, hrecord, rfl⟩ := Option.map_eq_some_iff.1 hc
  unfold AgentState.beginConfiguration at h
  split at h
  · split_ifs at h
    cases h
  · split at h
    · split_ifs at h
      cases h
    · simp only [hrecord, if_true] at h
      exact (Option.some.inj (Except.ok.inj h)).symm

theorem recordStep_frame {p : Process σ} {writing : Option RegisteredWrite}
    {issued : List ReplicationAck} : RecordStep r
      { r with process := p, writing := writing, issued := issued } :=
  .stays rfl rfl rfl fun _ h => .inl h

theorem recordStep_settle {α : Type} {called : Result α × Process σ} {next : α → Work}
    (h : ∀ a o, called.1 = .ok a → next a = .executed o → r.Confirmed) :
    RecordStep r (r.settle called next) := by
  obtain ⟨result, process⟩ := called
  cases result with
  | ok a => exact .stays rfl rfl rfl fun o ho => .inr (h a o rfl (Option.some.inj ho))
  | error e => exact .stays rfl rfl rfl fun o ho => by cases ho

variable [DurableState σ]

theorem confirmed_of_stageEffect {d : Driven} {stage : CoordinatorStage}
    {x : ProcessM σ StageOutcome} {o : StageOutcome} (hexecute : r.toExecute = some (d, stage))
    (hx : stageEffect d stage = some x) (ho : (x.run r.process).1 = .ok o) : r.Confirmed := by
  intro record hrecord hstage
  obtain ⟨-, -, record', hrecord', rfl⟩ := toExecute_eq_some hexecute
  obtain ⟨hsome, -⟩ := record?_eq_some.1 hrecord'
  rw [hrecord] at hsome
  cases hsome
  rw [hstage] at hx
  cases hx
  rw [run_bind] at ho
  unfold Engine.ConfirmsCatchUp
  have hzoom : ((onEngine checkCatchUpQuorum).run r.process).1 =
      (checkCatchUpQuorum.run r.engine).1 := rfl
  cases hrun : (onEngine checkCatchUpQuorum).run r.process with
  | mk result process =>
    cases result with
    | ok a => rw [← hzoom, hrun]
    | error e => simp [hrun] at ho

theorem confirmed_of_work (hinv : ReplicaInv promised r) {w : Work} (hw : r.work = some w)
    (hstage : ∀ d record, WorkInv r.issued r.engine r.writing d record w → record.stage ≠ .catchup) :
    r.Confirmed := by
  intro record hrecord hcatchup
  obtain ⟨d, record', -, hrecord', -, hwork⟩ := hinv.work w hw
  rw [(record?_eq_some.1 hrecord').1] at hrecord
  cases hrecord
  exact absurd hcatchup (hstage d _ hwork)

theorem recordStep_run (hinv : ReplicaInv promised r) {action : ReplicaAction}
    (hrun : action.run r = some r') (hc : r.pending = some c) (hc' : r'.pending = some c) :
    RecordStep r r' := by
  cases action with
  | deliver action =>
    obtain rfl := Option.some.inj hrun
    exact recordStep_frame
  | finishWrite =>
    obtain ⟨registered, -, rfl⟩ := Option.map_eq_some_iff.1 hrun
    exact recordStep_frame
  | write | serve | cancelWork | openEngine | restore =>
    simp only [ReplicaAction.run] at hrun
    split_ifs at hrun <;> obtain rfl := Option.some.inj hrun <;> exact recordStep_frame
  | abandon | crash =>
    obtain rfl := Option.some.inj hrun
    exact .stays rfl rfl rfl fun o ho => by cases ho
  | begin d =>
    simp only [ReplicaAction.run] at hrun
    split_ifs at hrun
    split at hrun
    · next agent hbegin =>
      obtain rfl := Option.some.inj hrun
      have hagent : agent = r.agent := by
        obtain hsame | ⟨stage, -, rfl⟩ := beginConfiguration_cases hbegin
        · exact hsame
        · obtain rfl : d.command = c := Option.some.inj hc'
          exact eq_of_beginConfiguration hbegin hc
      subst hagent
      exact .stays rfl rfl rfl fun _ h => .inl h
    · cases hrun
  | prepare | refresh =>
    simp only [ReplicaAction.run] at hrun
    split_ifs at hrun
    obtain ⟨⟨d, stage⟩, -, hrun⟩ := Option.bind_eq_some_iff.1 hrun
    simp only at hrun
    split_ifs at hrun
    obtain rfl := Option.some.inj hrun
    exact recordStep_settle fun a o _ ho => by cases ho
  | execute =>
    simp only [ReplicaAction.run] at hrun
    split_ifs at hrun
    obtain ⟨⟨d, stage⟩, hexecute, hrun⟩ := Option.bind_eq_some_iff.1 hrun
    obtain ⟨x, hx, rfl⟩ := Option.map_eq_some_iff.1 hrun
    exact recordStep_settle fun a o hok _ => confirmed_of_stageEffect hexecute hx hok
  | advance =>
    obtain ⟨d, hd, hrun⟩ := Option.bind_eq_some_iff.1 hrun
    obtain ⟨record, hrecord, hrun⟩ := Option.bind_eq_some_iff.1 hrun
    obtain ⟨o, ho, hrun⟩ := Option.bind_eq_some_iff.1 hrun
    split at hrun
    · next hadvance =>
      obtain rfl := Option.some.inj hrun
      obtain ⟨-, rfl⟩ := advanceConfiguration_eq_ok (record?_eq_some.1 hrecord).1 hadvance
      exact .advances rfl hd hrecord ho ⟨_, rfl⟩ rfl rfl
    · cases hrun
  | finish =>
    obtain ⟨d, -, hrun⟩ := Option.bind_eq_some_iff.1 hrun
    split at hrun
    · next hcomplete =>
      obtain rfl := Option.some.inj hrun
      unfold AgentState.completeConfiguration at hcomplete
      split at hcomplete
      · cases hcomplete
      · simp only at hcomplete
        split_ifs at hcomplete
        all_goals
          obtain rfl := Except.ok.inj hcomplete
          cases hc'
    · cases hrun
  | admitDurable =>
    simp only [ReplicaAction.run] at hrun
    split at hrun
    · obtain rfl := Option.some.inj hrun
      exact recordStep_settle fun a o _ ho => by cases ho
    · cases hrun
  | commit =>
    simp only [ReplicaAction.run] at hrun
    split at hrun
    · next p hwork =>
      split_ifs at hrun
      obtain rfl := Option.some.inj hrun
      refine recordStep_settle fun _ _ _ _ => confirmed_of_work hinv hwork ?_
      rintro d record ⟨hstage, -⟩ hcatchup
      cases hstage.symm.trans hcatchup
    · cases hrun
  | readProgress =>
    simp only [ReplicaAction.run] at hrun
    split at hrun
    · next hwork =>
      obtain rfl := Option.some.inj hrun
      refine .stays rfl rfl rfl fun o _ => .inr (confirmed_of_work hinv hwork ?_)
      rintro d record ⟨hstage, -⟩ hcatchup
      cases hstage.symm.trans hcatchup
    · cases hrun
  | complete =>
    simp only [ReplicaAction.run] at hrun
    split at hrun
    · next o hwork =>
      obtain rfl := Option.some.inj hrun
      cases o <;> exact .completes rfl rfl hwork
    · cases hrun

/-- A step during which the command stays pending. -/
def StepOf (c : EnsureConfiguration) (r r' : Replica σ) : Prop :=
  r.Step r' ∧ r.pending = some c ∧ r'.pending = some c

theorem recordStep_of_stepOf (hinv : ReplicaInv promised r) (h : StepOf c r r') :
    RecordStep r r' := by
  obtain ⟨hstep, hc, hc'⟩ := h
  cases hstep with
  | act action hrun => exact recordStep_run hinv hrun hc hc'
  | engineElsewhere => exact recordStep_frame
  | agentElsewhere hs =>
    exact .stays hs.localIdentity hs.reconfiguration hs.stageResult fun _ ho => .inl ho

/-! ## While a command is pending -/

/-- The catch-up of the record is done, or behind it. -/
inductive CaughtUp (identity : ReplicaIdentity) (r : Replica σ) (record : ReconfigurationRecord) :
    Prop
  | now : record.stage = .catchup →
      (r.agent.stageResult ≠ none ∨ ∃ o, r.work = some (.executed o)) → CaughtUp identity r record
  | past {d : Driven} : d.command = record.command → d.For identity → d.isLocalPrimary = true →
      d.command.primaryWriteStatus = .granted → d.pastCatchUp record.stage = true →
      CaughtUp identity r record

/-- The command is at its catch-up and the engine confirms the quorum, or the driver of the command
preserves the access of the primary. -/
def MayOpen (c : EnsureConfiguration) (r : Replica σ) : Prop :=
  (r.engine.ConfirmsCatchUp ∧ r.agent.reconfiguration.map (·.stage) = some .catchup) ∨
    ∃ d, r.driven = some d ∧ d.command = c ∧ d.preserveAccess = true

variable {identity : ReplicaIdentity} {start : Replica σ} {record record' : ReconfigurationRecord}

/-- A step gets to the end of a catch-up only by way of a state that allows it. -/
theorem CaughtUp.before (hinv : ReplicaInv promised r) (hidentity : r.agent.localIdentity = identity)
    (hstep : RecordStep r r') (hrecord : r.agent.reconfiguration = some record)
    (hrecord' : r'.agent.reconfiguration = some record') (h : r'.CaughtUp identity record') :
    r.CaughtUp identity record ∨ r.MayOpen record.command := by
  cases hstep with
  | stays _ hsame hresult hwork =>
    rw [hsame, hrecord] at hrecord'
    cases hrecord'
    cases h with
    | past hd hfor hp hg hpast => exact .inl (.past hd hfor hp hg hpast)
    | now hcatchup hdone =>
      obtain hdone | ⟨o, ho⟩ := hdone
      · exact .inl (.now hcatchup (.inl (hresult ▸ hdone)))
      · obtain hbefore | hconfirmed := hwork o ho
        · exact .inl (.now hcatchup (.inr ⟨o, hbefore⟩))
        · exact .inr (.inl ⟨hconfirmed record hrecord hcatchup, by simp [hrecord, hcatchup]⟩)
  | completes _ hsame hexecuted =>
    rw [hsame, hrecord] at hrecord'
    cases hrecord'
    cases h with
    | past hd hfor hp hg hpast => exact .inl (.past hd hfor hp hg hpast)
    | now hcatchup => exact .inl (.now hcatchup (.inr ⟨_, hexecuted⟩))
  | @advances d record₁ o _ hd hof ho hnext hresult hwork =>
    obtain ⟨observed, hnext⟩ := hnext
    obtain ⟨hsome, hcommand⟩ := record?_eq_some.1 hof
    rw [hrecord] at hsome
    cases hsome
    rw [hnext] at hrecord'
    cases hrecord'
    cases h with
    | now _ hdone =>
      obtain hdone | ⟨o', ho'⟩ := hdone
      · exact absurd hresult hdone
      · obtain ⟨-, -, -, -, hnone, -⟩ := hinv.work _ (hwork ▸ ho')
        rw [ho] at hnone
        cases hnone
    | @past d' hd' hfor' hprimary hgrant hpast =>
      -- whoever drives the command, it takes the same course
      have hfor := hidentity ▸ hinv.driven d hd
      have hsame : d'.command = d.command := hd'.trans hcommand
      obtain ⟨hfailover, hlocal⟩ := hfor.congr hfor' hsame
      have hpast' : d.pastCatchUp (d.nextStage r.agent.role record.stage) = true := by
        unfold Driven.pastCatchUp at hpast ⊢
        rwa [← hfailover]
      obtain hbefore | hcatchup | ⟨-, hpreserve⟩ :=
        Driven.pastCatchUp_nextStage (hlocal ▸ hprimary) (hsame ▸ hgrant) hpast'
      · exact .inl (.past hcommand.symm hfor (hlocal ▸ hprimary) (hsame ▸ hgrant) hbefore)
      · exact .inl (.now hcatchup (.inl (by simp [ho])))
      · exact .inr (.inr ⟨d, hd, hcommand.symm, hpreserve⟩)

omit [DurableState σ] in
theorem RecordStep.localIdentity (h : RecordStep r r') :
    r'.agent.localIdentity = r.agent.localIdentity := by
  cases h <;> assumption

theorem place_le_of_recordStep (hinv : ReplicaInv promised r) {d : Driven}
    (hfor : d.For r.agent.localIdentity) (hstep : RecordStep r r')
    (hrecord : r.agent.reconfiguration = some record) (hcommand : record.command = d.command)
    (hrecord' : r'.agent.reconfiguration = some record') :
    record'.stage = record.stage ∨ d.place record.stage < d.place record'.stage := by
  cases hstep with
  | stays _ hsame | completes _ hsame =>
    rw [hsame, hrecord] at hrecord'
    cases hrecord'
    exact .inl rfl
  | @advances d' record₁ _ _ hd' hof _ hnext =>
    obtain ⟨observed, hnext⟩ := hnext
    obtain ⟨hsome, hcommand'⟩ := record?_eq_some.1 hof
    rw [hrecord] at hsome
    cases hsome
    rw [hnext] at hrecord'
    cases hrecord'
    obtain ⟨hfailover, hlocal⟩ :=
      hfor.congr (hinv.driven d' hd') (hcommand'.symm.trans hcommand)
    have hplace : d.place = d'.place := by
      funext stage
      rw [Driven.place, Driven.place, hfailover, hlocal]
    rw [hplace]
    exact Driven.place_le_nextStage.imp Eq.symm id

variable [LawfulDurableState σ]

theorem inv_of_stepsOf (hinv : ReplicaInv promised start)
    (hsteps : ReflTransGen (StepOf c) start r) :
    ReplicaInv promised r ∧ r.agent.localIdentity = start.agent.localIdentity := by
  induction hsteps with
  | refl => exact ⟨hinv, rfl⟩
  | tail _ hstep ih =>
    obtain ⟨hinv, hidentity⟩ := ih
    exact ⟨replicaInv_step hinv hstep.1,
      (recordStep_of_stepOf hinv hstep).localIdentity.trans hidentity⟩

/-- A new record gets past its catch-up only by way of a state that allows it. -/
theorem mayOpen_of_caughtUp (hinv : ReplicaInv promised start) {observed : Option Int}
    (hstart : start.agent.reconfiguration = some ⟨c, .admitAuthority, observed⟩)
    (hsteps : ReflTransGen (StepOf c) start r)
    (hrecord : r.agent.reconfiguration = some record)
    (h : r.CaughtUp start.agent.localIdentity record) :
    ∃ r₁, ReflTransGen (StepOf c) start r₁ ∧ ReflTransGen (StepOf c) r₁ r ∧ r₁.MayOpen c := by
  induction hsteps generalizing record with
  | refl =>
    rw [hstart] at hrecord
    cases hrecord
    cases h with
    | now hcatchup => cases hcatchup
    | past _ _ _ _ hpast => cases hpast
  | tail hsteps hstep ih =>
    obtain ⟨hinv, hidentity⟩ := inv_of_stepsOf hinv hsteps
    obtain ⟨before, hbefore, rfl⟩ := Option.map_eq_some_iff.1 hstep.2.1
    obtain hcaught | hopen :=
      h.before hinv hidentity (recordStep_of_stepOf hinv hstep) hbefore hrecord
    · obtain ⟨r₁, hfirst, hlast, hopen⟩ := ih hbefore hcaught
      exact ⟨r₁, hfirst, hlast.tail hstep, hopen⟩
    · exact ⟨_, hsteps, .single hstep, hopen⟩

end Replica

/-! ## Every run -/

section Runs

open Replica

variable [DurableState σ] [LawfulDurableState σ] {identity : ReplicaIdentity} {storage : σ}
  {c : EnsureConfiguration} {r r' : Replica σ} {record record' : ReconfigurationRecord}

/-- As long as a command is pending, its stage moves in the order of its transition, however often the
replica crashes and whoever drives it. -/
theorem stage_moves_forward (hstorage : 0 ≤ appliedLsn storage)
    (hrun : ReflTransGen Step (.new identity storage) r)
    (hsteps : ReflTransGen (StepOf c) r r')
    (hrecord : r.agent.reconfiguration = some record)
    (hrecord' : r'.agent.reconfiguration = some record') {d : Driven} (hcommand : d.command = c)
    (hfor : d.For r.agent.localIdentity) :
    record'.stage = record.stage ∨ d.place record.stage < d.place record'.stage := by
  have hinv := replicaInv_steps (replicaInv_new hstorage) hrun
  induction hsteps generalizing record' with
  | refl =>
    rw [hrecord] at hrecord'
    cases hrecord'
    exact .inl rfl
  | tail hsteps hstep ih =>
    obtain ⟨hinv', hidentity⟩ := inv_of_stepsOf hinv hsteps
    obtain ⟨between, hbetween, hof⟩ := Option.map_eq_some_iff.1 hstep.2.1
    have hbefore := ih hbetween
    have hafter := place_le_of_recordStep hinv' (hidentity ▸ hfor) (recordStep_of_stepOf hinv' hstep)
      hbetween (hof.trans hcommand.symm) hrecord'
    obtain hsame | hlt := hafter
    · rwa [hsame]
    · obtain hsame' | hlt' := hbefore
      · exact .inr (hsame' ▸ hlt)
      · exact .inr (hlt'.trans hlt)

/-- Before a command that started at its first stage and grants writes opens the local primary, the
catch-up quorum was confirmed while the command was pending, or its driver preserves access. -/
theorem writes_open_after_catchUp (hstorage : 0 ≤ appliedLsn storage)
    (hrun : ReflTransGen Step (.new identity storage) r) {observed : Option Int}
    (hnew : r.agent.reconfiguration = some ⟨c, .admitAuthority, observed⟩)
    (hsteps : ReflTransGen (StepOf c) r r') {d : Driven}
    (hexecute : r'.toExecute = some (d, .activate)) (hprimary : d.isLocalPrimary = true)
    (hgrant : d.command.primaryWriteStatus = .granted) :
    ∃ r₁, ReflTransGen (StepOf c) r r₁ ∧ ReflTransGen (StepOf c) r₁ r' ∧
      r₁.MayOpen c := by
  have hinv := replicaInv_steps (replicaInv_new hstorage) hrun
  obtain ⟨hinv', hidentity⟩ := inv_of_stepsOf hinv hsteps
  obtain ⟨-, hd, record, hof, hstage⟩ := toExecute_eq_some hexecute
  obtain ⟨hrecord, hcommand⟩ := record?_eq_some.1 hof
  have hpast : d.pastCatchUp record.stage = true := by rw [hstage]; rfl
  exact mayOpen_of_caughtUp hinv hnew hsteps hrecord
    (.past hcommand.symm (hidentity ▸ hinv'.driven d hd) hprimary hgrant hpast)

end Runs

/-! ## A primary alone -/

namespace ReplicaAction

open Replica

variable [DurableState σ] {r r' : Replica σ} {c : EnsureConfiguration}

/-- The replica after a sequence of actions during which the command stays pending. -/
def runAllOf (c : EnsureConfiguration) (r : Replica σ) (actions : List ReplicaAction) :
    Option (Replica σ) :=
  actions.foldlM
    (fun r action => (action.run r).filter fun r' => r.pending = some c ∧ r'.pending = some c) r

theorem stepsOf_of_runAllOf {actions : List ReplicaAction} (h : runAllOf c r actions = some r') :
    ReflTransGen (StepOf c) r r' := by
  induction actions generalizing r with
  | nil =>
    obtain rfl := Option.some.inj h
    exact .refl
  | cons action actions ih =>
    obtain ⟨r₁, hrun, h⟩ := Option.bind_eq_some_iff.1 h
    obtain ⟨hrun, hpending⟩ := Option.filter_eq_some_iff.1 hrun
    exact .head ⟨.act action hrun, of_decide_eq_true hpending⟩ (ih h)

end ReplicaAction

namespace PrimaryAlone

open TwoEpochs Replica ReplicaAction

def alone : ConfigurationDescriptor := ⟨"c1", ⟨0, 1⟩, 2, [⟨member, .primary⟩], 1⟩

/-- The command that makes the member the only replica, and lets it write. -/
def granted : Driven :=
  let d := driven "op1" none alone .bootstrap
  { d with command := { d.command with primaryWriteStatus := .granted } }

def begun : Option (Replica LogStorage) :=
  runAll (.new member ⟨[], 0⟩) [openEngine 0, .begin granted]

/-- The driver gives up before the change of the role, and the command is driven again from there. -/
def course : List ReplicaAction :=
  admission ++ stage ++ reading ++ stage ++ [.abandon, .begin granted] ++ stage ++ stage ++ stage ++ stage

theorem course_runs : ∃ r r' : Replica LogStorage, begun = some r ∧
    runAllOf granted.command r course = some r' ∧ r.agent.localIdentity = member ∧
    r.agent.reconfiguration = some ⟨granted.command, .admitAuthority, none⟩ ∧
    r'.toExecute = some (granted, .activate) := by
  have hrun : (begun.bind fun r => (runAllOf granted.command r course).map fun r' =>
      ((r.agent.localIdentity, r.agent.reconfiguration), r'.toExecute)) =
        some ((member, some ⟨granted.command, .admitAuthority, none⟩), some (granted, .activate)) := by
    decide +kernel
  obtain ⟨r, hr, hrun⟩ := Option.bind_eq_some_iff.1 hrun
  obtain ⟨r', hr', heq⟩ := Option.map_eq_some_iff.1 hrun
  obtain ⟨hstart, hexecute⟩ := Prod.mk.inj heq
  obtain ⟨hidentity, hnew⟩ := Prod.mk.inj hstart
  exact ⟨r, r', hr, hr', hidentity, hnew, hexecute⟩

theorem stage_moves_forward_alone : ∃ (r r' : Replica LogStorage) (record : ReconfigurationRecord),
    begun = some r ∧ runAllOf granted.command r course = some r' ∧
      r'.agent.reconfiguration = some record ∧
      (record.stage = .admitAuthority ∨
        granted.place .admitAuthority < granted.place record.stage) := by
  obtain ⟨r, r', hr, hr', hidentity, hnew, hexecute⟩ := course_runs
  obtain ⟨-, -, record, hof, -⟩ := toExecute_eq_some hexecute
  have hrecord := (record?_eq_some.1 hof).1
  refine ⟨r, r', record, hr, hr', hrecord, ?_⟩
  exact stage_moves_forward (by decide) (steps_of_runAll hr) (stepsOf_of_runAllOf hr') hnew hrecord rfl
    (hidentity ▸ ⟨rfl, rfl, rfl, rfl⟩)

/-- The member is about to open writes, with the quorum confirmed on the way. -/
theorem writes_open_after_catchUp_alone : ∃ r r' r₁ : Replica LogStorage, begun = some r ∧
    runAllOf granted.command r course = some r' ∧ r'.toExecute = some (granted, .activate) ∧
    ReflTransGen (StepOf granted.command) r r₁ ∧
    ReflTransGen (StepOf granted.command) r₁ r' ∧ r₁.MayOpen granted.command := by
  obtain ⟨r, r', hr, hr', -, hnew, hexecute⟩ := course_runs
  obtain ⟨r₁, hfirst, hlast, hopen⟩ := writes_open_after_catchUp (by decide) (steps_of_runAll hr) hnew
    (stepsOf_of_runAllOf hr') hexecute (by decide) rfl
  exact ⟨r, r', r₁, hr, hr', hexecute, hfirst, hlast, hopen⟩

end PrimaryAlone

end Kuberic
