import Mathlib.Logic.Relation
import Kuberic.Host.Replica
import Kuberic.Runtime.Fencing

/-!
# Deactivation is a promise

A command that leaves the stage `deactivate` records an epoch and an LSN in the durable state of the
replica.  The LSN was read some stages earlier, while deliveries were running.  The record is a promise
all the same: the replica has issued no acknowledgement for an older epoch above the LSN, and it never
will.

The argument has two parts.  The admission of the authority, which comes before, fences the engine:
from then on no delivery of an older epoch is in flight, across crashes and later commands.  And the
progress that is read covers every acknowledgement issued before.
-/

namespace Kuberic

open Effect DurableState

variable {σ : Type} [DurableState σ]

/-! ## The effects of the stages -/

section Effects

variable {issued : List ReplicationAck}

/-- A call of the host that issues no acknowledgement. -/
def SteadyProcess (issued : List ReplicationAck) (p p' : Process σ) : Prop :=
  Steady issued p.engine p'.engine

theorem stepwise_steadyProcess :
    Stepwise (SteadyProcess issued : Process σ → Process σ → Prop) where
  refl p := stepwise_steady.refl p.engine
  trans h h' := stepwise_steady.trans h h'

theorem steady_onEngine {α : Type} {x : EngineM σ α} (hx : Along (Steady issued) x) :
    Along (SteadyProcess issued) (onEngine x) := along_zoom fun p => hx p.engine

theorem steady_host {f : Process σ → Process σ} (hf : ∀ p, (f p).engine = p.engine) :
    Along (SteadyProcess issued) (update f : ProcessM σ Unit) := by
  refine along_update fun p => ?_
  unfold SteadyProcess
  rw [hf p]
  exact stepwise_steady.refl _

theorem steady_changeReplicatorRole (role : ReplicaRole) :
    Along (SteadyProcess issued) (changeReplicatorRole role : ProcessM σ Unit) := by
  have hR := @stepwise_steadyProcess σ _ issued
  refine hR.bind hR.observe fun p => hR.bind (hR.require _ _) fun _ => ?_
  refine hR.bind (hR.demand _ _) fun transition => hR.bind (steady_host fun _ => rfl) fun _ => ?_
  unfold turnReplicator
  split_ifs
  · exact hR.pure _
  · exact hR.bind (steady_onEngine (steady_controlChangeRole _ _)) fun _ => steady_host fun _ => rfl

theorem steady_updateEpoch : Along (SteadyProcess issued) (updateEpoch : ProcessM σ Unit) := by
  have hR := @stepwise_steadyProcess σ _ issued
  refine hR.bind hR.observe fun p => hR.bind (hR.demand _ _) fun transition => ?_
  refine hR.bind (hR.require _ _) fun _ => ?_
  split_ifs
  · exact hR.pure _
  · exact hR.bind (steady_onEngine (steady_controlUpdateEpoch _)) fun _ => steady_host fun _ => rfl

theorem steady_changeApplicationRole [LawfulDurableState σ] (role : ReplicaRole) :
    Along (SteadyProcess issued) (changeApplicationRole role : ProcessM σ Unit) := by
  have hR := @stepwise_steadyProcess σ _ issued
  refine hR.bind hR.observe fun p => hR.bind (hR.demand _ _) fun transition => ?_
  refine hR.bind (hR.require _ _) fun _ => hR.bind (hR.onlyIf _ ?_) fun _ => steady_host fun _ => rfl
  exact steady_onEngine steady_settlePrimaryPrefix

theorem steady_setAccess (read write : AccessStatus) :
    Along (Steady issued) (setAccess read write : EngineM σ Unit) :=
  stepwise_steady.bind (stepwise_steady.reads (reads_prepareAccess read write))
    fun p => steady_publishAccess p

theorem steady_retireBuilds (ids : List OperationId) :
    Along (Steady issued) (retireBuilds ids : EngineM σ Unit) := by
  refine along_update fun e h => .of_inv ?_ rfl rfl rfl rfl
  exact ⟨⟨h.bounded.progress, h.bounded.store, h.bounded.current⟩, h.log,
    fun b hb => h.builds b (AssocMap.mem_values_of_eraseAll hb), h.buildStore, h.pending, h.delivery,
    h.acks, h.nonneg⟩

/-- The authority that an outcome reports as admitted. -/
def StageOutcome.admits : StageOutcome → Option ManagedReplicaConfiguration
  | .authorityAdmitted a _ _ => some a
  | _ => none

/-- A call of the host whose outcome is no admission. -/
def Reports (issued : List ReplicationAck) (x : ProcessM σ StageOutcome) : Prop :=
  ∀ p, Triple (· = p) x (fun o q => SteadyProcess issued p q ∧ o.admits = none)
    (SteadyProcess issued p)

theorem reports_bind {α : Type} {x : ProcessM σ α} {f : α → ProcessM σ StageOutcome}
    (hx : Along (SteadyProcess issued) x) (hf : ∀ a, Reports issued (f a)) :
    Reports issued (x >>= f) := by
  intro p
  refine (hx.triple p).bind fun a q hq => ?_
  exact (hf a q q rfl).mono (fun _ _ h => ⟨stepwise_steadyProcess.trans hq h.1, h.2⟩)
    fun _ h => stepwise_steadyProcess.trans hq h

theorem reports_pure {o : StageOutcome} (ho : o.admits = none) :
    Reports issued (pure o : ProcessM σ StageOutcome) := by
  refine fun p => triple_pure ?_
  rintro _ rfl
  exact ⟨stepwise_steadyProcess.refl _, ho⟩

variable {d : Driven}

theorem reports_stageEffect [LawfulDurableState σ] {stage : CoordinatorStage}
    {x : ProcessM σ StageOutcome} (h : stageEffect d stage = some x) : Reports issued x := by
  have hR := @stepwise_steadyProcess σ _ issued
  cases stage with
  | failoverPrefix =>
    obtain ⟨safeLsn, -, rfl⟩ := Option.map_eq_some_iff.1 h
    refine reports_bind (steady_onEngine (steady_authorizeFailoverPrefix safeLsn)) fun _ => ?_
    refine reports_bind (steady_host fun p => ?_) fun _ => reports_pure rfl
    unfold Process.requirePrimaryApplicationRefresh
    split_ifs <;> rfl
  | demote =>
    obtain rfl := Option.some.inj h
    exact reports_bind hR.observe fun p => reports_bind (steady_onEngine (steady_setAccess _ _))
      fun _ => reports_pure rfl
  | catchup =>
    obtain rfl := Option.some.inj h
    exact reports_bind (steady_onEngine steady_checkCatchUpQuorum) fun _ => reports_pure rfl
  | deactivate =>
    obtain rfl := Option.some.inj h
    exact reports_bind hR.observe fun p => reports_bind (steady_onEngine (steady_setAccess _ _))
      fun _ => reports_pure rfl
  | replicatorRole =>
    obtain ⟨role, -, rfl⟩ := Option.map_eq_some_iff.1 h
    exact reports_bind (steady_changeReplicatorRole role) fun _ => reports_pure rfl
  | epoch =>
    obtain rfl := Option.some.inj h
    exact reports_bind steady_updateEpoch fun _ => reports_bind hR.observe fun p => reports_pure rfl
  | applicationRole =>
    obtain ⟨role, -, rfl⟩ := Option.map_eq_some_iff.1 h
    exact reports_bind (steady_changeApplicationRole role) fun _ => reports_pure rfl
  | activate =>
    obtain rfl := Option.some.inj h
    exact reports_bind (steady_onEngine (steady_setAccess _ _)) fun _ => reports_pure rfl
  | retireBuild =>
    obtain rfl := Option.some.inj h
    exact reports_bind (steady_onEngine (steady_retireBuilds _)) fun _ => reports_pure rfl
  | admitAuthority | getLsn | complete => cases h

end Effects

/-! ## The invariant of a replica -/

/-- The engine is done with the epochs below `E`, and no acknowledgement of them is above `D`. -/
structure Kept (issued : List ReplicationAck) (e : Engine σ) (E : Epoch) (D : Int) : Prop where
  fenced : Fenced E e
  promise : Promise issued E D

/-- The stages at which the authority of the command is admitted, and access is not yet given. -/
def CoordinatorStage.fences : CoordinatorStage → Bool
  | .admitAuthority | .activate | .retireBuild | .complete => false
  | _ => true

/-- The command is driven under an authority for this replica. -/
structure Driven.For (d : Driven) (identity : ReplicaIdentity) : Prop where
  currentConfiguration : d.authority.currentConfiguration = d.command.currentConfiguration
  previousConfiguration : d.authority.previousConfiguration = d.command.previousConfiguration
  epoch : d.command.currentEpoch = d.command.currentConfiguration.epoch
  localIdentity : d.authority.localIdentity = identity

structure RecordInv (issued : List ReplicationAck) (identity : ReplicaIdentity) (e : Engine σ)
    (record : ReconfigurationRecord) : Prop where
  fenced : record.stage.fences = true → Fenced record.command.currentEpoch e
  observed : ∀ D, record.observedLsn = some D → Kept issued e record.command.currentEpoch D
  deactivate : record.stage = .deactivate → record.observedLsn.isSome = true
  /-- A command that deactivates after its catch-up has read the progress before. -/
  catchup : record.stage = .catchup → ∀ d : Driven, d.command = record.command → d.For identity →
    d.nextStage .none .catchup = .deactivate → record.observedLsn.isSome = true

/-- What the retained result of a stage says. -/
structure ResultInv (issued : List ReplicationAck) (e : Engine σ) (record : ReconfigurationRecord)
    (outcome : StageOutcome) : Prop where
  admission : record.stage = .admitAuthority → Fenced record.command.currentEpoch e
  progress : record.stage = .getLsn →
    ∃ D, outcome = .progressRefreshed D ∧ Kept issued e record.command.currentEpoch D

/-- What the work on a stage has established. -/
def WorkInv (issued : List ReplicationAck) (e : Engine σ) (writing : Option RegisteredWrite)
    (d : Driven) (record : ReconfigurationRecord) : Work → Prop
  | .prepared p => record.stage = .admitAuthority ∧ p.configuration = d.authority
  | .admitted p => record.stage = .admitAuthority ∧ p.configuration = d.authority ∧
      e.configuration = some p.configuration
  | .refreshed => record.stage = .getLsn ∧
      Promise issued record.command.currentEpoch e.currentProgress ∧
      ∀ w, writing = some w → Promise issued record.command.currentEpoch w.ack.appliedLsn
  | .executed outcome => ResultInv issued e record outcome ∧
      ∀ a, outcome.admits = some a → e.configuration = some a

/-- The invariant, relative to the promises that were recorded some time ago. -/
structure ReplicaInv (promised : Epoch → Int → Prop) (r : Replica σ) : Prop where
  engine : EngineInv r.issued r.engine
  promised : ∀ E D, promised E D → Kept r.issued r.engine E D
  writing : ∀ w, r.writing = some w → w.ack.appliedLsn ≤ appliedLsn r.engine.storage
  deactivation : ∀ s, r.agent.deactivation = some s →
    Kept r.issued r.engine s.epoch s.deactivatedLsn
  record : ∀ record, r.agent.reconfiguration = some record →
    RecordInv r.issued r.agent.localIdentity r.engine record
  result : ∀ record outcome, r.agent.reconfiguration = some record →
    r.agent.stageResult = some outcome → ResultInv r.issued r.engine record outcome
  driven : ∀ d, r.driven = some d → d.For r.agent.localIdentity
  work : ∀ w, r.work = some w → ∃ d record, r.driven = some d ∧ r.record? d = some record ∧
    r.agent.stageResult = none ∧ WorkInv r.issued r.engine r.writing d record w

/-! ## Steps of the engine -/

/-- What the replica is done with, it stays done with. -/
def Stays (issued issued' : List ReplicationAck) (e e' : Engine σ) : Prop :=
  ∀ E, Fenced E e → Fenced E e' ∧ ∀ D, Promise issued E D → Promise issued' E D

section Stays

variable {issued issued' : List ReplicationAck} {e e' : Engine σ} {E : Epoch} {D : Int}
  {record : ReconfigurationRecord} {identity : ReplicaIdentity} {d : Driven}

theorem Moves.stays (h : Moves issued issued' e e') : Stays issued issued' e e' :=
  fun _ hf => ⟨h.fenced hf, fun _ hp => h.promise hf hp⟩

omit [DurableState σ] in
theorem Kept.stays (h : Kept issued e E D) (hs : Stays issued issued' e e') :
    Kept issued' e' E D :=
  ⟨(hs E h.fenced).1, (hs E h.fenced).2 D h.promise⟩

omit [DurableState σ] in
theorem RecordInv.stays (h : RecordInv issued identity e record) (hs : Stays issued issued' e e') :
    RecordInv issued' identity e' record where
  fenced hf := (hs _ (h.fenced hf)).1
  observed D hD := (h.observed D hD).stays hs
  deactivate := h.deactivate
  catchup := h.catchup

variable {outcome : StageOutcome}

omit [DurableState σ] in
theorem ResultInv.stays (h : ResultInv issued e record outcome) (hs : Stays issued issued' e e') :
    ResultInv issued' e' record outcome where
  admission hstage := (hs _ (h.admission hstage)).1
  progress hstage := by
    obtain ⟨D, hD, hkept⟩ := h.progress hstage
    exact ⟨D, hD, hkept.stays hs⟩

/-- The writes that the effect lock may go to while the replica works on a stage. -/
def WritesFrom (issued : List ReplicationAck) (writing writing' : Option RegisteredWrite) : Prop :=
  ∀ w, writing' = some w → writing = some w ∨ Floor issued w.ack.appliedLsn

/-- The published progress still covers what has to be covered. -/
def CurrentCovers (issued : List ReplicationAck) (writing : Option RegisteredWrite)
    (e e' : Engine σ) : Prop :=
  ∀ E, Promise issued E e.currentProgress →
    (∀ w, writing = some w → Promise issued E w.ack.appliedLsn) → Promise issued E e'.currentProgress

theorem Keeps.currentCovers (h : Keeps issued issued' e e') (writing : Option RegisteredWrite) :
    CurrentCovers issued writing e e' := by
  intro E hp _
  obtain hle | hfloor := h.current
  · exact fun ack hack hlt => (hp ack hack hlt).trans hle
  · exact hfloor.promise E

theorem WorkInv.moves {writing writing' : Option RegisteredWrite} {w : Work}
    (h : WorkInv issued e writing d record w) (hm : Moves issued issued' e e')
    (hfenced : record.stage.fences = true → Fenced record.command.currentEpoch e)
    (hwriting : WritesFrom issued writing writing') (hcurrent : CurrentCovers issued writing e e') :
    WorkInv issued' e' writing' d record w := by
  cases w with
  | prepared p => exact h
  | admitted p => exact ⟨h.1, h.2.1, hm.configuration.trans h.2.2⟩
  | refreshed =>
    obtain ⟨hstage, hp, hw⟩ := h
    have hf : Fenced record.command.currentEpoch e := hfenced (by rw [hstage]; rfl)
    refine ⟨hstage, hm.promise hf (hcurrent _ hp hw), fun w' hw' => hm.promise hf ?_⟩
    obtain hold | hfloor := hwriting w' hw'
    · exact hw w' hold
    · exact hfloor.promise _
  | executed outcome => exact ⟨h.1.stays hm.stays, fun a ha => hm.configuration.trans (h.2 a ha)⟩

end Stays

section Steps

variable {promised : Epoch → Int → Prop} {r : Replica σ} {issued' : List ReplicationAck}
  {e' : Engine σ}

omit [DurableState σ] in
theorem record?_eq_some {record : ReconfigurationRecord} :
    r.record? d = some record ↔
      r.agent.reconfiguration = some record ∧ record.command = d.command := by
  unfold Replica.record?
  rw [Option.filter_eq_some_iff]
  simp

theorem ReplicaInv.step (h : ReplicaInv promised r) (hinv : EngineInv issued' e')
    (hstays : Stays r.issued issued' r.engine e') (writing' : Option RegisteredWrite)
    (hwriting : ∀ w, writing' = some w → w.ack.appliedLsn ≤ appliedLsn e'.storage)
    (work' : Option Work)
    (hwork : ∀ w, work' = some w → ∃ d record, r.driven = some d ∧ r.record? d = some record ∧
      r.agent.stageResult = none ∧ WorkInv issued' e' writing' d record w) :
    ReplicaInv promised { r.withEngine e' with issued := issued', writing := writing', work := work' } where
  engine := hinv
  promised E D hp := (h.promised E D hp).stays hstays
  writing := hwriting
  deactivation s hs := (h.deactivation s hs).stays hstays
  record record hrecord := (h.record record hrecord).stays hstays
  result record outcome hrecord houtcome := (h.result record outcome hrecord houtcome).stays hstays
  driven := h.driven
  work := hwork

theorem ReplicaInv.moves (h : ReplicaInv promised r) (hm : Moves r.issued issued' r.engine e')
    {writing' : Option RegisteredWrite}
    (hwriting : ∀ w, writing' = some w → w.ack.appliedLsn ≤ appliedLsn e'.storage)
    (hfrom : WritesFrom r.issued r.writing writing')
    (hcurrent : CurrentCovers r.issued r.writing r.engine e') :
    ReplicaInv promised { r.withEngine e' with issued := issued', writing := writing' } := by
  refine h.step hm.inv hm.stays writing' hwriting r.work fun w hw => ?_
  obtain ⟨d, record, hdriven, hrecord, hnone, hwork⟩ := h.work w hw
  refine ⟨d, record, hdriven, hrecord, hnone, hwork.moves hm ?_ hfrom hcurrent⟩
  exact (h.record record (record?_eq_some.1 hrecord).1).fenced

theorem ReplicaInv.keeps (h : ReplicaInv promised r) (hk : Keeps r.issued issued' r.engine e') :
    ReplicaInv promised { r.withEngine e' with issued := issued' } :=
  h.moves hk.toMoves (fun w hw => (h.writing w hw).trans hk.storage) (fun _ hw => .inl hw)
    (hk.currentCovers _)

theorem ReplicaInv.abandon (h : ReplicaInv promised r) : ReplicaInv promised r.abandon := by
  have hk : ∃ e', r.abandon = { r.withEngine e' with driven := none, work := none } ∧
      Keeps r.issued r.issued r.engine e' := by
    refine ⟨_, rfl, ?_⟩
    split
    · exact steady_dropPreparation _ h.engine
    · exact steady_dropPreparation _ h.engine
    · exact .refl h.engine
  obtain ⟨e', he', hk⟩ := hk
  rw [he']
  have hkept := h.keeps hk
  exact ⟨hkept.engine, hkept.promised, hkept.writing, hkept.deactivation, hkept.record,
    hkept.result, (fun d hd => by cases hd), fun w hw => by cases hw⟩

/-- The next work on the stage is what the call has returned; a failure gives the command up. -/
theorem ReplicaInv.settle (h : ReplicaInv promised r) {α : Type} {x : ProcessM σ α}
    {next : α → Work} {record : ReconfigurationRecord} (hdriven : r.driven = some d)
    (hrecord : r.record? d = some record) (hnone : r.agent.stageResult = none)
    (hx : Triple (· = r.process) x
      (fun a p => EngineInv r.issued p.engine ∧ Stays r.issued r.issued r.engine p.engine ∧
        appliedLsn r.engine.storage ≤ appliedLsn p.engine.storage ∧
        WorkInv r.issued p.engine r.writing d record (next a))
      (fun p => Keeps r.issued r.issued r.engine p.engine)) :
    ReplicaInv promised (r.settle (x.run r.process) next) := by
  have hpost := hx r.process rfl
  match hr : x.run r.process, hpost with
  | (.ok a, p), ⟨hinv, hstays, hstorage, hwork⟩ =>
    have hstep := h.step hinv hstays r.writing (fun w hw => (h.writing w hw).trans hstorage)
      (some (next a)) fun w hw => by
        obtain rfl := Option.some.inj hw
        exact ⟨d, record, hdriven, hrecord, hnone, hwork⟩
    exact ⟨hstep.engine, hstep.promised, hstep.writing, hstep.deactivation, hstep.record, hstep.result,
      hstep.driven, hstep.work⟩
  | (.error error, p), hk =>
    have hkept := h.keeps hk
    refine ReplicaInv.abandon (r := { r with process := p }) ?_
    exact ⟨hkept.engine, hkept.promised, hkept.writing, hkept.deactivation, hkept.record, hkept.result,
      hkept.driven, hkept.work⟩

end Steps

/-! ## Steps of the agent state -/

section Agent

variable {promised : Epoch → Int → Prop} {r : Replica σ} {s s' : AgentState} {d : Driven}
  {role : ReplicaRole} {stage : CoordinatorStage}

/-- A command that begins continues its record, or starts one at a stage that fences nothing. -/
theorem beginConfiguration_cases {command : EnsureConfiguration}
    (h : s.beginConfiguration command = .ok (some s')) : s' = s ∨ ∃ stage : CoordinatorStage,
      stage.fences = false ∧
        s' = { s with reconfiguration := some ⟨command, stage, none⟩, stageResult := none } := by
  unfold AgentState.beginConfiguration at h
  split at h
  · split_ifs at h
    cases h
  · split at h
    · split_ifs at h
      cases h
    · split at h
      · split_ifs at h
        · exact .inl (Option.some.inj (Except.ok.inj h)).symm
        · exact .inr ⟨.admitAuthority, rfl, (Option.some.inj (Except.ok.inj h)).symm⟩
      · refine .inr ⟨_, ?_, (Option.some.inj (Except.ok.inj h)).symm⟩
        split_ifs <;> rfl

theorem advanceConfiguration_eq_ok {operationId : OperationId} {expected next : CoordinatorStage}
    {observedLsn : Option Int} {record : ReconfigurationRecord}
    (hrecord : s.reconfiguration = some record)
    (h : s.advanceConfiguration operationId expected next observedLsn = .ok s') :
    record.stage = expected ∧ s' = { s with
      reconfiguration := some { record with
        stage := next, observedLsn := observedLsn.or record.observedLsn }
      stageResult := none
      deactivation := if expected = .deactivate then
        some ⟨record.command.currentEpoch, (observedLsn.or record.observedLsn).getD 0⟩
        else s.deactivation } := by
  unfold AgentState.advanceConfiguration at h
  rw [hrecord] at h
  simp only at h
  split_ifs at h with hbad
  all_goals
    simp only [not_or, not_not] at hbad
    refine ⟨hbad.2, (Except.ok.inj h).symm.trans ?_⟩
    simp_all

theorem nextStage_fences (h : (d.nextStage role stage).fences = true) :
    stage = .admitAuthority ∨ stage.fences = true := by
  cases stage with
  | admitAuthority => exact .inl rfl
  | activate =>
    simp only [Driven.nextStage] at h
    split_ifs at h <;> cases h
  | retireBuild | complete => cases h
  | _ => exact .inr rfl

theorem nextStage_eq_deactivate (h : d.nextStage role stage = .deactivate) :
    stage = .getLsn ∨ stage = .catchup := by
  cases stage with
  | getLsn => exact .inl rfl
  | catchup => exact .inr rfl
  | failoverPrefix | epoch | retireBuild | complete => cases h
  | _ =>
    simp only [Driven.nextStage] at h
    split_ifs at h

/-- A catch-up follows the reading of the progress, or it is the last stage of a new primary. -/
theorem nextStage_eq_catchup (h : d.nextStage role stage = .catchup) :
    stage = .getLsn ∨ d.isFailover = false ∧ d.isLocalPrimary = true := by
  cases stage with
  | getLsn => exact .inl rfl
  | applicationRole =>
    simp only [Driven.nextStage] at h
    split_ifs at h with hfailover hprimary
    rw [Bool.and_eq_true] at hprimary
    exact .inr ⟨by simpa using hfailover, hprimary.1⟩
  | failoverPrefix | epoch | retireBuild | complete => cases h
  | _ =>
    simp only [Driven.nextStage] at h
    split_ifs at h

variable {identity : ReplicaIdentity}

/-- Whoever drives the command on this replica drives it in the same role. -/
theorem isLocalPrimary_congr {d' : Driven} (h : d.For identity) (h' : d'.For identity)
    (hcommand : d'.command = d.command) : d'.isLocalPrimary = d.isLocalPrimary := by
  unfold Driven.isLocalPrimary ManagedReplicaConfiguration.localRole
  rw [h.currentConfiguration, h.previousConfiguration, h.localIdentity, h'.currentConfiguration,
    h'.previousConfiguration, h'.localIdentity, hcommand]

omit [DurableState σ] in
theorem RecordInv.start {issued : List ReplicationAck} {e : Engine σ}
    {command : EnsureConfiguration} (hstage : stage.fences = false) :
    RecordInv issued identity e ⟨command, stage, none⟩ := by
  refine ⟨fun h => ?_, (fun D hD => by cases hD), ?_, ?_⟩
  · rw [show stage.fences = true from h] at hstage
    cases hstage
  · rintro (rfl : stage = .deactivate)
    cases hstage
  · rintro (rfl : stage = .catchup)
    cases hstage

omit [DurableState σ] in
theorem RecordInv.advance {issued : List ReplicationAck} {e : Engine σ}
    {record : ReconfigurationRecord} (h : RecordInv issued identity e record)
    (hresult : ResultInv issued e record outcome) (hd : d.For identity)
    (hcommand : record.command = d.command) :
    RecordInv issued identity e { record with
      stage := d.nextStage role record.stage
      observedLsn := (Driven.observedLsn record.stage outcome).or record.observedLsn } := by
  have hread : record.stage = .getLsn →
      ((Driven.observedLsn record.stage outcome).or record.observedLsn).isSome = true := by
    intro hstage
    obtain ⟨D, rfl, -⟩ := hresult.progress hstage
    rw [hstage]
    rfl
  have hkeep : record.observedLsn.isSome = true →
      ((Driven.observedLsn record.stage outcome).or record.observedLsn).isSome = true := by
    intro hsome
    cases Driven.observedLsn record.stage outcome with
    | none => exact hsome
    | some D => rfl
  refine ⟨fun hf => ?_, fun D hD => ?_, fun hnext => ?_, fun hnext d' hd' hfor hdeactivate => ?_⟩
  · obtain hstage | hstage := nextStage_fences hf
    · exact hresult.admission hstage
    · exact h.fenced hstage
  · obtain hnew | ⟨-, hold⟩ := Option.or_eq_some_iff.1 hD
    · by_cases hstage : record.stage = .getLsn
      · obtain ⟨D', rfl, hkept⟩ := hresult.progress hstage
        rw [hstage] at hnew
        obtain rfl : D' = D := Option.some.inj hnew
        exact hkept
      · unfold Driven.observedLsn at hnew
        split at hnew
        · exact absurd ‹_› hstage
        · cases hnew
    · exact h.observed D hold
  · obtain hstage | hstage := nextStage_eq_deactivate hnext
    · exact hread hstage
    · refine hkeep (h.catchup hstage d hcommand.symm hd ?_)
      rw [← hnext]
      show _ = d.nextStage role record.stage
      rw [hstage]
      rfl
  · obtain hstage | ⟨hfailover, hprimary⟩ := nextStage_eq_catchup hnext
    · exact hread hstage
    · have hcommand' : d'.command = d.command := hd'.trans hcommand
      have hfailover' : d'.isFailover = false := by
        unfold Driven.isFailover at hfailover ⊢
        rw [hcommand', hfailover]
      have hprimary' := (isLocalPrimary_congr hd hfor hcommand').trans hprimary
      simp [Driven.nextStage, hfailover', hprimary'] at hdeactivate

end Agent

/-! ## Every action keeps the invariant -/

section Actions

variable {promised : Epoch → Int → Prop} {r r' : Replica σ}

theorem ReplicaInv.begin (h : ReplicaInv promised r) (hd : d.For r.agent.localIdentity)
    (hfree : r.driven = none) {agent : AgentState}
    (hbegin : r.agent.beginConfiguration d.command = .ok (some agent)) :
    ReplicaInv promised { r with agent := agent, driven := some d } := by
  have hwork : r.work = none := by
    cases hw : r.work with
    | none => rfl
    | some w =>
      obtain ⟨d', record, hd', -⟩ := h.work w hw
      rw [hfree] at hd'
      cases hd'
  have hnowork : ∀ {P : Work → Prop} w, r.work = some w → P w := fun w hw => by
    rw [hwork] at hw
    cases hw
  obtain rfl | ⟨stage, hstage, rfl⟩ := beginConfiguration_cases hbegin
  · refine ⟨h.engine, h.promised, h.writing, h.deactivation, h.record, h.result, ?_, hnowork⟩
    rintro _ ⟨⟩
    exact hd
  · refine ⟨h.engine, h.promised, h.writing, h.deactivation, ?_, ?_, ?_, hnowork⟩
    · rintro _ ⟨⟩
      exact .start hstage
    · exact fun _ _ _ houtcome => by cases houtcome
    · rintro _ ⟨⟩
      exact hd

theorem ReplicaInv.advance (h : ReplicaInv promised r) {record : ReconfigurationRecord}
    {agent : AgentState} (hd : r.driven = some d) (hrecord : r.record? d = some record)
    (hresult : r.agent.stageResult = some outcome)
    (hadvance : r.agent.advanceConfiguration d.command.operationId record.stage
      (d.nextStage r.agent.role record.stage) (Driven.observedLsn record.stage outcome) = .ok agent) :
    ReplicaInv promised { r with agent := agent } := by
  obtain ⟨hreconfiguration, hcommand⟩ := record?_eq_some.1 hrecord
  obtain ⟨-, rfl⟩ := advanceConfiguration_eq_ok hreconfiguration hadvance
  have hinv := h.record record hreconfiguration
  refine ⟨h.engine, h.promised, h.writing, ?_, ?_, ?_, h.driven, ?_⟩
  · -- the promise that is recorded is the progress that the command has read
    intro s hs
    simp only at hs
    split_ifs at hs with hstage
    · obtain rfl := Option.some.inj hs
      obtain ⟨D, hD⟩ := Option.isSome_iff_exists.1 (hinv.deactivate hstage)
      rw [hstage, hD]
      exact hinv.observed D hD
    · exact h.deactivation s hs
  · rintro _ ⟨⟩
    exact hinv.advance (h.result record outcome hreconfiguration hresult) (h.driven d hd) hcommand
  · exact fun _ _ _ houtcome => by cases houtcome
  · intro w hw
    obtain ⟨d', record', -, -, hnone, -⟩ := h.work w hw
    rw [hresult] at hnone
    cases hnone

theorem ReplicaInv.complete (h : ReplicaInv promised r) (hwork : r.work = some (.executed outcome)) :
    ReplicaInv promised { r.withEngine (ReplicaAction.completedEngine r.engine outcome) with
      agent := r.agent.completeStage outcome, work := none } := by
  obtain ⟨d, record, hdriven, hrecord, -, hresult, hadmits⟩ := h.work _ hwork
  obtain ⟨hreconfiguration, -⟩ := record?_eq_some.1 hrecord
  have hengine : ReplicaAction.completedEngine r.engine outcome = r.engine := by
    cases outcome with
    | authorityAdmitted a read write =>
      have ha : r.engine.configuration = some a := hadmits a rfl
      show { r.engine with configuration := some a } = r.engine
      rw [← ha]
    | _ => rfl
  have hsame : (r.agent.completeStage outcome).localIdentity = r.agent.localIdentity ∧
      (r.agent.completeStage outcome).reconfiguration = r.agent.reconfiguration ∧
      (r.agent.completeStage outcome).deactivation = r.agent.deactivation ∧
      (r.agent.completeStage outcome).stageResult = some outcome := by
    cases outcome <;> exact ⟨rfl, rfl, rfl, rfl⟩
  obtain ⟨hidentity, hsameRecord, hdeactivation, hstageResult⟩ := hsame
  rw [hengine]
  refine ⟨h.engine, h.promised, h.writing, ?_, ?_, ?_, ?_, fun w hw => by cases hw⟩
  · simp only [hdeactivation]
    exact h.deactivation
  · simp only [hsameRecord, hidentity]
    exact h.record
  · simp only [hsameRecord, hstageResult, hreconfiguration]
    rintro _ _ ⟨⟩ ⟨⟩
    exact hresult
  · simp only [hidentity]
    exact h.driven

theorem ReplicaInv.finish (h : ReplicaInv promised r) {operationId : OperationId}
    {agent : AgentState} (hcomplete : r.agent.completeConfiguration operationId = .ok agent) :
    ReplicaInv promised { r with agent := agent, driven := none, work := none } := by
  unfold AgentState.completeConfiguration at hcomplete
  split at hcomplete
  · cases hcomplete
  · simp only at hcomplete
    split_ifs at hcomplete
    all_goals
      obtain rfl := Except.ok.inj hcomplete
      exact ⟨h.engine, h.promised, h.writing, h.deactivation, (fun _ hr => by cases hr),
        (fun _ _ hr => by cases hr), (fun _ hd => by cases hd), fun _ hw => by cases hw⟩

theorem ReplicaInv.crash (h : ReplicaInv promised r) : ReplicaInv promised r.crash := by
  have hm := moves_restarted h.engine
  have hstep := h.step hm.inv hm.stays none (fun w hw => by cases hw) none
    fun w hw => by cases hw
  exact ⟨hstep.engine, hstep.promised, hstep.writing, hstep.deactivation, hstep.record, hstep.result,
    (fun _ hd => by cases hd), fun _ hw => by cases hw⟩

omit [DurableState σ] in
theorem triple_onEngine {α : Type} {x : EngineM σ α} {p : Process σ} {Q : α → Engine σ → Prop}
    {E : Engine σ → Prop} (h : Triple (· = p.engine) x Q E) :
    Triple (· = p) (onEngine x) (fun a q => Q a q.engine) (fun q => E q.engine) := by
  rintro _ rfl
  have hpost := h _ rfl
  unfold onEngine zoom
  match hr : x.run _, hpost with
  | (.ok a, e), hpost =>
    simp only [hr]
    exact hpost
  | (.error error, e), hpost =>
    simp only [hr]
    exact hpost

omit [DurableState σ] in
theorem toExecute_eq_some {stage : CoordinatorStage} (h : r.toExecute = some (d, stage)) :
    r.agent.stageResult = none ∧ r.driven = some d ∧
      ∃ record, r.record? d = some record ∧ record.stage = stage := by
  unfold Replica.toExecute at h
  split_ifs at h with hresult
  obtain ⟨d', hd', h⟩ := Option.bind_eq_some_iff.1 h
  obtain ⟨record, hrecord, heq⟩ := Option.map_eq_some_iff.1 h
  obtain ⟨rfl, rfl⟩ := Prod.mk.inj heq
  exact ⟨by simpa using hresult, hd', record, hrecord, rfl⟩

theorem ReplicaInv.prepare (h : ReplicaInv promised r) (hostGeneration : Nat)
    (hexecute : r.toExecute = some (d, .admitAuthority)) :
    ReplicaInv promised (r.settle
      ((onEngine (prepareReplicaConfiguration d.authority hostGeneration false)).run r.process)
      .prepared) := by
  obtain ⟨hnone, hd, record, hrecord, hstage⟩ := toExecute_eq_some hexecute
  refine h.settle hd hrecord hnone ((triple_onEngine
    (triple_prepareReplicaConfiguration h.engine hostGeneration false)).post ?_ fun _ h => h)
  exact fun p q ⟨hp, hk⟩ => ⟨hk.inv, hk.toMoves.stays, hk.storage, hstage, hp⟩

/-- The durable authority becomes that of the command; an engine that is fenced stays fenced. -/
theorem ReplicaInv.admitDurable (h : ReplicaInv promised r)
    {p : ManagedConfigurationPreparation} (hwork : r.work = some (.prepared p)) :
    ReplicaInv promised (r.settle ((onEngine (admitDurably p.configuration)).run r.process)
      fun _ => .admitted p) := by
  obtain ⟨d, record, hd, hrecord, hnone, hstage, hp⟩ := h.work _ hwork
  refine h.settle hd hrecord hnone ((triple_onEngine triple_admitDurably).post ?_ ?_)
  · rintro _ q ⟨hq, hepoch⟩
    rw [hq]
    refine ⟨h.engine.withConfiguration _, fun E hf => ?_, le_refl _, hstage, hp, rfl⟩
    exact ⟨hf.withConfiguration hepoch, fun _ hpromise => hpromise⟩
  · intro q hq
    rw [hq]
    exact .refl h.engine

/-- The commit finds no delivery in flight, so the epochs below that of the command are done with. -/
theorem ReplicaInv.commit (h : ReplicaInv promised r) {p : ManagedConfigurationPreparation}
    (hwork : r.work = some (.admitted p)) :
    ReplicaInv promised (r.settle ((onEngine (ReplicaAction.commitAndReport p)).run r.process)
      .executed) := by
  obtain ⟨d, record, hd, hrecord, hnone, hstage, hp, hconfiguration⟩ := h.work _ hwork
  have hfor := h.driven d hd
  have hepoch : record.command.currentEpoch = p.configuration.epoch := by
    rw [(record?_eq_some.1 hrecord).2, hfor.epoch, hp, ManagedReplicaConfiguration.epoch,
      hfor.currentConfiguration]
  refine h.settle hd hrecord hnone (triple_onEngine (E := Keeps r.issued r.issued r.engine)
    (Q := fun outcome e => EngineInv r.issued e ∧ Stays r.issued r.issued r.engine e ∧
      appliedLsn r.engine.storage ≤ appliedLsn e.storage ∧
      WorkInv r.issued e r.writing d record (.executed outcome)) ?_)
  refine (triple_commitReplicaConfiguration h.engine p).bind fun _ => triple_observe_bind ?_
  rintro e ⟨hfree, hk⟩
  refine triple_pure ?_
  rintro _ rfl
  have hfenced : Fenced record.command.currentEpoch r.engine := by
    refine ⟨⟨p.configuration, hconfiguration, hepoch.le⟩, fun d' hd' => ?_⟩
    rw [show r.engine.delivery = none from hfree] at hd'
    cases hd'
  refine ⟨hk.inv, hk.toMoves.stays, hk.storage, ⟨fun _ => hk.toMoves.fenced hfenced, ?_⟩, ?_⟩
  · rw [hstage]
    exact fun hget => by cases hget
  · rintro _ ⟨⟩
    exact hk.configuration.trans hconfiguration

theorem ReplicaInv.readProgress (h : ReplicaInv promised r) (hwork : r.work = some .refreshed) :
    ReplicaInv promised { r with
      work := some (.executed (.progressRefreshed r.engine.currentProgress)) } := by
  obtain ⟨d, record, hd, hrecord, hnone, hstage, hpromise, -⟩ := h.work _ hwork
  have hfenced := (h.record record (record?_eq_some.1 hrecord).1).fenced (by rw [hstage]; rfl)
  refine ⟨h.engine, h.promised, h.writing, h.deactivation, h.record, h.result, h.driven, ?_⟩
  rintro _ ⟨⟩
  refine ⟨d, record, hd, hrecord, hnone, ⟨fun hadmit => ?_, fun _ => ?_⟩, fun a ha => by cases ha⟩
  · rw [hstage] at hadmit
    cases hadmit
  · exact ⟨_, rfl, hfenced, hpromise⟩

variable [LawfulDurableState σ]

theorem ReplicaInv.refresh (h : ReplicaInv promised r) (faults : Faults) (hidle : r.writing = none)
    (hexecute : r.toExecute = some (d, .getLsn)) :
    ReplicaInv promised (r.settle ((onEngine (refreshApplicationProgress faults)).run r.process)
      fun _ => .refreshed) := by
  obtain ⟨hnone, hd, record, hrecord, hstage⟩ := toExecute_eq_some hexecute
  refine h.settle hd hrecord hnone ((triple_onEngine
    (triple_refreshApplicationProgress faults)).post ?_ ?_)
  · rintro _ q ⟨hadvances, hcovers⟩
    have hk := hadvances.steady h.engine
    refine ⟨hk.inv, hk.toMoves.stays, hk.storage, hstage, ?_, fun w hw => ?_⟩
    · exact (h.engine.acks.mono hcovers).promise _
    · rw [hidle] at hw
      cases hw
  · exact fun q hadvances => hadvances.steady h.engine

theorem ReplicaInv.execute (h : ReplicaInv promised r) {stage : CoordinatorStage}
    {x : ProcessM σ StageOutcome} (hexecute : r.toExecute = some (d, stage))
    (hx : stageEffect d stage = some x) :
    ReplicaInv promised (r.settle (x.run r.process) .executed) := by
  obtain ⟨hnone, hd, record, hrecord, rfl⟩ := toExecute_eq_some hexecute
  refine h.settle hd hrecord hnone ((reports_stageEffect hx r.process).post ?_ fun q hq => hq h.engine)
  rintro outcome q ⟨hq, hadmits⟩
  have hk := hq h.engine
  refine ⟨hk.inv, hk.toMoves.stays, hk.storage, ⟨fun hstage => ?_, fun hstage => ?_⟩, fun a ha => ?_⟩
  · rw [hstage] at hx
    cases hx
  · rw [hstage] at hx
    cases hx
  · rw [hadmits] at ha
    cases ha

/-- A write that starts takes the effect lock with a progress that covers every acknowledgement. -/
theorem ReplicaInv.write (h : ReplicaInv promised r)
    {x : EngineM σ (PendingWrite ⊕ RegisteredWrite)}
    (hx : Triple (· = r.engine) x (fun result e => Advances (fun _ _ => True) r.engine e ∧
      ∀ registered, result = .inr registered →
        registered.Sound (appliedLsn r.engine.storage) e.storage)
      (Advances (fun _ _ => True) r.engine)) :
    ReplicaInv promised { r.withEngine (x.run r.engine).2 with
      writing := startedWrite (x.run r.engine).1 } := by
  have hpost := hx r.engine rfl
  have hboth : Advances (fun _ _ => True) r.engine (x.run r.engine).2 ∧
      ∀ w, startedWrite (x.run r.engine).1 = some w →
        w.Sound (appliedLsn r.engine.storage) (x.run r.engine).2.storage := by
    match hr : x.run r.engine, hpost with
    | (.ok (.inl pending), e), ⟨he, _⟩ => exact ⟨he, fun w hw => by cases hw⟩
    | (.ok (.inr registered), e), ⟨he, hsound⟩ =>
      refine ⟨he, ?_⟩
      rintro _ ⟨⟩
      exact hsound registered rfl
    | (.error error, e), he => exact ⟨he, fun w hw => by cases hw⟩
  obtain ⟨hadvances, hsound⟩ := hboth
  have hk := hadvances.steady h.engine
  exact h.moves hk.toMoves (fun w hw => (hsound w hw).2.2)
    (fun w hw => .inr (h.engine.acks.mono (hsound w hw).2.1)) (hk.currentCovers _)

theorem ReplicaInv.finishWrite (h : ReplicaInv promised r) {registered : RegisteredWrite}
    (hwriting : r.writing = some registered) :
    ReplicaInv promised { r.withEngine ((Kuberic.finishWrite registered).run r.engine).2 with
      writing := none } := by
  have hcarries : Carries (fun _ _ => True) r.engine
    ((Kuberic.finishWrite registered).run r.engine).2 :=
    carries_finishWrite (h.writing registered hwriting)
  refine h.moves (hcarries.moves h.engine) (fun w hw => by cases hw) (fun w hw => by cases hw) ?_
  exact fun E _ hw => hw registered hwriting

theorem ReplicaInv.serve (h : ReplicaInv promised r) {action : PrimaryAction}
    (hlock : ¬ action.needsEffectLock = true) :
    ReplicaInv promised (r.withEngine (action.run r.engine).2) := by
  have hfinish : ∀ registered, action ≠ .finish registered := by
    rintro registered rfl
    exact hlock rfl
  have hadvances : Advances (fun _ _ => True) r.engine (action.run r.engine).2 :=
    (advances_run (fun _ _ _ _ h => h) h.engine.log hfinish fun _ _ _ _ _ => trivial).1
  exact h.keeps (hadvances.steady h.engine)

theorem replicaInv_run (h : ReplicaInv promised r) {action : ReplicaAction}
    (hrun : action.run r = some r') : ReplicaInv promised r' := by
  have hacked : ∀ (m : ReplicaIdentity) (v w : Int), v ≤ w → True → True := fun _ _ _ _ h => h
  cases action with
  | deliver action =>
    obtain rfl := Option.some.inj hrun
    exact h.keeps (keeps_memberAction h.engine action)
  | write faults w recovering =>
    simp only [ReplicaAction.run] at hrun
    split_ifs at hrun
    all_goals
      obtain rfl := Option.some.inj hrun
      refine h.write ?_
    · exact triple_startWriteLocked hacked h.engine.log faults w true
    · exact checks_checkNoPendingConfiguration.bind (.refl _ _) fun _ _ =>
        triple_startWriteLocked hacked h.engine.log faults w false
  | finishWrite =>
    obtain ⟨registered, hwriting, rfl⟩ := Option.map_eq_some_iff.1 hrun
    exact h.finishWrite hwriting
  | serve action =>
    simp only [ReplicaAction.run] at hrun
    split_ifs at hrun with hlock
    obtain rfl := Option.some.inj hrun
    exact h.serve hlock
  | begin d =>
    simp only [ReplicaAction.run] at hrun
    split_ifs at hrun with hfree
    simp only [not_or, not_not] at hfree
    split at hrun
    · rename_i agent hbegin
      obtain rfl := Option.some.inj hrun
      have ha := hfree.2
      exact h.begin ⟨ha.currentConfiguration, ha.previousConfiguration, ha.epoch, ha.localIdentity⟩
        (by simpa using hfree.1) hbegin
    · cases hrun
  | abandon =>
    obtain rfl := Option.some.inj hrun
    exact h.abandon
  | cancelWork =>
    simp only [ReplicaAction.run] at hrun
    split_ifs at hrun
    obtain rfl := Option.some.inj hrun
    exact h.keeps (steady_cancelConfigurationWork r.engine h.engine)
  | prepare hostGeneration =>
    simp only [ReplicaAction.run] at hrun
    split_ifs at hrun
    obtain ⟨⟨d, stage⟩, hexecute, hrun⟩ := Option.bind_eq_some_iff.1 hrun
    simp only at hrun
    split_ifs at hrun with hstage
    obtain rfl := Option.some.inj hrun
    exact h.prepare hostGeneration (hstage ▸ hexecute)
  | admitDurable =>
    simp only [ReplicaAction.run] at hrun
    split at hrun
    · obtain rfl := Option.some.inj hrun
      exact h.admitDurable ‹_›
    · cases hrun
  | commit =>
    simp only [ReplicaAction.run] at hrun
    split at hrun
    · split_ifs at hrun
      obtain rfl := Option.some.inj hrun
      exact h.commit ‹_›
    · cases hrun
  | refresh faults =>
    simp only [ReplicaAction.run] at hrun
    split_ifs at hrun with hidle
    obtain ⟨⟨d, stage⟩, hexecute, hrun⟩ := Option.bind_eq_some_iff.1 hrun
    simp only at hrun
    split_ifs at hrun with hstage
    obtain rfl := Option.some.inj hrun
    simp only [Replica.idle, Bool.and_eq_true, Option.isNone_iff_eq_none] at hidle
    exact h.refresh faults hidle.1 (hstage ▸ hexecute)
  | readProgress =>
    simp only [ReplicaAction.run] at hrun
    split at hrun
    · obtain rfl := Option.some.inj hrun
      exact h.readProgress ‹_›
    · cases hrun
  | execute =>
    simp only [ReplicaAction.run] at hrun
    split_ifs at hrun
    obtain ⟨⟨d, stage⟩, hexecute, hrun⟩ := Option.bind_eq_some_iff.1 hrun
    obtain ⟨x, hx, rfl⟩ := Option.map_eq_some_iff.1 hrun
    exact h.execute hexecute hx
  | complete =>
    simp only [ReplicaAction.run] at hrun
    split at hrun
    · obtain rfl := Option.some.inj hrun
      exact h.complete ‹_›
    · cases hrun
  | advance =>
    obtain ⟨d, hd, hrun⟩ := Option.bind_eq_some_iff.1 hrun
    obtain ⟨record, hrecord, hrun⟩ := Option.bind_eq_some_iff.1 hrun
    obtain ⟨outcome, houtcome, hrun⟩ := Option.bind_eq_some_iff.1 hrun
    split at hrun
    · obtain rfl := Option.some.inj hrun
      exact h.advance hd hrecord houtcome ‹_›
    · cases hrun
  | finish =>
    obtain ⟨d, hd, hrun⟩ := Option.bind_eq_some_iff.1 hrun
    split at hrun
    · obtain rfl := Option.some.inj hrun
      exact h.finish ‹_›
    · cases hrun
  | crash =>
    obtain rfl := Option.some.inj hrun
    exact h.crash
  | openEngine committed =>
    simp only [ReplicaAction.run] at hrun
    split_ifs at hrun
    obtain rfl := Option.some.inj hrun
    exact h.keeps (steady_openReplicator committed r.engine h.engine)
  | restore removal hostGeneration =>
    simp only [ReplicaAction.run] at hrun
    split_ifs at hrun
    obtain rfl := Option.some.inj hrun
    exact h.keeps (steady_restoreAuthority removal hostGeneration r.engine h.engine)

end Actions

/-! ## Runs -/

/-- A step of the host that is left out of the model: it does not touch the command in progress. -/
structure AgentState.Elsewhere (s s' : AgentState) : Prop where
  localIdentity : s'.localIdentity = s.localIdentity
  deactivation : s'.deactivation = s.deactivation
  reconfiguration : s'.reconfiguration = s.reconfiguration
  stageResult : s'.stageResult = s.stageResult

inductive Replica.Step : Replica σ → Replica σ → Prop
  | act {r r' : Replica σ} (action : ReplicaAction) (h : action.run r = some r') : Step r r'
  | engineElsewhere {r : Replica σ} {e : Engine σ} (h : r.engine.Elsewhere e) :
    Step r (r.withEngine e)
  | agentElsewhere {r : Replica σ} {s : AgentState} (h : r.agent.Elsewhere s) :
    Step r { r with agent := s }

section Runs

variable [LawfulDurableState σ] {promised : Epoch → Int → Prop} {r r' : Replica σ}

omit [LawfulDurableState σ] in
theorem replicaInv_new {storage : σ} (h : 0 ≤ appliedLsn storage) :
    ReplicaInv (fun _ _ => False) (.new identity storage) :=
  ⟨.new h, (fun _ _ hp => hp.elim), (fun _ hw => by cases hw), (fun _ hs => by cases hs),
    (fun _ hr => by cases hr), (fun _ _ hr => by cases hr), (fun _ hd => by cases hd),
    fun _ hw => by cases hw⟩

theorem replicaInv_step (h : ReplicaInv promised r) (hstep : r.Step r') : ReplicaInv promised r' := by
  cases hstep with
  | act action hrun => exact replicaInv_run h hrun
  | engineElsewhere he => exact h.keeps (he.steady h.engine)
  | agentElsewhere hs =>
    obtain ⟨hidentity, hdeactivation, hrecord, hresult⟩ := hs
    refine ⟨h.engine, h.promised, h.writing, ?_, ?_, ?_, ?_, ?_⟩
    · simp only [hdeactivation]
      exact h.deactivation
    · simp only [hrecord, hidentity]
      exact h.record
    · simp only [hrecord, hresult]
      exact h.result
    · simp only [hidentity]
      exact h.driven
    · simp only [hresult, Replica.record?, hrecord]
      exact h.work

theorem replicaInv_steps (h : ReplicaInv promised r)
    (hsteps : Relation.ReflTransGen Replica.Step r r') : ReplicaInv promised r' := by
  induction hsteps with
  | refl => exact h
  | tail _ hstep ih => exact replicaInv_step ih hstep

/-- The promise of a deactivation holds for every acknowledgement that the replica has issued when it
is recorded, and for every one that it issues later. -/
theorem acknowledgement_le_deactivatedLsn {storage : σ} (hstorage : 0 ≤ appliedLsn storage)
    (hrun : Relation.ReflTransGen Replica.Step (.new identity storage) r) {s : DeactivationState}
    (hs : r.agent.deactivation = some s) (hlater : Relation.ReflTransGen Replica.Step r r')
    {ack : ReplicationAck} (hack : ack ∈ r'.issued) (hepoch : ack.epoch < s.epoch) :
    ack.appliedLsn ≤ s.deactivatedLsn := by
  have hinv := replicaInv_steps (replicaInv_new hstorage) hrun
  have hkept : ReplicaInv (fun E D => E = s.epoch ∧ D = s.deactivatedLsn) r := by
    refine ⟨hinv.engine, ?_, hinv.writing, hinv.deactivation, hinv.record, hinv.result, hinv.driven,
      hinv.work⟩
    rintro _ _ ⟨rfl, rfl⟩
    exact hinv.deactivation s hs
  exact ((replicaInv_steps hkept hlater).promised _ _ ⟨rfl, rfl⟩).promise ack hack hepoch

end Runs

/-! ## A secondary across two epochs -/

namespace ReplicaAction

variable {r r' : Replica σ}

/-- The replica after a sequence of actions, if each is enabled in its turn. -/
def runAll (r : Replica σ) (actions : List ReplicaAction) : Option (Replica σ) :=
  actions.foldlM (fun r action => action.run r) r

theorem steps_of_runAll {actions : List ReplicaAction} (h : runAll r actions = some r') :
    Relation.ReflTransGen Replica.Step r r' := by
  induction actions generalizing r with
  | nil =>
    obtain rfl := Option.some.inj h
    exact .refl
  | cons action actions ih =>
    obtain ⟨r₁, hrun, h⟩ := Option.bind_eq_some_iff.1 h
    exact .head (.act action hrun) (ih h)

/-- A stage whose effect is one call. -/
def stage : List ReplicaAction := [execute, complete, advance]

def admission : List ReplicaAction := [prepare 0, admitDurable, commit, complete, advance]

def reading : List ReplicaAction := [refresh fun _ => none, readProgress, complete, advance]

end ReplicaAction

namespace TwoEpochs

def member : ReplicaIdentity := ⟨2, "b", "g"⟩

/-- The configuration of three replicas under the given primary. -/
def configuration (id : ConfigurationId) (epoch : Epoch) (primaryId : ReplicaId) :
    ConfigurationDescriptor :=
  let role := fun replicaId : ReplicaId =>
    if replicaId = primaryId then ReplicaRole.primary else .activeSecondary
  ⟨id, epoch, primaryId, [⟨⟨1, "a", "g"⟩, role 1⟩, ⟨member, role 2⟩, ⟨⟨3, "c", "g"⟩, role 3⟩], 2⟩

/-- A command to the member of that configuration, with the authority it is admitted as. -/
def driven (operationId : OperationId) (previous : Option ConfigurationDescriptor)
    (current : ConfigurationDescriptor) (kind : TransitionKind) : Driven where
  command :=
    { operationId := operationId
      previousConfiguration := previous
      currentConfiguration := current
      previousEpoch := previous.map (·.epoch)
      currentEpoch := current.epoch
      effectivePolicy := ⟨3, 2, 2, 30⟩
      previousPolicy := none
      secondaryRemovalEvidence := none
      scaleUpEvidence := none
      localReplicaId := 2
      expectedInstanceId := "b"
      expectedAgentGeneration := "g"
      transitionKind := kind
      failoverSafeLsn := none
      primaryWriteStatus := .reconfigurationPending
      currentOnly := false
      retireBuildIds := []
      switchoverHandoff := none
      retireSwitchoverPreparationIds := [] }
  authority := ⟨member, previous, current, none, none, none, .bootstrap⟩
  preserveAccess := false

def first : ConfigurationDescriptor := configuration "c1" ⟨0, 1⟩ 1

def second : ConfigurationDescriptor := configuration "c2" ⟨0, 2⟩ 3

def item : ReplicationItem := ⟨⟨1, "a", "g"⟩, member, ⟨0, 1⟩, none, "c1", 1, 0, [7]⟩

open ReplicaAction in
/-- The member is installed as a secondary of the first primary and acknowledges an operation; then
the primary fails, and the member deactivates for the epoch of the second one. -/
def actions : List ReplicaAction :=
  [openEngine 0, begin (driven "op1" none first .bootstrap)] ++ admission ++ stage ++ reading ++ stage ++
    stage ++ stage ++ stage ++ [finish] ++
    [deliver (.receive item), deliver .service, deliver .confirm, deliver .record, deliver .publish] ++
    [begin (driven "op2" (some first) second .failover)] ++ admission ++ stage ++ stage ++ stage ++
    reading ++ stage

/-- The member has acknowledged LSN 1 to the first primary, and promises no more than that. -/
theorem acknowledgement_le_deactivatedLsn_member : ∃ r : Replica LogStorage,
    ReplicaAction.runAll (.new member ⟨[], 0⟩) actions = some r ∧
      r.agent.deactivation = some ⟨⟨0, 2⟩, 1⟩ ∧ r.issued.map (·.appliedLsn) = [1] ∧
      ∀ ack ∈ r.issued, ack.epoch < ⟨0, 2⟩ → ack.appliedLsn ≤ 1 := by
  have hrun : ((ReplicaAction.runAll (.new member (⟨[], 0⟩ : LogStorage)) actions).map fun r =>
      (r.agent.deactivation, r.issued.map (·.appliedLsn))) = some (some ⟨⟨0, 2⟩, 1⟩, [1]) := by
    decide +kernel
  obtain ⟨r, hr, heq⟩ := Option.map_eq_some_iff.1 hrun
  obtain ⟨hdeactivation, hissued⟩ := Prod.mk.inj heq
  refine ⟨r, hr, hdeactivation, hissued, fun ack hack hepoch => ?_⟩
  exact acknowledgement_le_deactivatedLsn (by decide) (ReplicaAction.steps_of_runAll hr) hdeactivation
    .refl hack hepoch

end TwoEpochs

end Kuberic
