import Kuberic.Replicator.Completions
import Kuberic.Runtime.Admission
import Kuberic.Runtime.Member
import Kuberic.Runtime.Primary

/-!
# What an engine can still acknowledge

`EngineInv` bounds everything that an acknowledgement can be made from by what the storage holds: the
verified LSN of the authority, of the progress store, of a prepared configuration and of the delivery
in flight.  A delivery that is in flight also covers every acknowledgement issued before it, because
it holds the delivery lock.

`Fenced E` says that the engine is done with the epochs below `E`: its durable authority has an epoch
of at least `E`, and so does the delivery in flight.  `Keeps` is what every function of the engine
leaves of all this; an engine that is fenced stays fenced and issues no acknowledgement below `E`.
-/

namespace Kuberic

open Effect DurableState

variable {σ : Type} [DurableState σ]

/-! ## The invariant -/

/-- No acknowledgement of an epoch below `E` is above `D`. -/
def Promise (issued : List ReplicationAck) (E : Epoch) (D : Int) : Prop :=
  ∀ ack ∈ issued, ack.epoch < E → ack.appliedLsn ≤ D

def Floor (issued : List ReplicationAck) (D : Int) : Prop := ∀ ack ∈ issued, ack.appliedLsn ≤ D

theorem Floor.mono {issued : List ReplicationAck} {D D' : Int} (h : Floor issued D) (hle : D ≤ D') :
    Floor issued D' := fun ack hack => (h ack hack).trans hle

theorem Floor.promise {issued : List ReplicationAck} {D : Int} (h : Floor issued D) (E : Epoch) :
    Promise issued E D := fun ack hack _ => h ack hack

/-- The progress that a delivery has seen of the storage. -/
def Delivery.held (d : Delivery) : Int := match d.stage with
  | .enqueued _ | .present => d.applicationProgress.appliedLsn
  | .applied ack | .confirmed ack | .recorded ack => ack.appliedLsn

/-- The item of the delivery is in the storage, or it is the next one. -/
def Delivery.Fits (d : Delivery) : Prop := match d.stage with
  | .enqueued _ => d.envelope.lsn = d.applicationProgress.appliedLsn + 1
  | _ => d.envelope.lsn ≤ d.held

structure DeliveryHolds (issued : List ReplicationAck) (s : σ) (d : Delivery) : Prop where
  verified : d.replicationProgress.verifiedLsn ≤ d.held
  fits : d.Fits
  stored : d.held ≤ appliedLsn s
  acks : Floor issued d.held

/-- What the invariant reads of an engine besides its log. -/
structure EngineCore (σ : Type) where
  identity : ReplicaIdentity
  storage : σ
  configuration : Option ManagedReplicaConfiguration
  progressStore : AssocMap AuthorityFence Int
  buildStore : AssocMap OperationId BuildProgress
  builds : AssocMap OperationId BuildProgress
  pendingConfiguration : Option PendingManagedConfiguration
  replicationProgress : Option ReplicationProgress
  currentProgress : Int
  delivery : Option Delivery

def Engine.core (e : Engine σ) : EngineCore σ :=
  ⟨e.identity, e.storage, e.configuration, e.progressStore, e.buildStore, e.builds,
    e.pendingConfiguration, e.replicationProgress, e.currentProgress, e.delivery⟩

structure EngineInv (issued : List ReplicationAck) (e : Engine σ) : Prop where
  bounded : Bounded e
  log : e.log.quorum.authority = e.log.authority
  builds : ∀ b ∈ e.builds.values, b.authority.target = e.identity →
    b.durableLsn ≤ appliedLsn e.storage
  buildStore : ∀ b ∈ e.buildStore.values, b.authority.target = e.identity →
    b.durableLsn ≤ appliedLsn e.storage
  pending : ∀ p, e.pendingConfiguration = some p →
    e.delivery = none ∧ p.replicationProgress.verifiedLsn ≤ appliedLsn e.storage
  delivery : ∀ d, e.delivery = some d → DeliveryHolds issued e.storage d
  acks : Floor issued (appliedLsn e.storage)
  nonneg : 0 ≤ appliedLsn e.storage

/-- The engine is done with the epochs below `E`. -/
structure Fenced (E : Epoch) (e : Engine σ) : Prop where
  configuration : ∃ a, e.configuration = some a ∧ E ≤ a.epoch
  delivery : ∀ d, e.delivery = some d → E ≤ d.envelope.epoch

/-! ## What a step leaves -/

structure Moves (issued issued' : List ReplicationAck) (e e' : Engine σ) : Prop where
  inv : EngineInv issued' e'
  configuration : e'.configuration = e.configuration
  storage : appliedLsn e.storage ≤ appliedLsn e'.storage
  /-- A delivery has the epoch of the one before it, or of the durable authority. -/
  delivery : ∀ d', e'.delivery = some d' →
    (∃ d, e.delivery = some d ∧ d.envelope.epoch = d'.envelope.epoch) ∨
      ∃ a, e.configuration = some a ∧ a.epoch = d'.envelope.epoch
  /-- An acknowledgement comes from the delivery in flight. -/
  acks : ∀ ack ∈ issued', ack ∈ issued ∨ ∃ d, e.delivery = some d ∧ d.envelope.epoch = ack.epoch

structure Keeps (issued issued' : List ReplicationAck) (e e' : Engine σ) : Prop
    extends Moves issued issued' e e' where
  /-- The published progress does not drop below an acknowledgement. -/
  current : e.currentProgress ≤ e'.currentProgress ∨ Floor issued e'.currentProgress

section Moves

variable {issued issued' : List ReplicationAck} {e e' : Engine σ} {E : Epoch} {D : Int}

theorem Moves.fenced (h : Moves issued issued' e e') (hf : Fenced E e) : Fenced E e' where
  configuration := h.configuration ▸ hf.configuration
  delivery d' hd' := by
    obtain ⟨d, hd, hepoch⟩ | ⟨a, ha, hepoch⟩ := h.delivery d' hd'
    · exact hepoch ▸ hf.delivery d hd
    · obtain ⟨a', ha', hle⟩ := hf.configuration
      obtain rfl := Option.some.inj (ha.symm.trans ha')
      exact hepoch ▸ hle

theorem Moves.promise (h : Moves issued issued' e e') (hf : Fenced E e) (hp : Promise issued E D) :
    Promise issued' E D := by
  intro ack hack hlt
  obtain hold | ⟨d, hd, hepoch⟩ := h.acks ack hack
  · exact hp ack hold hlt
  · exact absurd hlt (not_lt.2 (hepoch ▸ hf.delivery d hd))

theorem Keeps.refl (h : EngineInv issued e) : Keeps issued issued e e where
  inv := h
  configuration := rfl
  storage := le_refl _
  delivery d hd := .inl ⟨d, hd, rfl⟩
  acks _ hack := .inl hack
  current := .inl (le_refl _)

end Moves

/-- A function of the engine that issues no acknowledgement. -/
def Steady (issued : List ReplicationAck) (e e' : Engine σ) : Prop :=
  EngineInv issued e → Keeps issued issued e e'

section Steady

variable {issued : List ReplicationAck} {e e' : Engine σ}

theorem Keeps.trans {e'' : Engine σ} (h : Keeps issued issued e e')
    (h' : Keeps issued issued e' e'') : Keeps issued issued e e'' where
  inv := h'.inv
  configuration := h'.configuration.trans h.configuration
  storage := h.storage.trans h'.storage
  delivery d'' hd'' := by
    obtain ⟨d', hd', hepoch⟩ | ⟨a, ha, hepoch⟩ := h'.delivery d'' hd''
    · rw [← hepoch]
      exact h.delivery d' hd'
    · exact .inr ⟨a, h.configuration ▸ ha, hepoch⟩
  acks _ hack := .inl hack
  current := by
    obtain hle' | hfloor := h'.current
    · obtain hle | hfloor := h.current
      · exact .inl (hle.trans hle')
      · exact .inr (hfloor.mono hle')
    · exact .inr hfloor

theorem stepwise_steady : Stepwise (Steady issued : Engine σ → Engine σ → Prop) where
  refl _ h := .refl h
  trans h h' hinv := (h hinv).trans (h' (h hinv).inv)

theorem EngineInv.of_core (h : EngineInv issued e) (hc : e'.core = e.core)
    (hlog : e'.log.quorum.authority = e'.log.authority) : EngineInv issued e' := by
  have hi : e'.identity = e.identity := congrArg EngineCore.identity hc
  have hs : e'.storage = e.storage := congrArg EngineCore.storage hc
  have hst : e'.progressStore = e.progressStore := congrArg EngineCore.progressStore hc
  have hbs : e'.buildStore = e.buildStore := congrArg EngineCore.buildStore hc
  have hb : e'.builds = e.builds := congrArg EngineCore.builds hc
  have hp : e'.pendingConfiguration = e.pendingConfiguration :=
    congrArg EngineCore.pendingConfiguration hc
  have hr : e'.replicationProgress = e.replicationProgress :=
    congrArg EngineCore.replicationProgress hc
  have hcur : e'.currentProgress = e.currentProgress := congrArg EngineCore.currentProgress hc
  have hd : e'.delivery = e.delivery := congrArg EngineCore.delivery hc
  refine ⟨⟨?_, ?_, ?_⟩, hlog, ?_, ?_, ?_, ?_, ?_, ?_⟩
  · rw [hr, hs]
    exact h.bounded.progress
  · rw [hst, hs]
    exact h.bounded.store
  · rw [hcur, hs]
    exact h.bounded.current
  · rw [hb, hi, hs]
    exact h.builds
  · rw [hbs, hi, hs]
    exact h.buildStore
  · rw [hp, hd, hs]
    exact h.pending
  · rw [hd, hs]
    exact h.delivery
  · rw [hs]
    exact h.acks
  · rw [hs]
    exact h.nonneg

theorem steady_of_core (hc : e'.core = e.core)
    (hlog : e.log.quorum.authority = e.log.authority →
      e'.log.quorum.authority = e'.log.authority) : Steady issued e e' := by
  intro h
  refine ⟨⟨h.of_core hc (hlog h.log), congrArg EngineCore.configuration hc, ?_, ?_, ?_⟩, ?_⟩
  · rw [show e'.storage = e.storage from congrArg EngineCore.storage hc]
  · rw [show e'.delivery = e.delivery from congrArg EngineCore.delivery hc]
    exact fun d hd => .inl ⟨d, hd, rfl⟩
  · exact fun _ hack => .inl hack
  · exact .inl (le_of_eq (congrArg EngineCore.currentProgress hc).symm)

theorem steady_log (op : LogOp) (hreg : ¬ op.IsRegistration) :
    Steady issued e { e with log := op.apply e.log } :=
  steady_of_core rfl fun h => LogOp.quorumAuthority_apply op hreg h

theorem DeliveryHolds.grows {s s' : σ} {d : Delivery} (h : DeliveryHolds issued s d)
    (hs : appliedLsn s ≤ appliedLsn s') : DeliveryHolds issued s' d :=
  ⟨h.verified, h.fits, h.stored.trans hs, h.acks⟩

end Steady

/-! ## The primary's path -/

section Primary

variable [LawfulDurableState σ] {issued : List ReplicationAck} {e e' : Engine σ}
  {acked : ReplicaIdentity → Int → Prop}

theorem Carries.moves (h : Carries acked e e') (hinv : EngineInv issued e) :
    Moves issued issued e e' := by
  have hs := h.storage.applied
  have hd : e'.delivery = e.delivery := congrArg EngineFixed.delivery h.fixed
  refine ⟨⟨h.bounded hinv.bounded, ?_, ?_, ?_, ?_, ?_, hinv.acks.mono hs, hinv.nonneg.trans hs⟩,
    congrArg EngineFixed.configuration h.fixed, hs, ?_, fun _ hack => .inl hack⟩
  · rw [h.quorumAuthority, h.logAuthority, hinv.log]
  · rw [show e'.builds = e.builds from congrArg EngineFixed.builds h.fixed, h.identity]
    exact fun b hb ht => (hinv.builds b hb ht).trans hs
  · rw [show e'.buildStore = e.buildStore from congrArg EngineFixed.buildStore h.fixed, h.identity]
    exact fun b hb ht => (hinv.buildStore b hb ht).trans hs
  · rw [show e'.pendingConfiguration = e.pendingConfiguration from
      congrArg EngineFixed.pendingConfiguration h.fixed, hd]
    exact fun p hp => ⟨(hinv.pending p hp).1, (hinv.pending p hp).2.trans hs⟩
  · rw [hd]
    exact fun d hd => (hinv.delivery d hd).grows hs
  · rw [hd]
    exact fun d hd => .inl ⟨d, hd, rfl⟩

theorem Advances.steady (h : Advances acked e e') : Steady issued e e' :=
  fun hinv => ⟨h.toCarries.moves hinv, .inl h.current⟩

end Primary

/-! ## Roles, epochs and access -/

section Control

variable {issued : List ReplicationAck}

theorem steady_controlChangeRole (epoch : Epoch) (role : ReplicaRole) :
    Along (Steady issued) (controlChangeRole epoch role : EngineM σ Unit) := by
  have hR := @stepwise_steady σ _ issued
  refine hR.bind (hR.reads reads_checkAborted) fun _ => hR.bind (hR.reads reads_lockDelivery) fun _ => ?_
  refine hR.bind (along_update fun e => steady_of_core rfl fun h => h) fun _ => ?_
  refine hR.bind (along_zoom fun e => steady_log (.changeRole epoch role) id) fun _ => ?_
  exact along_update fun e => steady_of_core rfl fun h => h

theorem steady_controlUpdateEpoch (epoch : Epoch) :
    Along (Steady issued) (controlUpdateEpoch epoch : EngineM σ Unit) := by
  have hR := @stepwise_steady σ _ issued
  refine hR.bind (hR.reads reads_checkAborted) fun _ => hR.bind (hR.reads reads_lockDelivery) fun _ => ?_
  refine hR.bind (along_update fun e => steady_of_core rfl fun h => h) fun _ => ?_
  refine hR.bind hR.observe fun _ => hR.bind (hR.require _ _) fun _ => ?_
  refine hR.bind (along_update fun e => steady_of_core rfl fun h => h) fun _ => ?_
  exact along_zoom fun e => steady_log (.updateEpoch epoch) id

theorem steady_configureReplicas (current : ConfigurationDescriptor)
    (previous : Option ConfigurationDescriptor) :
    Along (Steady issued) (configureReplicas current previous : EngineM σ Unit) := by
  have hR := @stepwise_steady σ _ issued
  refine hR.bind (hR.reads reads_checkAborted) fun _ => hR.bind hR.observe fun _ => ?_
  refine hR.bind (hR.demand _ _) fun a => hR.bind (hR.require _ _) fun _ => ?_
  refine hR.bind (hR.require _ _) fun _ => along_update fun e => ?_
  exact steady_log (.admitPreparedAuthority a e.currentProgress false) id

theorem steady_checkCatchUpQuorum : Along (Steady issued) (checkCatchUpQuorum : EngineM σ Unit) := by
  have hR := @stepwise_steady σ _ issued
  refine hR.bind (hR.reads (reads_of_checks fun _ => checks_requirePrimary)) fun _ => ?_
  refine hR.bind hR.observe fun _ => hR.bind (hR.demand _ _) fun _ => ?_
  exact hR.bind (hR.require _ _) fun _ => hR.require _ _

theorem steady_publishAccess (p : ManagedAccessPreparation) :
    Along (Steady issued) (publishAccess p : EngineM σ Unit) := by
  have hR := @stepwise_steady σ _ issued
  refine hR.bind (hR.reads reads_lockDelivery) fun _ => hR.bind (hR.reads reads_checkAborted) fun _ => ?_
  refine hR.bind hR.observe fun _ => hR.bind (hR.require _ _) fun _ => ?_
  refine hR.bind (hR.require _ _) fun _ => along_update fun e => steady_of_core rfl fun h => ?_
  show (if p.write = .granted then e.log else e.log.fenceClientWrites).quorum.authority =
    (if p.write = .granted then e.log else e.log.fenceClientWrites).authority
  split_ifs <;> exact h

theorem steady_settlePrimaryPrefix [LawfulDurableState σ] :
    Along (Steady issued) (settlePrimaryPrefix : EngineM σ Unit) := by
  have hR := @stepwise_steady σ _ issued
  refine hR.bind (hR.reads reads_lockDelivery) fun _ => hR.bind (hR.reads reads_checkAborted) fun _ => ?_
  refine hR.bind hR.observe fun _ => hR.bind (hR.require _ _) fun _ => ?_
  refine hR.bind (hR.ofExcept _) fun _ => hR.bind (hR.require _ _) fun _ => ?_
  refine hR.bind ((along_commitStorage _ : Along (Advances fun _ _ => True) _).mono
    fun h => h.steady) fun _ => ?_
  refine hR.bind (hR.require _ _) fun _ => along_update fun e => ?_
  exact steady_of_core rfl fun h => LogOp.quorumAuthority_apply (.restoreCommittedPrefix _) id h

end Control

/-! ## Admission -/

section Admission

variable {issued : List ReplicationAck} {e : Engine σ} {a : ManagedReplicaConfiguration} {v : Int}

theorem raiseTo_le {B lsn : Int} {handoff : Option Int} (h : lsn ≤ B)
    (hhandoff : ∀ v, handoff = some v → v ≤ B) : raiseTo lsn handoff ≤ B := by
  cases handoff with
  | none => exact h
  | some v => exact max_le h (hhandoff v rfl)

omit [DurableState σ] in
theorem mem_progressStore_of_configurationProgress {epoch : Epoch} {id : ConfigurationId}
    (h : e.configurationProgress epoch id = some v) : ∃ f, e.progressStore.get? f = some v := by
  have hmem := List.max?_mem h
  obtain ⟨⟨f, w⟩, hentry, rfl⟩ := List.mem_map.1 hmem
  exact ⟨f, (AssocMap.get?_eq_some_iff _ _ _).2 (List.mem_filter.1 hentry).1⟩

theorem configurationProgress_le (h : EngineInv issued e) {epoch : Epoch} {id : ConfigurationId}
    (hv : e.configurationProgress epoch id = some v) : v ≤ appliedLsn e.storage := by
  obtain ⟨f, hf⟩ := mem_progressStore_of_configurationProgress hv
  exact h.bounded.store f v hf

theorem progressStore_getD_le (h : EngineInv issued e) (f : AuthorityFence) :
    (e.progressStore.get? f).getD 0 ≤ appliedLsn e.storage := by
  cases hv : e.progressStore.get? f with
  | none => exact h.nonneg
  | some v => exact h.bounded.store f v hv

theorem scaleUpHandoffLsn_le (h : EngineInv issued e) (hv : e.scaleUpHandoffLsn a = some v) :
    v ≤ appliedLsn e.storage := by
  obtain ⟨evidence, -, hv⟩ := Option.bind_eq_some_iff.1 hv
  simp only at hv
  split_ifs at hv with htarget
  obtain ⟨build, hbuild, hv⟩ := Option.bind_eq_some_iff.1 hv
  split_ifs at hv with hmatch
  obtain rfl := Option.some.inj hv
  have hbuild' := (AssocMap.mem_values_iff _ _).2 ⟨_, hbuild⟩
  refine hmatch.2.2.2.2.2.2.trans (h.buildStore build hbuild' ?_)
  rw [hmatch.2.2.1, not_not.1 htarget]

theorem currentOnlyHandoffLsn_le (h : EngineInv issued e)
    (hv : e.currentOnlyHandoffLsn a = some v) : v ≤ appliedLsn e.storage := by
  unfold Engine.currentOnlyHandoffLsn at hv
  split_ifs at hv
  exact configurationProgress_le h hv

theorem samePrimaryHandoffLsn_le (h : EngineInv issued e)
    (hv : e.samePrimaryHandoffLsn a = some v) : v ≤ appliedLsn e.storage := by
  obtain ⟨previous, -, hv⟩ := Option.bind_eq_some_iff.1 hv
  simp only at hv
  split_ifs at hv
  exact h.bounded.store _ v hv

theorem switchoverHandoffLsn_le (h : EngineInv issued e)
    (hv : e.switchoverHandoffLsn a = .ok (some v)) : v ≤ appliedLsn e.storage := by
  unfold Engine.switchoverHandoffLsn at hv
  cases hs : a.switchoverHandoff with
  | none =>
    rw [hs] at hv
    cases hv
  | some handoff =>
    rw [hs] at hv
    simp only at hv
    split_ifs at hv with _ hsource
    · obtain rfl := Option.some.inj (Except.ok.inj hv)
      exact (min_le_left _ _).trans h.bounded.current
    · obtain rfl := Option.some.inj (Except.ok.inj hv)
      refine (min_le_left _ _).trans (max_le (progressStore_getD_le h _) ?_)
      cases hc : e.configurationProgress handoff.startingEpoch handoff.startingConfigurationId with
      | none => exact h.nonneg
      | some w => exact configurationProgress_le h hc

theorem completedBuildHandoffLsn_eq {progress : BuildProgress}
    (hv : completedBuildHandoffLsn progress a = some v) : progress.durableLsn = v := by
  unfold completedBuildHandoffLsn at hv
  simp only at hv
  split_ifs at hv <;> exact Option.some.inj hv

theorem buildHandoffLsn_le (h : EngineInv issued e) (hv : e.buildHandoffLsn a = some v) :
    v ≤ appliedLsn e.storage := by
  obtain ⟨build, hbuild, hv⟩ := List.mem_filterMap.1 (List.max?_mem hv)
  obtain ⟨hmem, htarget⟩ := List.mem_filter.1 hbuild
  rw [← completedBuildHandoffLsn_eq hv]
  exact h.builds build hmem (by simpa using htarget)

/-- What is carried over to an authority is in the storage. -/
theorem triple_loadReplicationProgressWithHandoff (h : EngineInv issued e) :
    Triple (· = e) (loadReplicationProgressWithHandoff a)
      (fun p s => p.verifiedLsn ≤ appliedLsn e.storage ∧
        s = { e with progressStore := e.progressStore.insert p.fence p.verifiedLsn })
      (· = e) := by
  refine checks_observe.bind rfl ?_
  rintro _ rfl
  refine checks_ofExcept.bind rfl fun switchover hswitchover => ?_
  refine checks_require.bind rfl fun _ _ => ?_
  refine triple_recordReplicationProgress.bind fun _ => triple_pure ?_
  rintro _ rfl
  refine ⟨?_, rfl⟩
  simp only [List.foldl_cons, List.foldl_nil]
  refine raiseTo_le (raiseTo_le (raiseTo_le (raiseTo_le (raiseTo_le ?_ ?_) ?_) ?_) ?_) ?_
  · exact progressStore_getD_le h _
  · exact fun v hv => scaleUpHandoffLsn_le h hv
  · exact fun v hv => currentOnlyHandoffLsn_le h hv
  · exact fun v hv => samePrimaryHandoffLsn_le h hv
  · rintro v rfl
    exact switchoverHandoffLsn_le h hswitchover
  · exact fun v hv => buildHandoffLsn_le h hv

theorem EngineInv.recordProgress (h : EngineInv issued e) (f : AuthorityFence)
    (hv : v ≤ appliedLsn e.storage) :
    EngineInv issued { e with progressStore := e.progressStore.insert f v } := by
  refine ⟨⟨h.bounded.progress, fun f' v' hv' => ?_, h.bounded.current⟩, h.log, h.builds,
    h.buildStore, h.pending, h.delivery, h.acks, h.nonneg⟩
  rw [AssocMap.get?_insert] at hv'
  split_ifs at hv'
  · obtain rfl := Option.some.inj hv'
    exact hv
  · exact h.bounded.store f' v' hv'

omit [DurableState σ] in
theorem core_fenceForConfiguration (e : Engine σ) (changed preserve : Bool) :
    (e.fenceForConfiguration changed preserve).core = e.core := by
  unfold Engine.fenceForConfiguration
  split_ifs <;> rfl

theorem steady_fenceForConfiguration {changed preserve : Bool} :
    Steady issued e (e.fenceForConfiguration changed preserve) := by
  refine steady_of_core (core_fenceForConfiguration e changed preserve) fun h => ?_
  unfold Engine.fenceForConfiguration
  split_ifs <;> exact h

theorem EngineInv.setPending (h : EngineInv issued e) (hfree : e.delivery = none)
    {p : PendingManagedConfiguration} (hv : p.replicationProgress.verifiedLsn ≤ appliedLsn e.storage) :
    EngineInv issued { e with pendingConfiguration := some p } := by
  refine ⟨⟨h.bounded.progress, h.bounded.store, h.bounded.current⟩, h.log, h.builds, h.buildStore,
    fun q hq => ?_, h.delivery, h.acks, h.nonneg⟩
  obtain rfl := Option.some.inj hq
  exact ⟨hfree, hv⟩

theorem EngineInv.clearPending (h : EngineInv issued e) :
    EngineInv issued { e with pendingConfiguration := none } :=
  ⟨⟨h.bounded.progress, h.bounded.store, h.bounded.current⟩, h.log, h.builds, h.buildStore,
    (fun q hq => by cases hq), h.delivery, h.acks, h.nonneg⟩

theorem Keeps.of_inv {e' : Engine σ} (h : EngineInv issued e') (hc : e'.configuration = e.configuration)
    (hs : e'.storage = e.storage) (hcur : e'.currentProgress = e.currentProgress)
    (hd : e'.delivery = e.delivery) : Keeps issued issued e e' := by
  refine ⟨⟨h, hc, by rw [hs], ?_, fun _ hack => .inl hack⟩, .inl hcur.ge⟩
  rw [hd]
  exact fun d hd => .inl ⟨d, hd, rfl⟩

theorem triple_prepareReplicaConfiguration (h : EngineInv issued e)
    (hostGeneration : Nat) (recovering : Bool) :
    Triple (· = e) (prepareReplicaConfiguration a hostGeneration recovering)
      (fun p s => p.configuration = a ∧ Keeps issued issued e s) (Keeps issued issued e) := by
  have h₀ : Keeps issued issued e e := .refl h
  refine checks_lockDelivery.bind h₀ fun _ hfree => checks_checkAborted.bind h₀ fun _ _ => ?_
  refine (checks_validateManagedConfigurationCandidate a recovering e).bind h₀ fun _ _ => ?_
  refine checks_observe.bind h₀ ?_
  rintro e rfl
  refine checks_require.bind h₀ fun _ _ => checks_require.bind h₀ fun _ _ => ?_
  refine ((triple_loadReplicationProgressWithHandoff h).error fun _ h => h ▸ h₀).bind fun progress => ?_
  -- from here on only the fence and the pending configuration change
  refine triple_update_bind (I := fun s => Keeps issued issued e s ∧ s.delivery = none ∧
    progress.verifiedLsn ≤ appliedLsn s.storage) ?_ ?_
  · rintro s ⟨hv, rfl⟩
    have hload : Keeps issued issued e
        { e with progressStore := e.progressStore.insert progress.fence progress.verifiedLsn } :=
      .of_inv (h.recordProgress progress.fence hv) rfl rfl rfl rfl
    refine ⟨hload.trans (steady_fenceForConfiguration hload.inv), ?_, ?_⟩
    · exact (congrArg EngineCore.delivery (core_fenceForConfiguration _ _ _)).trans hfree
    · exact hv.trans (steady_fenceForConfiguration hload.inv).storage
  · refine triple_observe_bind fun s hs => triple_update_bind (I := Keeps issued issued e) ?_ ?_
    · rintro _ rfl
      exact hs.1.trans (.of_inv (hs.1.inv.setPending hs.2.1 hs.2.2) rfl rfl rfl rfl)
    · exact triple_pure fun _ hkeep => ⟨rfl, hkeep⟩

omit [DurableState σ] in
theorem triple_admitDurably :
    Triple (· = e) (admitDurably a)
      (fun _ s => s = { e with configuration := some a } ∧
        ∀ existing, e.configuration = some existing → existing.epoch ≤ a.epoch)
      (· = e) := by
  refine checks_ofExcept.bind rfl fun _ _ => checks_observe.bind rfl ?_
  rintro e rfl
  refine checks_require.bind rfl fun _ _ => checks_require.bind rfl fun _ hepoch => ?_
  refine checks_require.bind rfl fun _ _ => triple_update ?_
  rintro _ rfl
  refine ⟨rfl, fun existing hexisting => ?_⟩
  rw [hexisting] at hepoch
  by_cases hsame : existing = a
  · rw [hsame]
  · simpa [hsame] using hepoch

omit [DurableState σ] in
theorem logAuthority_admitInLog (log : ReplicationLog) (p : PendingManagedConfiguration) :
    (admitInLog log p).quorum.authority = (admitInLog log p).authority := by
  unfold admitInLog
  simp only
  split_ifs
  · generalize hlog : log.admitPreparedAuthority p.configuration p.currentProgress p.preserveAccess
      = admitted
    have h : admitted.quorum.authority = admitted.authority := by
      rw [← hlog]
      rfl
    clear hlog
    induction p.completedBuilds generalizing admitted with
    | nil => exact h
    | cons build rest ih =>
      exact ih _ (LogOp.quorumAuthority_apply
        (.recordPreparedBuildHandoffProgress build.1 build.2) id h)
  · rfl

theorem steady_configureAdmittedAuthority (p : PendingManagedConfiguration) :
    Along (Steady issued) (configureAdmittedAuthority p : EngineM σ Unit) := by
  have hR := @stepwise_steady σ _ issued
  refine hR.bind (along_update fun e => ?_) fun _ => hR.onlyIf _ (steady_configureReplicas _ _)
  exact steady_of_core rfl fun _ => logAuthority_admitInLog e.log p

theorem steady_fenceInstalled (p : PendingManagedConfiguration) (e : Engine σ) :
    Steady issued e (e.fenceInstalled p) := by
  refine steady_of_core ?_ fun h => ?_
  · unfold Engine.fenceInstalled
    simp only
    split_ifs <;> rfl
  · unfold Engine.fenceInstalled
    simp only
    split_ifs <;> exact h

theorem steady_installed {p : PendingManagedConfiguration}
    (hv : p.replicationProgress.verifiedLsn ≤ appliedLsn e.storage) :
    Steady issued e (e.installed p) := by
  intro h
  refine .of_inv ⟨⟨?_, h.bounded.store, h.bounded.current⟩, ?_, h.builds, h.buildStore, h.pending,
    h.delivery, h.acks, h.nonneg⟩ rfl rfl rfl rfl
  · rintro r ⟨⟩
    exact hv
  · exact LogOp.quorumAuthority_apply (.recordVerifiedLocalProgress _) id h.log

/-- The engine covers the LSN, and is in order. -/
def InOrder (issued : List ReplicationAck) (v : Int) (e : Engine σ) : Prop :=
  EngineInv issued e ∧ v ≤ appliedLsn e.storage

theorem InOrder.steady {e' : Engine σ} (h : Steady issued e e') (he : InOrder issued v e) :
    InOrder issued v e' :=
  ⟨(h he.1).inv, he.2.trans (h he.1).storage⟩

/-- A commit needs a pending configuration, so that no delivery is in flight. -/
theorem triple_commitReplicaConfiguration (h : EngineInv issued e)
    (preparation : ManagedConfigurationPreparation) :
    Triple (· = e) (commitReplicaConfiguration preparation)
      (fun _ s => e.delivery = none ∧ Keeps issued issued e s) (Keeps issued issued e) := by
  have hR := @stepwise_steady σ _ issued
  have h₀ : Keeps issued issued e e := .refl h
  refine checks_checkAborted.bind h₀ fun _ _ => checks_observe.bind h₀ ?_
  rintro e rfl
  refine checks_demand.bind h₀ fun p hp => checks_require.bind h₀ fun _ _ => ?_
  obtain ⟨hfree, hv⟩ := h.pending p hp
  -- the progress that is installed was covered at the preparation, and still is
  have hinstall : Triple (fun s => Steady issued e s ∧
      InOrder issued p.replicationProgress.verifiedLsn s) (installManagedConfiguration p)
      (fun _ s => Steady issued e s ∧ InOrder issued p.replicationProgress.verifiedLsn s)
      (Steady issued e) := by
    refine Triple.bind (hR.triple (along_update (steady_fenceInstalled p)) InOrder.steady e) fun _ => ?_
    refine Triple.bind (hR.triple (hR.onlyIf _ (steady_controlUpdateEpoch _)) InOrder.steady e)
      fun _ => ?_
    refine Triple.bind (hR.triple (steady_configureAdmittedAuthority p) InOrder.steady e) fun _ => ?_
    exact hR.triple_of (fun s hs => steady_installed hs.2) InOrder.steady e
  refine Triple.bind (R := fun _ s => Steady issued e s ∧
    InOrder issued p.replicationProgress.verifiedLsn s) (hinstall.weaken ?_ (fun _ _ h => h) ?_)
    fun _ => triple_update ?_
  · rintro _ rfl
    exact ⟨hR.refl _, h, hv⟩
  · exact fun s hs => hs h
  · rintro s ⟨hs, hinv, -⟩
    refine ⟨hfree, (hs h).trans (.of_inv ?_ rfl rfl rfl rfl)⟩
    exact hinv.clearPending.of_core rfl hinv.log

theorem steady_cancelConfigurationWork :
    Along (Steady issued) (cancelConfigurationWork : EngineM σ Unit) := by
  have hR := @stepwise_steady σ _ issued
  refine hR.bind (hR.reads reads_checkAborted) fun _ => hR.bind (hR.reads reads_lockDelivery) fun _ => ?_
  exact along_update fun e h => .of_inv (h.clearPending.of_core rfl h.log) rfl rfl rfl rfl

theorem steady_dropPreparation (preparation : ManagedConfigurationPreparation) :
    Steady issued e (e.dropPreparation preparation) := by
  intro h
  unfold Engine.dropPreparation
  match hp : e.pendingConfiguration with
  | none => exact .refl h
  | some p =>
    simp only
    split_ifs
    · refine .of_inv ⟨⟨h.bounded.progress, h.bounded.store, h.bounded.current⟩, h.log, h.builds,
        h.buildStore, ?_, h.delivery, h.acks, h.nonneg⟩ rfl rfl rfl rfl
      rintro q ⟨⟩
      exact h.pending p hp
    · exact .refl h

theorem steady_restoreRemoval (removal : StoredRemoval) :
    Steady issued e (e.restoreRemoval removal a) := steady_of_core rfl fun h => h

theorem steady_restoreAuthority (removal : StoredRemoval) (hostGeneration : Nat) :
    Along (Steady issued) (restoreAuthority removal hostGeneration : EngineM σ Unit) := by
  have hR := @stepwise_steady σ _ issued
  refine hR.bind hR.observe fun e => ?_
  match e.configuration with
  | none => exact along_update fun e => steady_of_core rfl fun h => h
  | some a =>
    refine hR.bind (along_update fun e => steady_restoreRemoval removal) fun _ => ?_
    refine hR.bind (fun s h => ?_) fun p s h => ?_
    · exact (triple_prepareReplicaConfiguration h hostGeneration true).holds (fun _ _ h => h.2)
        (fun _ h => h) s rfl
    · exact (triple_commitReplicaConfiguration h p).holds (fun _ _ h => h.2) (fun _ h => h) s rfl

theorem steady_authorizeFailoverPrefix (safeLsn : Int) :
    Along (Steady issued) (authorizeFailoverPrefix safeLsn : EngineM σ Unit) := by
  intro e h
  have h₀ : Keeps issued issued e e := .refl h
  refine run_of_triple ?_
  refine checks_checkNoPendingConfiguration.bind h₀ fun _ _ => ?_
  refine checks_checkAborted.bind h₀ fun _ _ => checks_observe.bind h₀ ?_
  rintro e rfl
  refine checks_require.bind h₀ fun _ _ => checks_require.bind h₀ fun _ _ => ?_
  refine checks_demand.bind h₀ fun a _ => checks_demand.bind h₀ fun progress hprogress => ?_
  refine checks_require.bind h₀ fun _ _ => ?_
  have hv : max progress.verifiedLsn (min (appliedLsn e.storage) safeLsn) ≤ appliedLsn e.storage :=
    max_le (h.bounded.progress progress hprogress) (min_le_left _ _)
  refine Triple.bind (triple_recordReplicationProgress.error fun _ h => h ▸ h₀) fun _ => triple_update ?_
  rintro _ rfl
  have hstored := h.recordProgress progress.fence hv
  refine .of_inv ⟨⟨?_, hstored.bounded.store, h.bounded.current⟩, h.log, h.builds, h.buildStore,
    h.pending, h.delivery, h.acks, h.nonneg⟩ rfl rfl rfl rfl
  rintro r ⟨⟩
  exact hv

theorem steady_completeOpen : Along (Steady issued) (completeOpen : EngineM σ Unit) := by
  refine along_update fun e h => ⟨⟨⟨⟨h.bounded.progress, h.bounded.store, le_refl _⟩, h.log, h.builds,
    h.buildStore, h.pending, h.delivery, h.acks, h.nonneg⟩, rfl, le_refl _, ?_, ?_⟩, .inr h.acks⟩
  · exact fun d hd => .inl ⟨d, hd, rfl⟩
  · exact fun _ hack => .inl hack

theorem steady_openReplicator (committed : Int) :
    Along (Steady issued) (openReplicator committed : EngineM σ Unit) := by
  have hR := @stepwise_steady σ _ issued
  refine hR.bind (hR.bind (hR.reads reads_checkAborted) fun _ => hR.bind hR.observe fun _ => ?_)
    fun _ => steady_completeOpen
  exact hR.bind (hR.require _ _) fun _ => along_zoom fun e => steady_log .openLog id

end Admission

/-! ## The refresh of the published progress -/

section Refresh

variable [LawfulDurableState σ] {issued : List ReplicationAck} {e : Engine σ}

theorem triple_refreshApplicationProgress (faults : Faults) :
    Triple (· = e) (refreshApplicationProgress faults)
      (fun _ s => Advances (fun _ _ => True) e s ∧ appliedLsn e.storage ≤ s.currentProgress)
      (Advances (fun _ _ => True) e) := by
  have hacked : ∀ (m : ReplicaIdentity) (v w : Int), v ≤ w → True → True := fun _ _ _ _ h => h
  have hR := stepwise_advances (σ := σ) hacked
  have hkeep : ∀ {s t : Engine σ}, Advances (fun _ _ => True) s t →
      appliedLsn e.storage ≤ s.currentProgress → appliedLsn e.storage ≤ t.currentProgress :=
    fun h hs => hs.trans h.current
  refine (triple_recordApplicationProgress hacked).bind fun _ => triple_observe_bind fun s hs => ?_
  split_ifs
  · exact (hR.triple (along_finalizeReadyCommitLocked hacked faults) hkeep e).pre (fun _ h => h ▸ hs)
  · exact triple_pure fun _ h => h ▸ hs

end Refresh

/-! ## Deliveries -/

section Delivery

variable {issued : List ReplicationAck} {e : Engine σ} {d : Delivery}

theorem EngineInv.pending_none (h : EngineInv issued e) (hd : e.delivery = some d) :
    e.pendingConfiguration = none := by
  cases hp : e.pendingConfiguration with
  | none => rfl
  | some p =>
    rw [(h.pending p hp).1] at hd
    cases hd

theorem EngineInv.withDelivery (h : EngineInv issued e) {s : σ}
    (hs : appliedLsn e.storage ≤ appliedLsn s) (hpending : e.pendingConfiguration = none)
    (hd : DeliveryHolds issued s d) :
    EngineInv issued { e with storage := s, delivery := some d } where
  bounded := ⟨(h.bounded.grows hs).progress, (h.bounded.grows hs).store,
    (h.bounded.grows hs).current⟩
  log := h.log
  builds b hb ht := (h.builds b hb ht).trans hs
  buildStore b hb ht := (h.buildStore b hb ht).trans hs
  pending p hp := by
    rw [show e.pendingConfiguration = some p from hp] at hpending
    cases hpending
  delivery d' hd' := by
    obtain rfl := Option.some.inj hd'
    exact hd
  acks := h.acks.mono hs
  nonneg := h.nonneg.trans hs

theorem EngineInv.release (h : EngineInv issued e) {s : σ}
    (hs : appliedLsn e.storage ≤ appliedLsn s) :
    EngineInv issued { e with storage := s, delivery := none } where
  bounded := ⟨(h.bounded.grows hs).progress, (h.bounded.grows hs).store,
    (h.bounded.grows hs).current⟩
  log := h.log
  builds b hb ht := (h.builds b hb ht).trans hs
  buildStore b hb ht := (h.buildStore b hb ht).trans hs
  pending p hp := ⟨rfl, (h.pending p hp).2.trans hs⟩
  delivery d hd := by cases hd
  acks := h.acks.mono hs
  nonneg := h.nonneg.trans hs

theorem Keeps.release (h : EngineInv issued e) {s : σ}
    (hs : appliedLsn e.storage ≤ appliedLsn s) :
    Keeps issued issued e { e with storage := s, delivery := none } :=
  ⟨⟨h.release hs, rfl, hs, (fun _ hd => by cases hd), fun _ hack => .inl hack⟩, .inl (le_refl _)⟩

theorem Keeps.withDelivery (h : EngineInv issued e) {s : σ} {d' : Delivery}
    (hs : appliedLsn e.storage ≤ appliedLsn s) (hd : e.delivery = some d)
    (hd' : DeliveryHolds issued s d') (hepoch : d.envelope.epoch = d'.envelope.epoch) :
    Keeps issued issued e { e with storage := s, delivery := some d' } := by
  refine ⟨⟨h.withDelivery hs (h.pending_none hd) hd', rfl, hs, ?_, fun _ hack => .inl hack⟩,
    .inl (le_refl _)⟩
  intro d'' hd''
  obtain rfl := Option.some.inj hd''
  exact .inl ⟨d, hd, hepoch⟩

theorem keeps_receiveReplication (h : EngineInv issued e) (item : ReplicationItem) :
    Keeps issued issued e ((receiveReplication item).run e).2 := by
  refine triple_receiveReplication.holds (I := Keeps issued issued e) ?_ ?_ e rfl
  · rintro _ e' ⟨-, a, progress, hd, hcase⟩
    have hepoch : a.epoch = item.epoch := congrArg AuthorityFence.epoch hd.carried
    have hverified := h.bounded.progress progress hd.replicationProgress
    -- the captured progress is that of the storage, so it covers every acknowledgement
    have hkeep : ∀ stage, (received e item a progress stage).Fits →
        (received e item a progress stage).held = appliedLsn e.storage →
        Keeps issued issued e { e with delivery := some (received e item a progress stage) } := by
      intro stage hfits hheld
      refine ⟨⟨h.withDelivery (le_refl _) hd.pending ⟨?_, hfits, hheld.le, ?_⟩, rfl, le_refl _, ?_,
        fun _ hack => .inl hack⟩, .inl (le_refl _)⟩
      · exact hverified.trans hheld.ge
      · exact h.acks.mono hheld.ge
      · rintro d' ⟨⟩
        exact .inr ⟨a, hd.configuration, hepoch⟩
    obtain ⟨hle, rfl⟩ | ⟨hnext, rfl⟩ := hcase
    · exact hkeep .present hle rfl
    · have hk := hkeep (.enqueued e.streamCount) hnext rfl
      exact hk.trans (steady_of_core rfl (fun h => h) hk.inv)
  · rintro _ rfl
    exact .refl h

variable [LawfulDurableState σ]

theorem keeps_serviceApply (h : EngineInv issued e) :
    Keeps issued issued e (serviceApply.run e).2 := by
  rw [run_serviceApply]
  match e.stream with
  | [] => exact .refl h
  | (ticket, operation) :: rest =>
    have hs := (grows_apply e.storage operation).applied
    -- the stream is no part of the core
    have hcore : ∀ d' : Option Delivery, Keeps issued issued e { e with
        storage := (DurableState.apply e.storage operation).2, delivery := d' } →
        Keeps issued issued e { e with
          storage := (DurableState.apply e.storage operation).2, stream := rest, delivery := d' } :=
      fun d' hk => hk.trans (steady_of_core rfl (fun h => h) hk.inv)
    refine hcore _ ?_
    match hd : e.delivery with
    | none => exact .release h hs
    | some d =>
      simp only [Option.bind_some]
      have hinv := h.delivery d hd
      match hhear : d.hear ticket (DurableState.apply e.storage operation).1 with
      | none => exact .release h hs
      | some d' =>
        obtain ⟨-, rfl⟩ | ⟨ack, hstage, hok, hack, rfl⟩ := Delivery.hear_eq_some hhear
        · exact .withDelivery h hs hd (hinv.grows hs) rfl
        · obtain ⟨hprogress, -⟩ := LawfulDurableState.apply_ok e.storage operation hok
          have hfits : d.envelope.lsn = d.applicationProgress.appliedLsn + 1 := by
            have := hinv.fits
            rwa [Delivery.Fits, hstage] at this
          have hheld : d.held ≤ ack.appliedLsn := by
            rw [Delivery.held, hstage]
            simp only
            omega
          refine .withDelivery h hs hd ⟨hinv.verified.trans hheld, hack.ge, ?_, ?_⟩ rfl
          · exact le_of_eq (congrArg DurableApplicationProgress.appliedLsn hprogress)
          · exact hinv.acks.mono hheld

theorem keeps_verifyDelivery (h : EngineInv issued e) :
    Keeps issued issued e (verifyDelivery.run e).2 := by
  refine triple_verifyDelivery.holds (I := Keeps issued issued e) ?_ ?_ e rfl
  · rintro _ e' ⟨d, ack, storage, hd, hstage, -, hstorage, rfl⟩
    have hinv := h.delivery d hd
    have hfits : d.envelope.lsn ≤ d.held := by
      have := hinv.fits
      rwa [Delivery.Fits, hstage] at this
    obtain ⟨rfl, rfl⟩ | ⟨rfl, hok⟩ := hstorage
    · have hheld : d.held = d.applicationProgress.appliedLsn := by rw [Delivery.held, hstage]
      exact .withDelivery h (le_refl _) hd ⟨hinv.verified.trans hheld.le, hfits.trans hheld.le,
        hheld.ge.trans hinv.stored, hinv.acks.mono hheld.le⟩ rfl
    · have hs := (LawfulDurableState.commit_keeps e.storage d.envelope.committedLsn).1
      have hack : ack.appliedLsn = appliedLsn e.storage := by
        rw [← hs, (LawfulDurableState.commit_ok _ _ hok).1]
        rfl
      have hheld : d.held ≤ ack.appliedLsn := hinv.stored.trans hack.ge
      refine .withDelivery h hs.ge hd ⟨hinv.verified.trans hheld, hfits.trans hheld, ?_,
        hinv.acks.mono hheld⟩ rfl
      exact hack.le.trans hs.ge
  · rintro e' ⟨storage, rfl | ⟨c, rfl⟩, rfl⟩
    · exact .release h (le_refl _)
    · exact .release h (LawfulDurableState.commit_keeps e.storage c).1.ge

omit [LawfulDurableState σ] in
theorem keeps_confirmDelivery (h : EngineInv issued e) :
    Keeps issued issued e (confirmDelivery.run e).2 := by
  refine triple_confirmDelivery.holds (I := Keeps issued issued e) ?_ ?_ e rfl
  · rintro _ e' ⟨d, ack, hd, hstage, -, -, rfl⟩
    have hinv := h.delivery d hd
    have hheld : d.held = ack.appliedLsn := by rw [Delivery.held, hstage]
    have hfits := hinv.fits
    rw [Delivery.Fits, hstage] at hfits
    exact .withDelivery h (le_refl _) hd ⟨hinv.verified.trans hheld.le, hfits.trans hheld.le,
      hheld.ge.trans hinv.stored, hinv.acks.mono hheld.le⟩ rfl
  · rintro _ rfl
    exact .release h (le_refl _)

omit [LawfulDurableState σ] in
theorem DeliveryHolds.verified_le {s : σ} {ack : DurableApplicationProgress}
    (h : DeliveryHolds issued s d) (hstage : d.stage = .confirmed ack) :
    d.verified.verifiedLsn ≤ d.held := by
  have hfits := h.fits
  rw [Delivery.Fits, hstage] at hfits
  unfold Delivery.verified
  split_ifs
  · exact hfits
  · exact h.verified

omit [LawfulDurableState σ] in
theorem EngineInv.storeAfter (h : EngineInv issued e) {ack : DurableApplicationProgress}
    (hd : e.delivery = some d) (hstage : d.stage = .confirmed ack) :
    EngineInv issued { e with progressStore := d.storeAfter e.progressStore } := by
  have hinv := h.delivery d hd
  unfold Delivery.storeAfter
  split_ifs
  · exact h.recordProgress _ ((hinv.verified_le hstage).trans hinv.stored)
  · exact h

omit [LawfulDurableState σ] in
theorem keeps_recordDelivery (h : EngineInv issued e) :
    Keeps issued issued e (recordDelivery.run e).2 := by
  refine triple_recordDelivery.holds (I := Keeps issued issued e) ?_ ?_ e rfl
  · rintro _ e' ⟨d, ack, hd, hstage, rfl⟩
    have hinv := h.delivery d hd
    have hheld : d.held = ack.appliedLsn := by rw [Delivery.held, hstage]
    have hfits := hinv.fits
    rw [Delivery.Fits, hstage] at hfits
    have hk : Keeps issued issued e { e with progressStore := d.storeAfter e.progressStore } :=
      .of_inv (h.storeAfter hd hstage) rfl rfl rfl rfl
    refine hk.trans (.withDelivery hk.inv (le_refl _) hd ⟨?_, hfits.trans hheld.le,
      hheld.ge.trans hinv.stored, hinv.acks.mono hheld.le⟩ rfl)
    exact (hinv.verified_le hstage).trans hheld.le
  · rintro e' (rfl | ⟨d, ack, hd, hstage, rfl⟩)
    · exact .release h (le_refl _)
    · have hk : Keeps issued issued e { e with progressStore := d.storeAfter e.progressStore } :=
        .of_inv (h.storeAfter hd hstage) rfl rfl rfl rfl
      exact hk.trans (.release hk.inv (le_refl _))

omit [LawfulDurableState σ] in
/-- Publishing issues at most the acknowledgement of the delivery, and publishes a progress that
covers every earlier one. -/
theorem keeps_published (h : EngineInv issued e) {ack : DurableApplicationProgress}
    (hd : e.delivery = some d) (hstage : d.stage = .recorded ack) {issued' : List ReplicationAck}
    (hissued : ∀ a ∈ issued', a ∈ issued ∨ a = d.acknowledgement e.identity ack) :
    Keeps issued issued' e (e.published d ack) := by
  have hinv := h.delivery d hd
  have hheld : d.held = ack.appliedLsn := by rw [Delivery.held, hstage]
  have hrelease := h.release (le_refl (appliedLsn e.storage))
  have hacks : Floor issued' (appliedLsn e.storage) := by
    intro a ha
    obtain hold | rfl := hissued a ha
    · exact h.acks a hold
    · exact hinv.verified.trans hinv.stored
  refine ⟨⟨⟨⟨?_, h.bounded.store, hheld.ge.trans hinv.stored⟩, h.log, h.builds, h.buildStore,
    hrelease.pending, (fun _ hd => by cases hd), hacks, h.nonneg⟩, rfl, le_refl _,
    (fun _ hd => by cases hd), ?_⟩, .inr (hinv.acks.mono hheld.le)⟩
  · rintro r ⟨⟩
    exact hinv.verified.trans hinv.stored
  · intro a ha
    obtain hold | rfl := hissued a ha
    · exact .inl hold
    · exact .inr ⟨d, hd, rfl⟩

omit [LawfulDurableState σ] in
theorem keeps_publishDelivery (h : EngineInv issued e) :
    Keeps issued ((publishDelivery.run e).1.toOption.toList ++ issued) e (publishDelivery.run e).2 := by
  have hpost := @triple_publishDelivery σ e e rfl
  match hr : publishDelivery.run e, hpost with
  | (.ok ack, e'), ⟨d, progress, hd, hstage, hack, he'⟩ =>
    subst he'
    refine keeps_published h hd hstage fun a ha => ?_
    obtain rfl | hold := List.mem_cons.1 ha
    · exact .inr hack
    · exact .inl hold
  | (.error error, e'), hcase =>
    obtain rfl | ⟨d, ack, hd, hstage, rfl⟩ := hcase
    · exact .release h (le_refl _)
    · exact keeps_published h hd hstage fun a ha => .inl ha

theorem keeps_memberAction (h : EngineInv issued e) (action : MemberAction) :
    Keeps issued ((action.run e).1.toList ++ issued) e (action.run e).2 := by
  cases action with
  | receive item => exact keeps_receiveReplication h item
  | service => exact keeps_serviceApply h
  | verify => exact keeps_verifyDelivery h
  | confirm => exact keeps_confirmDelivery h
  | record => exact keeps_recordDelivery h
  | publish => exact keeps_publishDelivery h
  | cancel => exact .release h (le_refl _)

end Delivery

/-! ## Restart, and what is left out of the model -/

section Rest

variable {issued : List ReplicationAck} {e e' : Engine σ} {E : Epoch}

theorem moves_restarted (h : EngineInv issued e) : Moves issued issued e e.restarted := by
  refine ⟨⟨⟨(fun r hr => by cases hr), h.bounded.store, h.nonneg⟩, rfl, (fun b hb => by cases hb),
    h.buildStore, (fun p hp => by cases hp), (fun d hd => by cases hd), h.acks, h.nonneg⟩, rfl,
    le_refl _, (fun d hd => by cases hd), fun _ hack => .inl hack⟩

theorem EngineInv.new {identity : ReplicaIdentity} {storage : σ} (h : 0 ≤ appliedLsn storage) :
    EngineInv [] (.new identity storage) :=
  ⟨⟨(fun r hr => by cases hr), (fun f v hv => by cases hv), h⟩, rfl, (fun b hb => by cases hb),
    (fun b hb => by cases hb), (fun p hp => by cases hp), (fun d hd => by cases hd),
    (fun ack hack => by cases hack), h⟩

theorem EngineInv.withConfiguration (h : EngineInv issued e)
    (configuration : Option ManagedReplicaConfiguration) :
    EngineInv issued { e with configuration := configuration } :=
  ⟨⟨h.bounded.progress, h.bounded.store, h.bounded.current⟩, h.log, h.builds, h.buildStore,
    h.pending, h.delivery, h.acks, h.nonneg⟩

omit [DurableState σ] in
theorem Fenced.withConfiguration {a : ManagedReplicaConfiguration} (h : Fenced E e)
    (hepoch : ∀ existing, e.configuration = some existing → existing.epoch ≤ a.epoch) :
    Fenced E { e with configuration := some a } := by
  obtain ⟨existing, hexisting, hle⟩ := h.configuration
  exact ⟨⟨a, rfl, hle.trans (hepoch existing hexisting)⟩, h.delivery⟩

/-- A step of the functions that are left out of the model: copies to and from other replicas, the
preparation of a switchover or of a removal, close and abort.  They leave the durable authority, the
delivery in flight and the verified progress alone, and publish no more than the storage holds. -/
structure Engine.Elsewhere (e e' : Engine σ) : Prop where
  identity : e'.identity = e.identity
  configuration : e'.configuration = e.configuration
  pendingConfiguration : e'.pendingConfiguration = e.pendingConfiguration
  delivery : e'.delivery = e.delivery
  progressStore : e'.progressStore = e.progressStore
  replicationProgress : e'.replicationProgress = e.replicationProgress ∨
    e'.replicationProgress = none
  storage : appliedLsn e.storage ≤ appliedLsn e'.storage
  current : e.currentProgress ≤ e'.currentProgress
  currentStored : e'.currentProgress ≤ appliedLsn e'.storage
  log : e'.log.quorum.authority = e'.log.authority
  builds : ∀ b ∈ e'.builds.values, b ∈ e.builds.values ∨
    (b.authority.target = e.identity → b.durableLsn ≤ appliedLsn e'.storage)
  buildStore : ∀ b ∈ e'.buildStore.values, b ∈ e.buildStore.values ∨
    (b.authority.target = e.identity → b.durableLsn ≤ appliedLsn e'.storage)

theorem Engine.Elsewhere.steady (hs : e.Elsewhere e') : Steady issued e e' := by
  intro h
  refine ⟨⟨⟨⟨?_, ?_, hs.currentStored⟩, hs.log, ?_, ?_, ?_, ?_, h.acks.mono hs.storage,
    h.nonneg.trans hs.storage⟩, hs.configuration, hs.storage, ?_, fun _ hack => .inl hack⟩,
    .inl hs.current⟩
  · intro r hr
    obtain hsame | hnone := hs.replicationProgress
    · exact (h.bounded.progress r (hsame ▸ hr)).trans hs.storage
    · rw [hnone] at hr
      cases hr
  · rw [hs.progressStore]
    exact fun f v hv => (h.bounded.store f v hv).trans hs.storage
  · rw [hs.identity]
    intro b hb ht
    obtain hold | hnew := hs.builds b hb
    · exact (h.builds b hold ht).trans hs.storage
    · exact hnew ht
  · rw [hs.identity]
    intro b hb ht
    obtain hold | hnew := hs.buildStore b hb
    · exact (h.buildStore b hold ht).trans hs.storage
    · exact hnew ht
  · rw [hs.pendingConfiguration, hs.delivery]
    exact fun p hp => ⟨(h.pending p hp).1, (h.pending p hp).2.trans hs.storage⟩
  · rw [hs.delivery]
    exact fun d hd => (h.delivery d hd).grows hs.storage
  · rw [hs.delivery]
    exact fun d hd => .inl ⟨d, hd, rfl⟩

end Rest

end Kuberic
