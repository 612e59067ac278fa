import Kuberic.Runtime.WriteCompletes

/-!
# Verified progress and durable data

The verified LSN is raised from several sources: deliveries, local writes, the progress carried over
to a new configuration and the certified prefix of a failover.  Every one of them is bounded by what
the storage holds (`EngineInv`), but the published progress can lag behind the storage, and a loss of
data lowers the storage without lowering what is recorded as verified.
-/

namespace Kuberic

open Effect DurableState

variable {σ : Type} [DurableState σ]

/-- The verified LSN of the authority in force is in the storage, in memory and on disk; with no
delivery and no configuration in progress the published progress covers it. -/
structure VerifiedDurable (e : Engine σ) : Prop where
  memory : ∀ r, e.replicationProgress = some r → r.verifiedLsn ≤ appliedLsn e.storage
  store : ∀ a v, e.authority = some a → e.progressStore.get? a.fence = some v →
    v ≤ appliedLsn e.storage
  published : e.delivery = none → e.pendingConfiguration = none →
    ∀ r, e.replicationProgress = some r → r.verifiedLsn ≤ e.currentProgress

/-! ## When it is kept -/

/-- The loss of data goes back to no less than what the engine counts as verified. -/
structure LossKeeps (e : Engine σ) (storage : σ) (progress : Int) : Prop where
  memory : ∀ r, e.replicationProgress = some r → r.verifiedLsn ≤ progress
  store : ∀ f v, e.progressStore.get? f = some v → v ≤ progress
  pending : ∀ p, e.pendingConfiguration = some p → p.replicationProgress.verifiedLsn ≤ progress
  builds : ∀ b ∈ e.builds.values, b.authority.target = e.identity → b.durableLsn ≤ progress
  buildStore : ∀ b ∈ e.buildStore.values, b.authority.target = e.identity → b.durableLsn ≤ progress
  storage : progress ≤ appliedLsn storage
  nonneg : 0 ≤ progress

/-- The storage holds nothing that is not published. -/
def Engine.AllPublished (e : Engine σ) : Prop := e.currentProgress = appliedLsn e.storage

/-- A loss of data keeps what is verified, the progress is taken over to a configuration or certified
for a failover only when all of the storage is published, and nothing stops a write once it is
verified. -/
def KeepsVerified (e : Engine σ) : EngineAction σ → Prop
  | .dataLoss storage progress => LossKeeps e storage progress
  | .commit _ | .authorizePrefix _ | .restore .. => e.AllPublished
  | .write faults w _ => WriteCompletes e faults w
  | _ => True

/-! ## The storage covers what is verified -/

section Covers

variable {issued : List ReplicationAck} {e e' : Engine σ}

theorem EngineInv.forget (h : EngineInv issued e) : EngineInv [] e :=
  ⟨h.bounded, h.log, h.builds, h.buildStore, h.pending,
    fun d hd => ⟨(h.delivery d hd).verified, (h.delivery d hd).fits, (h.delivery d hd).stored,
      fun _ hack => by cases hack⟩, (fun _ hack => by cases hack), h.nonneg⟩

theorem EngineInv.run_steady {α : Type} {x : EngineM σ α} (h : EngineInv [] e)
    (hx : Along (Steady []) x) : EngineInv [] (x.run e).2 := (hx e h).inv

omit [DurableState σ] in
theorem run_lockDelivery (hfree : e.delivery = none) : lockDelivery.run e = (.ok (), e) := by
  simp only [lockDelivery, run_bind, observe, require, hfree, Option.isNone_none, if_true]
  rfl

/-- The engine that a loss of data leaves. -/
def Engine.lost (e : Engine σ) (storage : σ) (progress : Int) : Engine σ :=
  { e with
    storage := storage
    fenceGeneration := e.fenceGeneration + 1
    journal := e.journal.retain fun _ write =>
      write.phase == .committed && decide (write.lsn ≤ progress)
    writeStatus := .reconfigurationPending
    log := e.log.fenceClientWrites.fenceClientWrites.resetProgressAfterDataLoss progress progress
    currentProgress := progress
    committedLsn := progress
    localWrites := ∅ }

omit [DurableState σ] in
theorem run_controlOnDataLoss (storage : σ) (progress : Int) (hfree : e.delivery = none) :
    ((controlOnDataLoss storage progress).run e).2 = e ∨
      ((controlOnDataLoss storage progress).run e).2 = e.lost storage progress := by
  refine Triple.holds (P := (· = e))
    (Q := fun _ s => s = e ∨ s = e.lost storage progress)
    (E := fun s => s = e ∨ s = e.lost storage progress) ?_ (fun _ _ h => h) (fun _ h => h) e rfl
  refine checks_requirePrimary.bind (.inl rfl) fun _ _ => ?_
  refine triple_update_bind (I := (· = { e with
    writeStatus := .reconfigurationPending
    log := e.log.fenceClientWrites
    storage := storage })) (fun _ h => h ▸ rfl) ?_
  rintro _ rfl
  rw [resetAfterDataLossLocked, run_bind_ok (run_lockDelivery (by exact hfree))]
  exact .inr rfl

theorem EngineInv.lost (h : EngineInv [] e) {storage : σ} {progress : Int}
    (hfree : e.delivery = none) (hloss : LossKeeps e storage progress) :
    EngineInv [] (e.lost storage progress) where
  bounded := ⟨fun r hr => (hloss.memory r hr).trans hloss.storage,
    fun f v hv => (hloss.store f v hv).trans hloss.storage, hloss.storage⟩
  log := LogOp.quorumAuthority_apply (.resetProgressAfterDataLoss progress progress) id h.log
  builds b hb ht := (hloss.builds b hb ht).trans hloss.storage
  buildStore b hb ht := (hloss.buildStore b hb ht).trans hloss.storage
  pending p hp := ⟨hfree, (hloss.pending p hp).trans hloss.storage⟩
  delivery d hd := by
    rw [show (e.lost storage progress).delivery = e.delivery from rfl, hfree] at hd
    cases hd
  acks _ hack := by cases hack
  nonneg := hloss.nonneg.trans hloss.storage

variable [LawfulDurableState σ]

theorem EngineInv.localWrite (h : EngineInv [] e) (faults : Faults)
    (w : ClientWrite) (recovering : Bool) :
    EngineInv [] ((Kuberic.localWrite faults w recovering).run e).2 := by
  have hacked : ∀ (m : ReplicaIdentity) (v w : Int), v ≤ w → True → True := fun _ _ _ _ h => h
  have hlocked : Triple (· = e) (beginWriteLocked faults w recovering) (fun _ => EngineInv [])
      (EngineInv []) := by
    refine Triple.bind (R := fun r s => EngineInv [] s ∧ ∀ registered, r = .inr registered →
      registered.ack.appliedLsn ≤ appliedLsn s.storage)
      ((triple_startWriteLocked hacked h.log faults w recovering).post (fun r s hs =>
        ⟨(hs.1.steady h).inv, fun g hg => (hs.2 g hg).2.2⟩) fun s hs => (hs.steady h).inv) fun r => ?_
    match r with
    | .inl resolved => exact triple_pure fun s hs => hs.1
    | .inr registered =>
      refine Triple.bind ((triple_of_run (I := fun s => EngineInv [] s ∧
        registered.ack.appliedLsn ≤ appliedLsn s.storage) ?_).error fun _ hs => hs.1) fun _ => ?_
      · intro s hs
        have hadv := along_finalizeReadyCommitLocked hacked (fun i => faults (i + 3)) s
        exact ⟨(hadv.steady hs.1).inv, (hs.2 registered rfl).trans hadv.storage.applied⟩
      · intro s hs
        have hfinish : Carries (fun _ _ => True) s ((finishWrite registered).run s).2 :=
          carries_finishWrite hs.2
        exact (hfinish.moves hs.1).inv
  exact localWrite_keeps h hlocked

theorem EngineInv.run (h : EngineInv [] e) {action : EngineAction σ}
    (hkeeps : KeepsVerified e action) : EngineInv [] (action.run e) := by
  have hacked : ∀ (m : ReplicaIdentity) (v w : Int), v ≤ w → True → True := fun _ _ _ _ h => h
  have hR : Stepwise (Steady [] : Engine σ → Engine σ → Prop) := stepwise_steady
  cases action with
  | deliver action => exact (keeps_memberAction h action).inv.forget
  | write faults w recovering => exact h.localWrite faults w recovering
  | interruptWrite w =>
    have hreserve := along_beginReservation (stepwise_advances (σ := σ) hacked)
      (along_reserveLocalWrite hacked none w false)
    exact (moves_restarted ((hreserve e).steady h).inv).inv
  | serve action =>
    simp only [EngineAction.run]
    split_ifs with hw
    · exact h
    · have hfinish : ∀ registered, action ≠ .finish registered := by
        rintro _ rfl
        exact hw rfl
      exact ((advances_run hacked h.log hfinish fun _ _ _ _ _ => trivial).1.steady h).inv
  | changeRole epoch role => exact h.run_steady (steady_controlChangeRole epoch role)
  | updateEpoch epoch => exact h.run_steady (steady_controlUpdateEpoch epoch)
  | setAccess read w =>
    exact h.run_steady (hR.bind (hR.reads (reads_prepareAccess read w)) fun p => steady_publishAccess p)
  | settlePrefix => exact h.run_steady steady_settlePrimaryPrefix
  | prepare c hostGeneration =>
    exact (triple_prepareReplicaConfiguration h hostGeneration false).holds (fun _ _ h => h.2.inv)
      (fun _ h => h.inv) e rfl
  | admitAuthority c =>
    refine triple_admitDurably.holds (fun _ s hs => ?_) (fun s hs => ?_) e rfl
    · rw [hs.1]
      exact h.withConfiguration _
    · rw [hs]
      exact h
  | commit p =>
    exact (triple_commitReplicaConfiguration h p).holds (fun _ _ h => h.2.inv) (fun _ h => h.inv) e rfl
  | cancelWork => exact h.run_steady steady_cancelConfigurationWork
  | dropPreparation p => exact (steady_dropPreparation p h).inv
  | authorizePrefix safeLsn => exact h.run_steady (steady_authorizeFailoverPrefix safeLsn)
  | restart => exact (moves_restarted h).inv
  | openReplicator committed => exact h.run_steady (steady_openReplicator committed)
  | restore removal hostGeneration =>
    exact h.run_steady (steady_restoreAuthority removal hostGeneration)
  | dataLoss storage progress =>
    simp only [EngineAction.run]
    split_ifs with hd
    · exact h
    · have hfree : e.delivery = none := Option.not_isSome_iff_eq_none.1 hd
      rcases run_controlOnDataLoss storage progress hfree with heq | heq
      · rw [heq]
        exact h
      · rw [heq]
        exact h.lost hfree hkeeps

end Covers

/-! ## The published progress covers what is verified -/

/-- The verified LSN is at most `bound`. -/
def VerifiedUpTo (bound : Int) (e : Engine σ) : Prop :=
  ∀ r, e.replicationProgress = some r → r.verifiedLsn ≤ bound

def Tracked (e : Engine σ) : Prop := VerifiedUpTo e.currentProgress e

/-- The verified LSN stays or is given up, and the published progress is not lowered. -/
structure Lags (e e' : Engine σ) : Prop where
  verified : e'.replicationProgress = e.replicationProgress ∨ e'.replicationProgress = none
  current : e.currentProgress ≤ e'.currentProgress

section Tracked

variable {e e' : Engine σ} {bound : Int}

omit [DurableState σ] in
theorem Lags.tracked (h : Lags e e') (ht : Tracked e) : Tracked e' := by
  intro r hr
  obtain hsame | hnone := h.verified
  · exact (ht r (hsame ▸ hr)).trans h.current
  · rw [hnone] at hr
    cases hr

omit [DurableState σ] in
theorem stepwise_lags : Stepwise (Lags : Engine σ → Engine σ → Prop) where
  refl _ := ⟨.inl rfl, le_refl _⟩
  trans := by
    intro s t u h h'
    refine ⟨?_, h.current.trans h'.current⟩
    obtain hsame' | hnone := h'.verified
    · exact h.verified.imp hsame'.trans hsame'.trans
    · exact .inr hnone

omit [DurableState σ] in
theorem SameData.lags (h : SameData e e') : Lags e e' :=
  ⟨.inl (congrArg EngineData.replicationProgress h),
    (congrArg EngineData.currentProgress h).ge⟩

omit [DurableState σ] in
theorem Quiet.lags (h : Quiet e e') : Lags e e' := SameData.lags h.data

omit [DurableState σ] in
theorem Serves.lags (h : Serves e e') : Lags e e' :=
  ⟨.inl (congrArg EngineReceiving.replicationProgress h.receiving), h.current⟩

theorem EngineInv.tracked {issued : List ReplicationAck} (h : EngineInv issued e)
    (hall : e.AllPublished) : Tracked e :=
  fun r hr => (h.bounded.progress r hr).trans hall.ge

/-- What a configuration or a failover changes: neither storage nor published progress. -/
def SamePlace (e e' : Engine σ) : Prop :=
  (e'.storage, e'.currentProgress) = (e.storage, e.currentProgress)

omit [DurableState σ] in
theorem samePlace_of_data {d : EngineData σ} (h : e'.data = d)
    (hd : (d.storage, d.currentProgress) = (e.storage, e.currentProgress)) : SamePlace e e' :=
  (congrArg (fun d : EngineData σ => (d.storage, d.currentProgress)) h).trans hd

theorem AllPublished.samePlace (h : e.AllPublished) (hs : SamePlace e e') : e'.AllPublished := by
  obtain ⟨hstorage, hcurrent⟩ := Prod.mk.inj hs
  unfold Engine.AllPublished
  rw [hstorage, hcurrent]
  exact h

/-! ### The steps of a delivery -/

theorem lags_memberAction {action : MemberAction} (hpublish : action ≠ .publish) :
    Lags e (action.run e).2 := by
  cases action with
  | receive item =>
    refine triple_receiveReplication.holds ?_ (fun _ h => h ▸ stepwise_lags.refl e) e rfl
    rintro - _ ⟨-, a, progress, -, ⟨-, rfl⟩ | ⟨-, rfl⟩⟩ <;> exact ⟨.inl rfl, le_refl _⟩
  | service =>
    simp only [MemberAction.run, run_serviceApply]
    cases e.stream with
    | nil => exact stepwise_lags.refl e
    | cons entry rest => exact ⟨.inl rfl, le_refl _⟩
  | verify =>
    refine triple_verifyDelivery.holds ?_ ?_ e rfl
    · rintro - _ ⟨d, ack, storage, -, -, -, -, rfl⟩
      exact ⟨.inl rfl, le_refl _⟩
    · rintro _ ⟨storage, -, rfl⟩
      exact ⟨.inl rfl, le_refl _⟩
  | confirm =>
    refine triple_confirmDelivery.holds ?_ (fun _ h => h ▸ ⟨.inl rfl, le_refl _⟩) e rfl
    rintro - _ ⟨d, ack, -, -, -, -, rfl⟩
    exact ⟨.inl rfl, le_refl _⟩
  | record =>
    refine triple_recordDelivery.holds ?_ ?_ e rfl
    · rintro - _ ⟨d, ack, -, -, rfl⟩
      exact ⟨.inl rfl, le_refl _⟩
    · rintro _ (rfl | ⟨d, ack, -, -, rfl⟩) <;> exact ⟨.inl rfl, le_refl _⟩
  | publish => exact absurd rfl hpublish
  | cancel => exact ⟨.inl rfl, le_refl _⟩

/-- What a delivery publishes as verified is in the progress that the application reported to it. -/
theorem Tracked.publish {issued : List ReplicationAck} (ht : Tracked e) (h : EngineInv issued e) :
    Tracked (publishDelivery.run e).2 := by
  have hnew : ∀ d ack, e.delivery = some d → d.stage = .recorded ack →
      Tracked (e.published d ack) := by
    intro d ack hd hs
    rintro r ⟨⟩
    have hheld : d.held = ack.appliedLsn := by rw [Delivery.held, hs]
    exact (h.delivery d hd).verified.trans hheld.le
  refine triple_publishDelivery.holds ?_ ?_ e rfl
  · rintro - _ ⟨d, ack, hd, hs, -, rfl⟩
    exact hnew d ack hd hs
  · rintro _ (rfl | ⟨d, ack, hd, hs, rfl⟩)
    · exact ht
    · exact hnew d ack hd hs

/-! ### Local writes -/

omit [DurableState σ] in
theorem VerifiedUpTo.of_eq (h : VerifiedUpTo bound e)
    (hr : e'.replicationProgress = e.replicationProgress) : VerifiedUpTo bound e' :=
  fun r h' => h r (hr ▸ h')

omit [DurableState σ] in
theorem VerifiedUpTo.triple {α : Type} {x : EngineM σ α}
    (hx : Along (fun e e' => e'.replicationProgress = e.replicationProgress) x) :
    Triple (VerifiedUpTo bound) x (fun _ => VerifiedUpTo bound) (fun _ => True) :=
  (triple_of_run fun e he => he.of_eq (hx e)).error fun _ _ => trivial

omit [DurableState σ] in
theorem triple_verifyLocalWriteProgress {lsn : Int} (hle : lsn ≤ bound) :
    Triple (VerifiedUpTo bound) (verifyLocalWriteProgress lsn : EngineM σ Unit)
      (fun _ => VerifiedUpTo bound) (fun _ => True) := by
  refine triple_observe_bind fun e he => checks_demand.bind trivial fun progress _ => ?_
  split_ifs with hnext
  · refine (triple_recordReplicationProgress.error fun _ _ => trivial).bind fun _ => triple_update ?_
    rintro _ rfl
    rintro r ⟨⟩
    exact hle
  · exact triple_pure fun _ h => h ▸ he

/-- A write that is answered leaves the published progress above the verified LSN; one that is
registered will publish the progress that its application reported. -/
theorem triple_completeReservation (faults : Faults) (w : ClientWrite)
    (durable : DurableLocalWrite) :
    Triple (fun e => VerifiedUpTo (appliedLsn e.storage) e) (completeReservation faults w durable)
      (fun r (e : Engine σ) => match r with
        | .inl _ => Tracked e
        | .inr registered => VerifiedUpTo registered.ack.appliedLsn e) (fun _ => True) := by
  have hV := stepwise_same (Engine.replicationProgress : Engine σ → _)
  have hrestore : ∀ (operation : Operation) (progress : DurableApplicationProgress),
      Triple (VerifiedUpTo progress.appliedLsn) (restoreCommitted operation w.operationId progress)
        (fun _ => (Tracked : Engine σ → Prop)) (fun _ => True) := by
    refine fun operation progress => (VerifiedUpTo.triple (along_zoom fun _ => rfl)).bind fun _ => ?_
    refine triple_update_bind (I := Tracked) (fun e he r hr => ?_) (triple_pure fun _ h => h)
    exact (he r hr).trans (le_max_right _ _)
  have hrecord := same_recordLocalWrite (Engine.replicationProgress (σ := σ)) fun _ _ => rfl
  refine triple_observe_bind fun e he => ?_
  simp only
  split_ifs with hphase
  · refine checks_ofExcept.bind trivial fun _ hvalid => ?_
    have hle : durable.lsn ≤ (durableProgress e.storage).appliedLsn :=
      (le_of_validateDurableAck hvalid).2
    refine Triple.bind ((triple_verifyLocalWriteProgress hle).pre (fun _ h => h ▸ he)) fun _ => ?_
    exact (hrestore _ _).bind fun _ => triple_pure fun _ h => h
  · refine Triple.bind (R := fun _ => VerifiedUpTo (appliedLsn e.storage)) ?_ fun ack => ?_
    · exact (VerifiedUpTo.triple (same_applyLocalWrite _ (fun _ _ => rfl) _)).pre
        fun _ h => h ▸ he
    intro s hs
    refine post_of_triple ?_
    refine checks_ofExcept.bind trivial fun _ hvalid => ?_
    have hack := (le_of_validateDurableAck hvalid).1
    have hle : durable.lsn ≤ ack.appliedLsn := hack ▸ le_max_left _ _
    have hbase : (durableProgress e.storage).appliedLsn ≤ ack.appliedLsn := hack ▸ le_max_right _ _
    refine Triple.bind ((triple_verifyLocalWriteProgress hle).pre fun _ h r hr =>
      (hs r (h ▸ hr)).trans hbase) fun _ => ?_
    split_ifs with hcommitted
    · refine (VerifiedUpTo.triple (hrecord _ _)).bind fun _ => ?_
      exact (hrestore _ _).bind fun _ => triple_pure fun _ h => h
    · refine Triple.bind (R := fun registered s => registered.ack = ack ∧
        VerifiedUpTo ack.appliedLsn s) ?_ fun registered => triple_pure ?_
      rotate_left
      · rintro s ⟨rfl, h⟩
        exact h
      refine (VerifiedUpTo.triple (hrecord _ _)).bind fun _ => ?_
      refine triple_update_bind (I := VerifiedUpTo ack.appliedLsn) (fun _ h => h) ?_
      refine Triple.bind (VerifiedUpTo.triple ?_) fun _ => ?_
      · unfold restoreReservation
        split_ifs
        · exact along_zoom fun _ => rfl
        · exact hV.pure _
      · exact (VerifiedUpTo.triple (along_zoom fun _ => rfl)).bind fun _ => triple_pure fun _ h =>
          ⟨rfl, h⟩

variable [LawfulDurableState σ]

omit [LawfulDurableState σ] in
theorem samePlace_authorizeFailoverPrefix (safeLsn : Int) :
    Along SamePlace (authorizeFailoverPrefix safeLsn : EngineM σ Unit) := by
  have hR := stepwise_same fun e : Engine σ => (e.storage, e.currentProgress)
  refine hR.bind (hR.bind hR.observe fun _ => hR.require _ _) fun _ => ?_
  refine hR.bind (hR.bind hR.observe fun _ => hR.require _ _) fun _ => hR.bind hR.observe fun _ => ?_
  refine hR.bind (hR.require _ _) fun _ => hR.bind (hR.require _ _) fun _ => ?_
  refine hR.bind (hR.demand _ _) fun _ => hR.bind (hR.demand _ _) fun _ => ?_
  refine hR.bind (hR.require _ _) fun _ => hR.bind ?_ fun _ => along_update fun _ => rfl
  exact hR.bind hR.observe fun _ => hR.bind (hR.require _ _) fun _ => along_update fun _ => rfl

omit [LawfulDurableState σ] in
theorem triple_openReplicator (committed : Int) :
    Triple (· = e) (openReplicator committed)
      (fun _ s => s.replicationProgress = e.replicationProgress ∧
        s.currentProgress = appliedLsn e.storage) (Lags e) := by
  have hR := stepwise_same fun e : Engine σ => (e.storage, e.replicationProgress, e.currentProgress)
  refine Triple.bind (R := fun _ s => (s.storage, s.replicationProgress, s.currentProgress) =
    (e.storage, e.replicationProgress, e.currentProgress)) ?_ fun _ => triple_update fun s hs => ?_
  · refine (Along.triple (hR.bind (hR.bind hR.observe fun _ => hR.require _ _) fun _ => ?_) e).error
      fun s hs => ⟨.inl (congrArg (·.2.1) hs), (congrArg (·.2.2) hs).ge⟩
    refine hR.bind hR.observe fun _ => hR.bind (hR.require _ _) fun _ => along_zoom fun _ => rfl
  · exact ⟨congrArg (·.2.1) hs, congrArg (fun p => appliedLsn p.1) hs⟩

theorem triple_beginWriteLocked_tracked (h : EngineInv [] e) (faults : Faults)
    (w : ClientWrite) (recovering : Bool) :
    Triple (· = e) (beginWriteLocked faults w recovering) (fun _ => Tracked)
      (fun s => e.currentProgress ≤ s.currentProgress) := by
  have hacked : ∀ (m : ReplicaIdentity) (v w : Int), v ≤ w → True → True := fun _ _ _ _ h => h
  have hstart := triple_startWriteLocked hacked h.log faults w recovering
  -- the verified LSN after the start, next to the progress of the engine
  have hverified : Triple (· = e) (startWriteLocked faults w recovering)
      (fun r s => match r with
        | .inl _ => Tracked s
        | .inr registered => VerifiedUpTo registered.ack.appliedLsn s) (fun _ => True) := by
    refine Triple.bind (R := fun _ s => VerifiedUpTo (appliedLsn s.storage) s) ?_
      (triple_completeReservation faults w)
    rintro e rfl
    have hsame := same_beginReservation (fun e : Engine σ => (e.storage, e.replicationProgress))
      (fun _ _ _ _ => rfl) (faults 0) w recovering
    refine (hsame.triple e e rfl).mono ?_ fun _ _ => trivial
    intro durable s hs r hr
    obtain ⟨hstorage, hprogress⟩ := Prod.mk.inj hs
    rw [hstorage]
    exact h.bounded.progress r (hprogress ▸ hr)
  refine ((hstart.and hverified).error fun s hs => hs.1.current).bind fun r => ?_
  match r with
  | .inl resolved => exact triple_pure fun _ hs => hs.2
  | .inr registered =>
    refine Triple.bind ((triple_of_run (I := fun t => VerifiedUpTo registered.ack.appliedLsn t ∧
      e.currentProgress ≤ t.currentProgress) ?_).post (fun _ _ h => h.1) fun _ h => h.2) fun _ => ?_
    · intro s hs
      have hlags := (serves_finalizeReadyCommitLocked (fun i => faults (i + 3)) s).lags
      refine ⟨fun r hr => ?_, hs.1.1.current.trans hlags.current⟩
      obtain hsame | hnone := hlags.verified
      · exact hs.2 r (hsame ▸ hr)
      · rw [hnone] at hr
        cases hr
    · exact triple_update_bind (I := Tracked) (fun _ hs => hs) (triple_pure fun _ h => h)

theorem Tracked.localWrite (ht : Tracked e) (h : EngineInv [] e)
    {faults : Faults} {w : ClientWrite} {recovering : Bool}
    (hkeeps : KeepsVerified e (.write faults w recovering)) :
    Tracked ((Kuberic.localWrite faults w recovering).run e).2 := by
  have htracked := triple_beginWriteLocked_tracked h faults w recovering
  have hunverified := triple_beginWriteLocked_unverified hkeeps h.log recovering
  refine localWrite_keeps ht ((htracked.and hunverified).post (fun _ _ hs => hs.1) fun s hs r hr => ?_)
  exact (ht r (hs.2 ▸ hr)).trans hs.1

theorem Tracked.run (ht : Tracked e) (h : EngineInv [] e) {action : EngineAction σ}
    (hkeeps : KeepsVerified e action) : Tracked (action.run e) := by
  have hinv := h.run hkeeps
  cases action with
  | deliver action =>
    by_cases hpublish : action = .publish
    · subst hpublish
      exact ht.publish h
    · exact (lags_memberAction hpublish).tracked ht
  | write faults w recovering => exact ht.localWrite h hkeeps
  | interruptWrite | restart => exact fun _ hr => by cases hr
  | serve action =>
    simp only [EngineAction.run]
    split_ifs with hw
    · exact ht
    · exact (serves_serve (Bool.not_eq_true _ ▸ hw)).lags.tracked ht
  | changeRole epoch role => exact (quiet_controlChangeRole epoch role e).lags.tracked ht
  | updateEpoch epoch => exact (quiet_controlUpdateEpoch epoch e).lags.tracked ht
  | setAccess read w => exact (quiet_setAccess read w e).lags.tracked ht
  | settlePrefix => exact (serves_settlePrimaryPrefix e).lags.tracked ht
  | prepare c hostGeneration =>
    refine (triple_prepared c hostGeneration false).holds ?_ (fun _ h => h ▸ ht) e rfl
    rintro - s ⟨-, p, -, -, -, hdata⟩
    refine Lags.tracked ⟨.inl ?_, ?_⟩ ht
    · exact congrArg EngineData.replicationProgress hdata
    · exact (congrArg EngineData.currentProgress hdata).ge
  | admitAuthority c => exact (sameData_admitDurably c e).lags.tracked ht
  | commit p =>
    refine hinv.tracked (AllPublished.samePlace hkeeps ?_)
    refine (triple_installed p).holds (I := SamePlace e) ?_ ?_ e rfl
    · rintro - s ⟨q, -, -, hdata⟩
      exact samePlace_of_data hdata rfl
    · exact fun s hs => samePlace_of_data hs.1 rfl
  | cancelWork =>
    obtain hsame | ⟨-, hdata⟩ := run_cancelConfigurationWork e
    · simp only [EngineAction.run, hsame]
      exact ht
    · exact Lags.tracked ⟨.inl (congrArg EngineData.replicationProgress hdata),
        (congrArg EngineData.currentProgress hdata).ge⟩ ht
  | dropPreparation p =>
    obtain hsame | ⟨q, -, hdata⟩ := dropPreparation_cases e p
    · simp only [EngineAction.run, hsame]
      exact ht
    · exact Lags.tracked ⟨.inl (congrArg EngineData.replicationProgress hdata),
        (congrArg EngineData.currentProgress hdata).ge⟩ ht
  | authorizePrefix safeLsn =>
    exact hinv.tracked (AllPublished.samePlace hkeeps (samePlace_authorizeFailoverPrefix safeLsn e))
  | openReplicator committed =>
    refine (triple_openReplicator committed).holds ?_ (fun _ h => h.tracked ht) e rfl
    rintro - s ⟨hprogress, hcurrent⟩ r hr
    rw [hcurrent]
    exact h.bounded.progress r (hprogress ▸ hr)
  | restore removal hostGeneration =>
    refine hinv.tracked (AllPublished.samePlace hkeeps ?_)
    obtain hsame | ⟨t, ⟨-, p, -, -, -, ht⟩, hsame | ⟨q, -, -, hinstalled⟩⟩ :=
      run_restoreAuthority e removal hostGeneration
    · exact samePlace_of_data hsame.data rfl
    · exact samePlace_of_data (hsame.trans ht) rfl
    · rw [ht] at hinstalled
      exact samePlace_of_data hinstalled rfl
  | dataLoss storage progress =>
    simp only [EngineAction.run]
    split_ifs with hd
    · exact ht
    · have hfree : e.delivery = none := Option.not_isSome_iff_eq_none.1 hd
      rcases run_controlOnDataLoss storage progress hfree with heq | heq
      · rw [heq]
        exact ht
      · rw [heq]
        exact hkeeps.memory

end Tracked

/-! ## Runs -/

section Runs

variable [LawfulDurableState σ] {identity : ReplicaIdentity} {storage : σ} {e : Engine σ}

theorem verified_step {e' : Engine σ} (hs : Engine.Step KeepsVerified Engine.Elsewhere e e')
    (h : EngineInv [] e ∧ Tracked e) : EngineInv [] e' ∧ Tracked e' := by
  cases hs with
  | act action hkeeps => exact ⟨h.1.run hkeeps, h.2.run h.1 hkeeps⟩
  | elsewhere hother =>
    exact ⟨(hother.steady h.1).inv, Lags.tracked ⟨hother.replicationProgress, hother.current⟩ h.2⟩

end Runs

namespace SingleReplica

def created : Engine LogStorage := .new primaryIdentity ⟨[], 0⟩

/-- A new replica becomes the primary of its configuration and is granted access. -/
def intoService : List (EngineAction LogStorage) :=
  [.openReplicator 0, .prepare authority 0, .admitAuthority authority, .commit ⟨authority, 1, 0⟩,
    .changeRole authority.epoch .primary, .updateEpoch authority.epoch, .settlePrefix,
    .setAccess .granted .granted]

def firstWrite : EngineAction LogStorage := .write (fun _ => none) ⟨"w", [7]⟩ false

/-- The write is applied and verified, but its registration cannot be journalled. -/
def failedWrite : EngineAction LogStorage :=
  .write (fun i => if i = 2 then some .closed else none) ⟨"w", [7]⟩ false

end SingleReplica

end Kuberic
