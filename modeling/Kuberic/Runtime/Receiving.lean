import Kuberic.Runtime.Cluster
import Kuberic.Runtime.Frame

/-!
# What a secondary commits and acknowledges

A delivery captures the verified progress when it takes the delivery lock, and it commits, records and
acknowledges on top of what it captured.  `Synced` says that what a delivery has captured is what the
store has recorded, and that an engine with nothing in progress holds it in memory as well.

Everything that moves the recorded progress waits for the delivery lock, except the authorization of
a failover prefix: a delivery that is in flight meanwhile publishes the progress from before it.
-/

namespace Kuberic

open Effect DurableState

variable {σ : Type}

/-- `normalize_replication_item` accepts the item. -/
structure ReplicationItem.Normalized (item : ReplicationItem) : Prop where
  configuration : item.currentConfigurationId ≠ ""
  lsn : 0 < item.lsn
  committed : 0 ≤ item.committedLsn
  consistent : item.committedLsn ≤ item.lsn

def DeliveryStage.isRecorded : DeliveryStage → Bool
  | .recorded _ => true
  | _ => false

/-! ## The progress of a delivery is the recorded one -/

structure DeliverySynced (c : EngineReceiving) (d : Delivery) : Prop where
  generation : d.generation = c.fenceGeneration
  operation : d.operation = operationOf d.envelope
  normalized : d.envelope.Normalized
  fence : d.replicationProgress.fence = d.envelope.fence
  stored : c.progressStore.get? d.replicationProgress.fence =
    some d.replicationProgress.verifiedLsn
  reaches : d.envelope.lsn ≤ d.replicationProgress.verifiedLsn + 1
  recorded : d.stage.isRecorded = true → d.envelope.lsn ≤ d.replicationProgress.verifiedLsn
  /-- What is in memory has been captured, or it is the progress from before the record. -/
  memory : ∃ r, c.replicationProgress = some r ∧ r.fence = d.replicationProgress.fence ∧
    r.verifiedLsn ≤ d.replicationProgress.verifiedLsn ∧
    (d.stage.isRecorded = false → r = d.replicationProgress)

structure Synced (c : EngineReceiving) : Prop where
  running : c.aborted = false
  idle : c.delivery = none → c.pendingConfiguration = none →
    ∀ r, c.replicationProgress = some r → c.progressStore.get? r.fence = some r.verifiedLsn
  memory : ∀ r, c.replicationProgress = some r →
    ∃ v, c.progressStore.get? r.fence = some v ∧ r.verifiedLsn ≤ v
  pending : ∀ p, c.pendingConfiguration = some p → c.delivery = none ∧
    (p.active = true →
      c.progressStore.get? p.replicationProgress.fence = some p.replicationProgress.verifiedLsn)
  delivery : ∀ d, c.delivery = some d → DeliverySynced c d

/-- The verified LSN under the fence has reached `v`, on disk and in memory. -/
structure AtLeast (f : AuthorityFence) (v : Int) (c : EngineReceiving) : Prop where
  stored : ∃ u, c.progressStore.get? f = some u ∧ v ≤ u
  memory : ∀ r, c.replicationProgress = some r → r.fence = f → v ≤ r.verifiedLsn

/-- What a step can do to the receiving side of an engine. -/
inductive Receives : EngineReceiving → EngineReceiving → Prop
  | fence {c : EngineReceiving} (generation : Nat)
    (h : c.delivery = none ∨ generation = c.fenceGeneration) :
    Receives c { c with fenceGeneration := generation }
  | start {c : EngineReceiving} {d : Delivery} (free : c.delivery = none)
    (none : c.pendingConfiguration = none) (generation : d.generation = c.fenceGeneration)
    (operation : d.operation = operationOf d.envelope) (normalized : d.envelope.Normalized)
    (fence : d.replicationProgress.fence = d.envelope.fence)
    (reaches : d.envelope.lsn ≤ d.replicationProgress.verifiedLsn + 1)
    (stage : d.stage.isRecorded = false)
    (memory : c.replicationProgress = some d.replicationProgress) :
    Receives c { c with delivery := some d }
  | stage {c : EngineReceiving} {d : Delivery} {stage : DeliveryStage} (held : c.delivery = some d)
    (before : d.stage.isRecorded = false) (after : stage.isRecorded = false) :
    Receives c { c with delivery := some { d with stage := stage } }
  | release {c : EngineReceiving} (h : ∀ d, c.delivery = some d → d.stage.isRecorded = false) :
    Receives c { c with delivery := none }
  | record {c : EngineReceiving} {d : Delivery} {ack : DurableApplicationProgress}
    (held : c.delivery = some d) (before : d.stage.isRecorded = false) :
    Receives c { c with
      progressStore := d.storeAfter c.progressStore
      delivery := some { d with stage := .recorded ack, replicationProgress := d.verified } }
  | publish {c : EngineReceiving} {d : Delivery} (held : c.delivery = some d) :
    Receives c { c with replicationProgress := some d.replicationProgress, delivery := none }
  | prepare {c : EngineReceiving} {p : PendingManagedConfiguration} (generation : Nat)
    (free : c.delivery = none)
    (forward : ∀ v, c.progressStore.get? p.replicationProgress.fence = some v →
      v ≤ p.replicationProgress.verifiedLsn) :
    Receives c { c with
      fenceGeneration := generation
      progressStore := c.progressStore.insert p.replicationProgress.fence
        p.replicationProgress.verifiedLsn
      pendingConfiguration := some p }
  | install {c : EngineReceiving} {p : PendingManagedConfiguration} (generation : Nat)
    (pending : c.pendingConfiguration = some p) (active : p.active = true) :
    Receives c { c with
      fenceGeneration := generation
      pendingConfiguration := none
      replicationProgress := some p.replicationProgress }
  | cancel {c : EngineReceiving} (generation : Nat) (free : c.delivery = none)
    (h : ∀ r, c.replicationProgress = some r →
      c.progressStore.get? r.fence = some r.verifiedLsn) :
    Receives c { c with fenceGeneration := generation, pendingConfiguration := none }
  | drop {c : EngineReceiving} {p : PendingManagedConfiguration} (generation : Nat)
    (pending : c.pendingConfiguration = some p) :
    Receives c { c with
      fenceGeneration := generation
      pendingConfiguration := some { p with active := false } }
  | authorize {c : EngineReceiving} {r : ReplicationProgress} {v : Int} (free : c.delivery = none)
    (none : c.pendingConfiguration = none) (memory : c.replicationProgress = some r)
    (raised : r.verifiedLsn ≤ v) :
    Receives c { c with
      progressStore := c.progressStore.insert r.fence v
      replicationProgress := some { r with verifiedLsn := v } }
  | restart {c : EngineReceiving} (generation : Nat) :
    Receives c ⟨false, generation, c.progressStore, none, none, none⟩

abbrev ReceivesAll : EngineReceiving → EngineReceiving → Prop := Relation.ReflTransGen Receives

section Receives

variable {c c' : EngineReceiving} {d : Delivery} {f : AuthorityFence} {v : Int}

theorem Delivery.verified_fence (d : Delivery) : d.verified.fence = d.replicationProgress.fence := by
  unfold Delivery.verified
  split_ifs <;> rfl

theorem Delivery.le_verified (d : Delivery) :
    d.replicationProgress.verifiedLsn ≤ d.verified.verifiedLsn := by
  unfold Delivery.verified
  split_ifs with h
  · simp only
    omega
  · exact le_refl _

theorem Delivery.lsn_le_verified (d : Delivery)
    (h : d.envelope.lsn ≤ d.replicationProgress.verifiedLsn + 1) :
    d.envelope.lsn ≤ d.verified.verifiedLsn := by
  unfold Delivery.verified
  split_ifs with hnext
  · exact le_refl _
  · omega

theorem Delivery.get?_storeAfter (d : Delivery) {store : AssocMap AuthorityFence Int}
    (h : store.get? d.replicationProgress.fence = some d.replicationProgress.verifiedLsn) :
    (d.storeAfter store).get? f =
      if f = d.replicationProgress.fence then some d.verified.verifiedLsn else store.get? f := by
  unfold Delivery.storeAfter
  split_ifs with hnext hf hf
  · rw [AssocMap.get?_insert, d.verified_fence, if_pos hf]
  · rw [AssocMap.get?_insert, d.verified_fence, if_neg hf]
  · rw [hf, h, Delivery.verified, if_neg hnext]
  · rfl

theorem Synced.not_pending {p : PendingManagedConfiguration} (h : Synced c)
    (hd : c.delivery = some d) (hp : c.pendingConfiguration = some p) : False := by
  have hfree := (h.pending p hp).1
  rw [hd] at hfree
  cases hfree

theorem stored_insert {store : AssocMap AuthorityFence Int} {f' : AuthorityFence} {v' : Int}
    (forward : ∀ u, store.get? f' = some u → u ≤ v') (h : ∃ u, store.get? f = some u ∧ v ≤ u) :
    ∃ u, (store.insert f' v').get? f = some u ∧ v ≤ u := by
  obtain ⟨u, hu, hle⟩ := h
  rw [AssocMap.get?_insert]
  split_ifs with hf
  · exact ⟨v', rfl, hle.trans (forward u (hf ▸ hu))⟩
  · exact ⟨u, hu, hle⟩

theorem synced_receives (hs : Receives c c') (h : Synced c) : Synced c' := by
  cases hs with
  | fence generation hg =>
    refine ⟨h.running, h.idle, h.memory, h.pending, fun d hd => ?_⟩
    have hd' : c.delivery = some d := hd
    obtain hfree | rfl := hg
    · rw [hfree] at hd'
      cases hd'
    · exact h.delivery d hd'
  | @start d free none generation operation normalized fence reaches stage memory =>
    refine ⟨h.running, (fun hd => by cases hd), h.memory, fun p hp => ?_, ?_⟩
    · rw [show c.pendingConfiguration = some p from hp] at none
      cases none
    · rintro _ ⟨⟩
      refine ⟨generation, operation, normalized, fence, h.idle free none _ memory, reaches, ?_,
        _, memory, rfl, le_refl _, fun _ => rfl⟩
      rw [stage]
      exact fun h => by cases h
  | @stage d stage held before after =>
    have hd := h.delivery d held
    refine ⟨h.running, (fun hd => by cases hd), h.memory, fun p hp => ?_, ?_⟩
    · exact (h.not_pending held hp).elim
    · rintro _ ⟨⟩
      refine ⟨hd.generation, hd.operation, hd.normalized, hd.fence, hd.stored, hd.reaches, ?_, ?_⟩
      · intro hrecorded
        rw [show stage.isRecorded = true from hrecorded] at after
        cases after
      · obtain ⟨r, hr, hf, hle, hsame⟩ := hd.memory
        exact ⟨r, hr, hf, hle, fun _ => hsame before⟩
  | release hr =>
    refine ⟨h.running, fun _ hpending r hmem => ?_, h.memory, fun p hp => ⟨rfl, ?_⟩,
      fun d hd => by cases hd⟩
    · cases hd : c.delivery with
      | none => exact h.idle hd hpending r hmem
      | some d =>
        obtain ⟨r', hr', -, -, hsame⟩ := (h.delivery d hd).memory
        obtain rfl := Option.some.inj (hmem.symm.trans hr')
        rw [hsame (hr d hd)]
        exact (h.delivery d hd).stored
    · exact (h.pending p hp).2
  | @record d ack held before =>
    have hd := h.delivery d held
    obtain ⟨r, hr, hf, hle, hsame⟩ := hd.memory
    refine ⟨h.running, (fun hd => by cases hd), fun r' hr' => ?_, fun p hp => ?_, ?_⟩
    · obtain rfl := Option.some.inj (hr'.symm.trans hr)
      refine ⟨d.verified.verifiedLsn, ?_, hle.trans d.le_verified⟩
      rw [d.get?_storeAfter hd.stored, if_pos hf]
    · exact (h.not_pending held hp).elim
    · rintro _ ⟨⟩
      refine ⟨hd.generation, hd.operation, hd.normalized, d.verified_fence.trans hd.fence, ?_, ?_,
        fun _ => d.lsn_le_verified hd.reaches, r, hr, hf.trans d.verified_fence.symm,
        hle.trans d.le_verified, fun hrec => by cases hrec⟩
      · rw [d.get?_storeAfter hd.stored, if_pos d.verified_fence]
      · exact (d.lsn_le_verified hd.reaches).trans (Int.le_add_one (le_refl _))
  | @publish d held =>
    have hd := h.delivery d held
    refine ⟨h.running, ?_, ?_, fun p hp => ?_, fun d hd => by cases hd⟩
    · rintro - - _ ⟨⟩
      exact hd.stored
    · rintro _ ⟨⟩
      exact ⟨_, hd.stored, le_refl _⟩
    · exact (h.not_pending held hp).elim
  | @prepare p generation free forward =>
    refine ⟨h.running, (fun _ hp => by cases hp), fun r hr => ?_, ?_, fun d hd => ?_⟩
    · exact stored_insert forward (h.memory r hr)
    · rintro _ ⟨⟩
      exact ⟨free, fun _ => AssocMap.get?_insert_self _ _ _⟩
    · rw [show c.delivery = some d from hd] at free
      cases free
  | @install p generation pending active =>
    obtain ⟨hfree, hstored⟩ := h.pending p pending
    refine ⟨h.running, ?_, ?_, (fun p hp => by cases hp), fun d hd => ?_⟩
    · rintro - - _ ⟨⟩
      exact hstored active
    · rintro _ ⟨⟩
      exact ⟨_, hstored active, le_refl _⟩
    · rw [show c.delivery = some d from hd] at hfree
      cases hfree
  | cancel generation free hmem =>
    refine ⟨h.running, fun _ _ => hmem, h.memory, (fun p hp => by cases hp), fun d hd => ?_⟩
    rw [show c.delivery = some d from hd] at free
    cases free
  | @drop p generation pending =>
    obtain ⟨hfree, -⟩ := h.pending p pending
    refine ⟨h.running, (fun _ hp => by cases hp), h.memory, ?_, fun d hd => ?_⟩
    · rintro _ ⟨⟩
      exact ⟨hfree, fun hactive => by cases hactive⟩
    · rw [show c.delivery = some d from hd] at hfree
      cases hfree
  | @authorize r v free none memory raised =>
    refine ⟨h.running, ?_, ?_, fun p hp => ?_, fun d hd => ?_⟩
    · rintro - - _ ⟨⟩
      exact AssocMap.get?_insert_self _ _ _
    · rintro _ ⟨⟩
      exact ⟨v, AssocMap.get?_insert_self _ _ _, le_refl _⟩
    · rw [show c.pendingConfiguration = some p from hp] at none
      cases none
    · rw [show c.delivery = some d from hd] at free
      cases free
  | restart generation =>
    exact ⟨rfl, (fun _ _ _ hr => by cases hr), (fun _ hr => by cases hr), (fun _ hp => by cases hp),
      fun _ hd => by cases hd⟩

theorem stored_receives (hs : Receives c c') (h : Synced c)
    (hv : ∃ u, c.progressStore.get? f = some u ∧ v ≤ u) :
    ∃ u, c'.progressStore.get? f = some u ∧ v ≤ u := by
  cases hs with
  | fence | start | stage | release | publish | install | cancel | drop | restart => exact hv
  | @record d ack held before =>
    obtain ⟨u, hu, hle⟩ := hv
    rw [d.get?_storeAfter (h.delivery d held).stored]
    split_ifs with hf
    · rw [hf, (h.delivery d held).stored] at hu
      obtain rfl := Option.some.inj hu
      exact ⟨_, rfl, hle.trans d.le_verified⟩
    · exact ⟨u, hu, hle⟩
  | prepare generation free forward => exact stored_insert forward hv
  | @authorize r w free none memory raised =>
    refine stored_insert (fun u hu => ?_) hv
    obtain rfl := Option.some.inj ((h.idle free none r memory).symm.trans hu)
    exact raised

/-- No step lowers the verified LSN under a fence: what is put into memory has been recorded. -/
theorem atLeast_receives (hs : Receives c c') (h : Synced c) (hv : AtLeast f v c) :
    AtLeast f v c' := by
  refine ⟨stored_receives hs h hv.stored, ?_⟩
  obtain ⟨u, hu, hle⟩ := hv.stored
  cases hs with
  | fence | start | stage | release | record | prepare | cancel | drop => exact hv.memory
  | @publish d held =>
    rintro _ ⟨⟩ rfl
    obtain rfl := Option.some.inj ((h.delivery d held).stored.symm.trans hu)
    exact hle
  | @install p generation pending active =>
    rintro _ ⟨⟩ rfl
    obtain rfl := Option.some.inj (((h.pending p pending).2 active).symm.trans hu)
    exact hle
  | @authorize r w free none memory raised =>
    rintro _ ⟨⟩ hf
    exact (hv.memory r memory hf).trans raised
  | restart generation => exact fun _ hr => by cases hr

theorem synced_receivesAll (hs : ReceivesAll c c') (h : Synced c) : Synced c' := by
  induction hs with
  | refl => exact h
  | tail _ hstep ih => exact synced_receives hstep ih

theorem stored_receivesAll (hs : ReceivesAll c c') (h : Synced c)
    (hv : ∃ u, c.progressStore.get? f = some u ∧ v ≤ u) :
    ∃ u, c'.progressStore.get? f = some u ∧ v ≤ u := by
  induction hs with
  | refl => exact hv
  | tail hrest hstep ih => exact stored_receives hstep (synced_receivesAll hrest h) ih

theorem atLeast_receivesAll (hs : ReceivesAll c c') (h : Synced c)
    (hv : AtLeast f v c) : AtLeast f v c' := by
  induction hs with
  | refl => exact hv
  | tail hrest hstep ih => exact atLeast_receives hstep (synced_receivesAll hrest h) ih

end Receives

/-! ## The steps of a delivery -/

section Delivery

variable {e e' : Engine σ} {d : Delivery} {ack : DurableApplicationProgress}

theorem run_checkDeliveryGeneration {generation : Nat} (hg : generation = e.fenceGeneration)
    (ha : e.aborted = false) : (checkDeliveryGeneration generation).run e = (.ok (), e) := by
  simp only [checkDeliveryGeneration, checkAborted, run_bind, observe, require, run_pure, ha, hg,
    if_true]

theorem run_heldDelivery (hd : e.delivery = some d) : heldDelivery.run e = (.ok d, e) := by
  simp only [heldDelivery, run_bind, observe, demand, hd]
  rfl

/-- Nothing fences a delivery between the record of its progress and the end of that step. -/
theorem run_recordDelivery (ha : e.aborted = false) (hd : e.delivery = some d)
    (hg : d.generation = e.fenceGeneration) (hs : d.stage = .confirmed ack) :
    (recordDelivery.run e).2 = { e with delivery := none } ∨
      (recordDelivery.run e).2 = { e with
        progressStore := d.storeAfter e.progressStore
        delivery := some { d with stage := .recorded ack, replicationProgress := d.verified } } := by
  have hrun : Triple (· = e) recordDelivery (fun _ s => s = { e with
      progressStore := d.storeAfter e.progressStore
      delivery := some { d with stage := .recorded ack, replicationProgress := d.verified } })
      (· = { e with delivery := none }) := by
    refine triple_onFailure (F := (· = e)) ?_ fun s h => h ▸ rfl
    rintro e rfl
    rw [run_bind_ok (run_heldDelivery hd), hs, run_bind_ok (run_checkDeliveryGeneration hg ha)]
    split_ifs with hnext
    · refine Triple.bind (P := (· = e)) triple_recordReplicationProgress (fun _ => ?_) e rfl
      rintro _ rfl
      rw [run_bind_ok (run_checkDeliveryGeneration (by exact hg) (by exact ha))]
      show _ = _
      simp only [Delivery.storeAfter, Delivery.verified, hnext, if_true]
    · show _ = _
      simp only [Delivery.storeAfter, Delivery.verified, hnext, if_false]
  have hpost := hrun e rfl
  cases hr : recordDelivery.run e with
  | mk result s =>
    rw [hr] at hpost
    cases result with
    | ok _ => exact .inr hpost
    | error _ => exact .inl hpost

theorem run_publishDelivery (ha : e.aborted = false) (hd : e.delivery = some d)
    (hg : d.generation = e.fenceGeneration) (hs : d.stage = .recorded ack) :
    publishDelivery.run e = (.ok (d.acknowledgement e.identity ack), e.published d ack) := by
  unfold publishDelivery onFailure
  simp only
  rw [run_bind_ok (run_heldDelivery hd), hs, run_bind_ok (run_checkDeliveryGeneration hg ha),
    run_bind_ok rfl, run_bind_ok (run_checkDeliveryGeneration (by exact hg) (by exact ha))]
  rfl

end Delivery

/-! ## Runs of a secondary -/

/-- The run of a secondary: it receives items that are well formed, takes no client writes, finishes
a delivery whose progress is recorded, certifies a failover prefix only while no delivery is in
flight, and cancels no configuration that has recorded more than what is in memory. -/
def KeepsSynced (e : Engine σ) : EngineAction σ → Prop
  | .write .. | .interruptWrite _ | .dataLoss .. => False
  | .deliver (.receive item) => item.Normalized
  | .deliver .service | .deliver .publish => True
  | .deliver _ => ∀ d, e.delivery = some d → d.stage.isRecorded = false
  | .authorizePrefix _ => e.delivery = none
  | .cancelWork => ∀ r, e.replicationProgress = some r →
      e.progressStore.get? r.fence = some r.verifiedLsn
  | _ => True

section Actions

variable {e e' : Engine σ}

theorem receiving_of_data {d : EngineData σ} (h : e'.data = d) :
    e'.receiving = ⟨d.aborted, e'.fenceGeneration, d.progressStore, d.pendingConfiguration,
      d.replicationProgress, d.delivery⟩ := by
  rw [← h]
  rfl

theorem Quiet.receives (h : Quiet e e') : ReceivesAll e.receiving e'.receiving := by
  rw [receiving_of_data h.data]
  exact .single (.fence e'.fenceGeneration h.fence)

theorem Prepared.receives (h : Prepared e e') : Receives e.receiving e'.receiving := by
  obtain ⟨free, p, -, -, forward, hdata⟩ := h
  rw [receiving_of_data hdata]
  exact .prepare (c := e.receiving) e'.fenceGeneration free forward

theorem Installed.receives (h : Installed e e') : Receives e.receiving e'.receiving := by
  obtain ⟨p, hp, hactive, hdata⟩ := h
  rw [receiving_of_data hdata]
  exact .install (c := e.receiving) e'.fenceGeneration hp hactive

theorem receives_released (h : ∀ d, e.delivery = some d → d.stage.isRecorded = false) :
    ReceivesAll e.receiving { e with delivery := none }.receiving := .single (.release h)

variable [DurableState σ]

theorem receives_service : ReceivesAll e.receiving (serviceApply.run e).2.receiving := by
  rw [run_serviceApply]
  cases e.stream with
  | nil => exact .refl
  | cons entry rest =>
    obtain ⟨ticket, operation⟩ := entry
    show ReceivesAll e.receiving { e.receiving with
      delivery := e.delivery.bind fun d => d.hear ticket (DurableState.apply e.storage operation).1 }
    cases hd : e.delivery with
    | none => exact .single (.release (c := e.receiving) fun d h => by
        rw [show e.delivery = some d from h] at hd
        cases hd)
    | some d =>
      simp only [Option.bind_some]
      cases hh : d.hear ticket (DurableState.apply e.storage operation).1 with
      | none =>
        refine .single (.release (c := e.receiving) fun d' h => ?_)
        obtain rfl := Option.some.inj (hd.symm.trans h)
        unfold Delivery.hear at hh
        split_ifs at hh with hs
        rw [hs]
        rfl
      | some d' =>
        obtain ⟨-, rfl⟩ | ⟨ack, hs, -, -, rfl⟩ := Delivery.hear_eq_some hh
        · rw [← hd]
          exact .refl
        · refine .single (.stage (c := e.receiving) hd ?_ rfl)
          rw [hs]
          rfl

theorem receives_receive {item : ReplicationItem} (hitem : item.Normalized) :
    ReceivesAll e.receiving ((receiveReplication item).run e).2.receiving := by
  refine triple_receiveReplication.holds (I := fun s => ReceivesAll e.receiving s.receiving) ?_
    (fun _ h => h ▸ .refl) e rfl
  rintro - _ ⟨hfree, a, progress, hd, ⟨-, rfl⟩ | ⟨-, rfl⟩⟩
  all_goals
    exact .single (.start (c := e.receiving) hfree hd.pending rfl rfl hitem
      (hd.fence.trans hd.carried) hd.next rfl hd.replicationProgress)

theorem receives_memberAction (h : Synced e.receiving) {action : MemberAction}
    (hkeeps : KeepsSynced e (.deliver action)) :
    ReceivesAll e.receiving (action.run e).2.receiving := by
  cases action with
  | receive item => exact receives_receive hkeeps
  | service => exact receives_service
  | verify =>
    refine triple_verifyDelivery.holds (I := fun s => ReceivesAll e.receiving s.receiving) ?_ ?_ e rfl
    · rintro - _ ⟨d, ack, storage, hd, hs, -, -, rfl⟩
      exact .single (.stage (c := e.receiving) hd (hs ▸ rfl) rfl)
    · rintro _ ⟨storage, -, rfl⟩
      exact receives_released hkeeps
  | confirm =>
    refine triple_confirmDelivery.holds (I := fun s => ReceivesAll e.receiving s.receiving) ?_
      (fun _ h => h ▸ receives_released hkeeps) e rfl
    rintro - _ ⟨d, ack, hd, hs, -, -, rfl⟩
    exact .single (.stage (c := e.receiving) hd (hs ▸ rfl) rfl)
  | record =>
    by_cases hd : ∃ d ack, e.delivery = some d ∧ d.stage = .confirmed ack
    · obtain ⟨d, ack, hd, hs⟩ := hd
      obtain hrun | hrun := run_recordDelivery h.running hd (h.delivery d hd).generation hs
      · simp only [MemberAction.run, hrun]
        exact receives_released hkeeps
      · simp only [MemberAction.run, hrun]
        exact .single (.record (c := e.receiving) hd (hkeeps d hd))
    · refine triple_recordDelivery.holds (I := fun s => ReceivesAll e.receiving s.receiving) ?_ ?_ e rfl
      · rintro - _ ⟨d, ack, hd', hs, -⟩
        exact (hd ⟨d, ack, hd', hs⟩).elim
      · rintro _ (rfl | ⟨d, ack, hd', hs, -⟩)
        · exact receives_released hkeeps
        · exact (hd ⟨d, ack, hd', hs⟩).elim
  | publish =>
    by_cases hd : ∃ d ack, e.delivery = some d ∧ d.stage = .recorded ack
    · obtain ⟨d, ack, hd, hs⟩ := hd
      simp only [MemberAction.run, run_publishDelivery h.running hd (h.delivery d hd).generation hs]
      exact .single (.publish (c := e.receiving) hd)
    · have hreleased : ReceivesAll e.receiving { e with delivery := none }.receiving := by
        refine receives_released fun d hd' => ?_
        cases hs : d.stage with
        | recorded ack => exact (hd ⟨d, ack, hd', hs⟩).elim
        | enqueued _ | present | applied _ | confirmed _ => rfl
      refine triple_publishDelivery.holds (I := fun s => ReceivesAll e.receiving s.receiving) ?_ ?_ e rfl
      · rintro - _ ⟨d, ack, hd', hs, -⟩
        exact (hd ⟨d, ack, hd', hs⟩).elim
      · rintro _ (rfl | ⟨d, ack, hd', hs, -⟩)
        · exact hreleased
        · exact (hd ⟨d, ack, hd', hs⟩).elim
  | cancel => exact receives_released hkeeps

/-- What a step leaves of the receiving side when it neither hands an operation to the service nor
takes one from it. -/
structure Aside (e e' : Engine σ) : Prop where
  receiving : ReceivesAll e.receiving e'.receiving
  stream : e'.stream = e.stream

omit [DurableState σ] in
theorem Quiet.aside (h : Quiet e e') : Aside e e' :=
  ⟨h.receives, congrArg EngineData.stream h.data⟩

omit [DurableState σ] in
theorem Serves.aside (h : Serves e e') : Aside e e' := ⟨h.receiving ▸ .refl, h.stream⟩

omit [DurableState σ] in
theorem Aside.refl (e : Engine σ) : Aside e e := ⟨.refl, rfl⟩

omit [DurableState σ] in
theorem Aside.trans {e'' : Engine σ} (h : Aside e e') (h' : Aside e' e'') : Aside e e'' :=
  ⟨h.receiving.trans h'.receiving, h'.stream.trans h.stream⟩

omit [DurableState σ] in
theorem Prepared.aside (h : Prepared e e') : Aside e e' := by
  obtain ⟨p, -, -, -, hdata⟩ := h.pending
  exact ⟨.single h.receives, congrArg EngineData.stream hdata⟩

omit [DurableState σ] in
theorem Prepared.delivery (h : Prepared e e') : e'.delivery = none := by
  obtain ⟨p, -, -, -, hdata⟩ := h.pending
  exact (congrArg EngineData.delivery hdata).trans h.free

omit [DurableState σ] in
theorem Installed.aside (h : Installed e e') : Aside e e' := by
  obtain ⟨p, -, -, hdata⟩ := id h
  exact ⟨.single h.receives, congrArg EngineData.stream hdata⟩

/-- The step hands an operation to the service, takes one from it, or loses them all. -/
def EngineAction.isStream : EngineAction σ → Bool
  | .deliver (.receive _) | .deliver .service | .restart => true
  | _ => false

theorem aside_open (committed : Int) : Aside e ((openReplicator committed).run e).2 := by
  have hR := stepwise_same fun e : Engine σ => (e.receiving, e.stream)
  have hsame : Along (fun e e' => (e'.receiving, e'.stream) = (e.receiving, e.stream))
      (openReplicator committed : EngineM σ Unit) := by
    refine hR.bind (hR.bind (hR.reads reads_checkAborted) fun _ => hR.bind hR.observe fun _ => ?_)
      fun _ => along_update fun _ => rfl
    exact hR.bind (hR.require _ _) fun _ => along_zoom fun _ => rfl
  obtain ⟨hreceiving, hstream⟩ := Prod.mk.inj (hsame e)
  exact ⟨hreceiving ▸ .refl, hstream⟩

omit [DurableState σ] in
theorem stream_memberAction [DurableState σ] {action : MemberAction}
    (ha : (EngineAction.deliver action : EngineAction σ).isStream = false) :
    (action.run e).2.stream = e.stream := by
  cases action with
  | receive | service => cases ha
  | verify =>
    refine triple_verifyDelivery.holds (I := fun s => s.stream = e.stream) ?_ ?_ e rfl
    · rintro - _ ⟨d, ack, storage, -, -, -, -, rfl⟩
      rfl
    · rintro _ ⟨storage, -, rfl⟩
      rfl
  | confirm =>
    refine triple_confirmDelivery.holds (I := fun s => s.stream = e.stream) ?_
      (fun _ h => h ▸ rfl) e rfl
    rintro - _ ⟨d, ack, -, -, -, -, rfl⟩
    rfl
  | record =>
    refine triple_recordDelivery.holds (I := fun s => s.stream = e.stream) ?_ ?_ e rfl
    · rintro - _ ⟨d, ack, -, -, rfl⟩
      rfl
    · rintro _ (rfl | ⟨d, ack, -, -, rfl⟩) <;> rfl
  | publish =>
    refine triple_publishDelivery.holds (I := fun s => s.stream = e.stream) ?_ ?_ e rfl
    · rintro - _ ⟨d, ack, -, -, -, rfl⟩
      rfl
    · rintro _ (rfl | ⟨d, ack, -, -, rfl⟩) <;> rfl
  | cancel => rfl

theorem aside_run (h : Synced e.receiving) {action : EngineAction σ} (hkeeps : KeepsSynced e action)
    (ha : action.isStream = false) : Aside e (action.run e) := by
  cases action with
  | deliver action => exact ⟨receives_memberAction h hkeeps, stream_memberAction ha⟩
  | write | interruptWrite | dataLoss => exact hkeeps.elim
  | restart => cases ha
  | serve action =>
    simp only [EngineAction.run]
    split_ifs with hw
    · exact .refl e
    · exact (serves_serve (Bool.not_eq_true _ ▸ hw)).aside
  | changeRole epoch role => exact (quiet_controlChangeRole epoch role e).aside
  | updateEpoch epoch => exact (quiet_controlUpdateEpoch epoch e).aside
  | setAccess read w => exact (quiet_setAccess read w e).aside
  | settlePrefix => exact (serves_settlePrimaryPrefix e).aside
  | admitAuthority c => exact (sameData_admitDurably c e).aside
  | prepare c hostGeneration =>
    exact (triple_prepared c hostGeneration false).holds (I := Aside e) (fun _ _ hs => hs.aside)
      (fun _ h => h ▸ .refl e) e rfl
  | commit p =>
    refine (triple_installed p).holds (I := Aside e) (fun _ _ hs => hs.aside) ?_ e rfl
    rintro s ⟨hdata, rfl | hpending⟩
    · exact .refl _
    · obtain ⟨q, hq⟩ := Option.ne_none_iff_exists'.1 hpending
      exact Quiet.aside ⟨hdata, .inl (h.pending q hq).1⟩
  | cancelWork =>
    obtain hsame | ⟨hfree, hdata⟩ := run_cancelConfigurationWork e
    · simp only [EngineAction.run, hsame]
      exact .refl e
    · refine ⟨?_, congrArg EngineData.stream hdata⟩
      simp only [EngineAction.run]
      rw [receiving_of_data hdata]
      exact .single (.cancel (c := e.receiving) _ hfree hkeeps)
  | dropPreparation p =>
    obtain hsame | ⟨q, hq, hdata⟩ := dropPreparation_cases e p
    · simp only [EngineAction.run, hsame]
      exact .refl e
    · refine ⟨?_, congrArg EngineData.stream hdata⟩
      simp only [EngineAction.run]
      rw [receiving_of_data hdata]
      exact .single (.drop (c := e.receiving) _ hq)
  | authorizePrefix safeLsn =>
    refine (triple_authorized safeLsn).holds (I := Aside e) ?_ (fun _ h => h ▸ .refl e) e rfl
    rintro - _ ⟨r, v, hnone, hr, hle, rfl⟩
    exact ⟨.single (.authorize (c := e.receiving) hkeeps hnone hr hle), rfl⟩
  | openReplicator committed => exact aside_open committed
  | restore removal hostGeneration =>
    obtain hquiet | ⟨t, ht, hsame | hinstalled⟩ := run_restoreAuthority e removal hostGeneration
    · exact hquiet.aside
    · exact ht.aside.trans (Quiet.aside ⟨hsame, .inl ht.delivery⟩)
    · exact ht.aside.trans hinstalled.aside

theorem receives_run (h : Synced e.receiving) {action : EngineAction σ}
    (hkeeps : KeepsSynced e action) : ReceivesAll e.receiving (action.run e).receiving := by
  cases ha : action.isStream with
  | false => exact (aside_run h hkeeps ha).receiving
  | true =>
    cases action with
    | deliver action => exact receives_memberAction h hkeeps
    | restart => exact .single (.restart (c := e.receiving) 0)
    | _ => cases ha

end Actions

/-- An engine, with the progress that was verified when each of the operations that wait for the
service was received. -/
structure Receiver (σ : Type) where
  engine : Engine σ
  under : List ReplicationProgress

namespace Receiver

variable [DurableState σ]

def step (w : Receiver σ) (action : EngineAction σ) : Receiver σ where
  engine := action.run w.engine
  under := match action with
    | .deliver (.receive _) =>
      if w.engine.stream.length < (action.run w.engine).stream.length then
        w.under ++ w.engine.replicationProgress.toList
      else w.under
    | .deliver .service => w.under.tail
    | .restart => []
    | _ => w.under

/-- One step of a secondary that keeps its progress in order. -/
def Step (w w' : Receiver σ) : Prop := ∃ action, KeepsSynced w.engine action ∧ w' = w.step action

abbrev Run : Receiver σ → Receiver σ → Prop := Relation.ReflTransGen Step

/-- The progress that was verified before the delivery for which the step touches the storage. -/
def before (w : Receiver σ) : MemberAction → Option ReplicationProgress
  | .service => w.under.head?
  | .verify => w.engine.delivery.map (·.replicationProgress)
  | _ => none

structure Inv (w : Receiver σ) : Prop where
  synced : Synced w.engine.receiving
  waiting : List.Forall₂ (fun entry r => entry.2.committedLsn ≤ r.verifiedLsn + 1)
    w.engine.stream w.under

/-- Every commit of a delivery is covered by what was verified before it, up to the item itself, and
every acknowledgement by what has been recorded. -/
structure Sound (w : Receiver σ) : Prop where
  commits : ∀ action : MemberAction,
    committedLsn (action.run w.engine).2.storage ≤ committedLsn w.engine.storage ∨
      ∃ r, w.before action = some r ∧
        committedLsn (action.run w.engine).2.storage ≤ r.verifiedLsn + 1
  acknowledges : ∀ ack, (MemberAction.publish.run w.engine).1 = some ack →
    ack.committedLsn ≤ ack.appliedLsn ∧ ack.appliedLsn ≤ ack.receivedLsn ∧
      (MemberAction.publish.run w.engine).2.progressStore.get? ack.fence = some ack.appliedLsn ∧
      ∃ d, w.engine.delivery = some d ∧ d.operation.committedLsn ≤ ack.appliedLsn

variable {w w' : Receiver σ}

omit [DurableState σ] in
theorem inv_start (identity : ReplicaIdentity) (storage : σ) :
    Inv ⟨.new identity storage, []⟩ :=
  ⟨⟨rfl, (fun _ _ _ hr => by cases hr), (fun _ hr => by cases hr), (fun _ hp => by cases hp),
    fun _ hd => by cases hd⟩, .nil⟩

/-- An operation is handed to the service under the progress of the engine. -/
theorem waiting_receive (h : w.Inv) {item : ReplicationItem} (hitem : item.Normalized) :
    List.Forall₂ (fun entry r => entry.2.committedLsn ≤ r.verifiedLsn + 1)
      (w.step (.deliver (.receive item))).engine.stream (w.step (.deliver (.receive item))).under := by
  simp only [step, EngineAction.run, MemberAction.run]
  refine triple_receiveReplication.holds (I := fun s => List.Forall₂ _ s.stream
    (if w.engine.stream.length < s.stream.length then
      w.under ++ w.engine.replicationProgress.toList else w.under)) ?_ ?_ w.engine rfl
  · rintro - _ ⟨-, a, progress, hd, ⟨-, rfl⟩ | ⟨-, rfl⟩⟩
    · simp only [lt_irrefl, if_false]
      exact h.waiting
    · simp only [List.length_append, List.length_singleton, Nat.lt_succ_self, if_true,
        hd.replicationProgress, Option.toList_some]
      refine List.rel_append h.waiting (.cons ?_ .nil)
      exact hitem.consistent.trans hd.next
  · rintro _ rfl
    simp only [lt_irrefl, if_false]
    exact h.waiting

theorem inv_step (hs : Step w w') (h : w.Inv) : w'.Inv := by
  obtain ⟨action, hkeeps, rfl⟩ := hs
  refine ⟨synced_receivesAll (receives_run h.synced hkeeps) h.synced, ?_⟩
  cases ha : action.isStream with
  | false =>
    have hstream := (aside_run h.synced hkeeps ha).stream
    have hunder : (w.step action).under = w.under := by
      unfold step
      split <;> first | rfl | cases ha
    rw [hunder, show (w.step action).engine.stream = w.engine.stream from hstream]
    exact h.waiting
  | true =>
    cases action with
    | restart => exact .nil
    | deliver action =>
      cases action with
      | receive item => exact waiting_receive h hkeeps
      | service =>
        have hw := h.waiting
        simp only [step, EngineAction.run, MemberAction.run, run_serviceApply]
        cases hstream : w.engine.stream with
        | nil =>
          rw [hstream, List.forall₂_nil_left_iff] at hw
          simp only [hstream, hw, List.tail_nil]
          exact .nil
        | cons entry rest =>
          rw [hstream] at hw
          obtain ⟨r, under, -, hrest, hunder⟩ := List.forall₂_cons_left_iff.1 hw
          rw [hunder]
          exact hrest
      | _ => cases ha
    | _ => cases ha

variable [LawfulDurableState σ]

theorem commit_le (s : σ) (c : Int) :
    committedLsn (commit s c).2 ≤ max (committedLsn s) c := by
  obtain ⟨-, -, hsame | ⟨-, hmax⟩⟩ := LawfulDurableState.commit_keeps s c
  · rw [hsame]
    exact le_max_left _ _
  · exact hmax.le

theorem apply_le (s : σ) (op : Operation) :
    committedLsn (DurableState.apply s op).2 ≤ max (committedLsn s) op.committedLsn := by
  obtain ⟨-, hsame | ⟨-, -, -, hmax⟩⟩ := LawfulDurableState.apply_append s op
  · rw [committedLsn, hsame]
    exact le_max_left _ _
  · exact hmax.le

omit [LawfulDurableState σ] in
theorem storage_verifyDelivery (e : Engine σ) : (verifyDelivery.run e).2.storage = e.storage ∨
    ∃ d, e.delivery = some d ∧
      (verifyDelivery.run e).2.storage = (commit e.storage d.envelope.committedLsn).2 := by
  refine Triple.holds (P := (· = e)) (Q := fun _ s => s.storage = e.storage ∨
    ∃ d, e.delivery = some d ∧ s.storage = (commit e.storage d.envelope.committedLsn).2)
    (E := fun s => s.storage = e.storage ∨ ∃ d, e.delivery = some d ∧
      s.storage = (commit e.storage d.envelope.committedLsn).2) ?_ (fun _ _ h => h) (fun _ h => h) e rfl
  refine triple_onFailure (F := fun s => s.storage = e.storage ∨ ∃ d, e.delivery = some d ∧
    s.storage = (commit e.storage d.envelope.committedLsn).2) ?_ fun _ h => h
  refine checks_heldDelivery.bind (.inl rfl) fun d hd => checks_require.bind (.inl rfl) fun _ _ => ?_
  refine checks_observe.bind (.inl rfl) ?_
  rintro e rfl
  refine checks_require.bind (.inl rfl) fun _ _ => ?_
  split_ifs
  · refine Triple.bind (R := fun _ s => ∃ d, e.delivery = some d ∧
      s.storage = (commit e.storage d.envelope.committedLsn).2) (triple_zoom.post ?_ ?_)
      fun _ => triple_update fun _ h => .inr h
    · rintro _ _ ⟨-, rfl⟩
      exact ⟨d, hd, rfl⟩
    · rintro _ rfl
      exact .inr ⟨d, hd, rfl⟩
  · exact triple_update_bind (I := fun s => s.storage = e.storage) (fun _ h => h ▸ rfl)
      (triple_pure fun _ h => .inl h)

omit [LawfulDurableState σ] in
theorem storage_memberAction {action : MemberAction} (e : Engine σ) (hservice : action ≠ .service)
    (hverify : action ≠ .verify) : (action.run e).2.storage = e.storage := by
  cases action with
  | service => exact absurd rfl hservice
  | verify => exact absurd rfl hverify
  | receive item =>
    refine triple_receiveReplication.holds (I := fun s => s.storage = e.storage) ?_
      (fun _ h => h ▸ rfl) e rfl
    rintro - _ ⟨-, a, progress, -, ⟨-, rfl⟩ | ⟨-, rfl⟩⟩ <;> rfl
  | confirm =>
    refine triple_confirmDelivery.holds (I := fun s => s.storage = e.storage) ?_
      (fun _ h => h ▸ rfl) e rfl
    rintro - _ ⟨d, ack, -, -, -, -, rfl⟩
    rfl
  | record =>
    refine triple_recordDelivery.holds (I := fun s => s.storage = e.storage) ?_ ?_ e rfl
    · rintro - _ ⟨d, ack, -, -, rfl⟩
      rfl
    · rintro _ (rfl | ⟨d, ack, -, -, rfl⟩) <;> rfl
  | publish =>
    refine triple_publishDelivery.holds (I := fun s => s.storage = e.storage) ?_ ?_ e rfl
    · rintro - _ ⟨d, ack, -, -, -, rfl⟩
      rfl
    · rintro _ (rfl | ⟨d, ack, -, -, rfl⟩) <;> rfl
  | cancel => rfl

theorem Inv.commits (h : w.Inv) (action : MemberAction) :
    committedLsn (action.run w.engine).2.storage ≤ committedLsn w.engine.storage ∨
      ∃ r, w.before action = some r ∧
        committedLsn (action.run w.engine).2.storage ≤ r.verifiedLsn + 1 := by
  by_cases hservice : action = .service
  · subst hservice
    have hw := h.waiting
    simp only [MemberAction.run, run_serviceApply]
    cases hstream : w.engine.stream with
    | nil => exact .inl (le_refl _)
    | cons entry rest =>
      rw [hstream] at hw
      obtain ⟨r, under, hle, -, hunder⟩ := List.forall₂_cons_left_iff.1 hw
      obtain hc | hc := le_max_iff.1 (apply_le w.engine.storage entry.2)
      · exact .inl hc
      · exact .inr ⟨r, by rw [before, hunder]; rfl, hc.trans hle⟩
  by_cases hverify : action = .verify
  · subst hverify
    obtain hsame | ⟨d, hd, hcommit⟩ := storage_verifyDelivery w.engine
    · exact .inl (by rw [show (MemberAction.verify.run w.engine).2.storage = _ from hsame])
    · have hsynced := h.synced.delivery d hd
      rw [show (MemberAction.verify.run w.engine).2.storage = _ from hcommit]
      obtain hc | hc := le_max_iff.1 (commit_le w.engine.storage d.envelope.committedLsn)
      · exact .inl hc
      · refine .inr ⟨d.replicationProgress, by rw [before, hd]; rfl, ?_⟩
        exact (hc.trans hsynced.normalized.consistent).trans hsynced.reaches
  · exact .inl (by rw [storage_memberAction _ hservice hverify])

omit [LawfulDurableState σ] in
theorem Inv.acknowledges (h : w.Inv) {ack : ReplicationAck}
    (hack : (MemberAction.publish.run w.engine).1 = some ack) :
    ack.committedLsn ≤ ack.appliedLsn ∧ ack.appliedLsn ≤ ack.receivedLsn ∧
      (MemberAction.publish.run w.engine).2.progressStore.get? ack.fence = some ack.appliedLsn ∧
      ∃ d, w.engine.delivery = some d ∧ d.operation.committedLsn ≤ ack.appliedLsn := by
  have hpost := triple_publishDelivery w.engine rfl
  simp only [MemberAction.run] at hack ⊢
  cases hr : publishDelivery.run w.engine with
  | mk result s =>
    rw [hr] at hpost hack
    cases result with
    | error _ => cases hack
    | ok issued =>
      obtain ⟨d, progress, hd, hs, hissued, hs'⟩ := hpost
      obtain rfl : issued = ack := Option.some.inj hack
      have hsynced := h.synced.delivery d hd
      subst hissued hs'
      refine ⟨min_le_right _ _, le_max_right _ _, ?_, d, hd, ?_⟩
      · rw [show (d.acknowledgement w.engine.identity progress).fence = d.envelope.fence from rfl,
          ← hsynced.fence]
        exact hsynced.stored
      · rw [hsynced.operation]
        exact hsynced.normalized.consistent.trans (hsynced.recorded (hs ▸ rfl))

omit [LawfulDurableState σ] in
theorem receives_of_run (hrun : Run w w') (h : w.Inv) :
    w'.Inv ∧ ReceivesAll w.engine.receiving w'.engine.receiving := by
  induction hrun with
  | refl => exact ⟨h, .refl⟩
  | tail _ hs ih =>
    refine ⟨inv_step hs ih.1, ih.2.trans ?_⟩
    obtain ⟨action, hkeeps, rfl⟩ := hs
    exact receives_run ih.1.synced hkeeps

/-- In every run of a secondary whose deliveries are not overtaken, commits and acknowledgements are
covered by what is verified, and the verified LSN under a fence never decreases. -/
theorem sound_of_run {identity : ReplicaIdentity} {storage : σ}
    (hrun : Run ⟨.new identity storage, []⟩ w) :
    w.Sound ∧ ∀ w', Run w w' →
      (∀ f v, w.engine.progressStore.get? f = some v →
        ∃ v', w'.engine.progressStore.get? f = some v' ∧ v ≤ v') ∧
      ∀ r r', w.engine.replicationProgress = some r → w'.engine.replicationProgress = some r' →
        r'.fence = r.fence → r.verifiedLsn ≤ r'.verifiedLsn := by
  have hinv := (receives_of_run hrun (inv_start identity storage)).1
  refine ⟨⟨hinv.commits, fun _ => hinv.acknowledges⟩, fun w' hrun' => ?_⟩
  have hreceives := (receives_of_run hrun' hinv).2
  refine ⟨fun f v hv => ?_, fun r r' hr hr' hf => ?_⟩
  · exact stored_receivesAll hreceives hinv.synced ⟨v, hv, le_refl _⟩
  · refine (atLeast_receivesAll hreceives hinv.synced ⟨hinv.synced.memory r hr, ?_⟩).memory r' hr' hf
    intro r'' hr'' _
    obtain rfl := Option.some.inj (hr.symm.trans hr'')
    exact le_refl _

omit [LawfulDurableState σ] in
theorem run_of_allAdmitted {actions : List (EngineAction σ)} :
    ∀ {w : Receiver σ}, EngineAction.AllAdmitted KeepsSynced w.engine actions →
      Run w (actions.foldl step w) := by
  induction actions with
  | nil => exact fun _ => .refl
  | cons action rest ih => exact fun h => .head ⟨action, h.1, rfl⟩ (ih h.2)

end Receiver

/-! ## An item that is delivered twice -/

namespace TwoReplicas

/-- The secondary, with two operations that it applied under an earlier authority. -/
def recovered : Engine LogStorage := .new secondaryIdentity ⟨[[1], [2]], 0⟩

def joined : List (EngineAction LogStorage) :=
  [.openReplicator 0, .prepare (authority secondaryIdentity) 0,
    .admitAuthority (authority secondaryIdentity), .commit ⟨authority secondaryIdentity, 1, 0⟩,
    .changeRole ⟨0, 1⟩ .activeSecondary]

def firstItem : ReplicationItem :=
  ⟨primaryIdentity, secondaryIdentity, ⟨0, 1⟩, none, "c", 1, 0, [1]⟩

def delivered : List (EngineAction LogStorage) :=
  [.deliver (.receive firstItem), .deliver .verify, .deliver .confirm, .deliver .record,
    .deliver .publish]

/-- The item comes again, and the prefix of a failover is certified while its delivery is in
flight. -/
def overtaken : Engine LogStorage :=
  EngineAction.runAll recovered (joined ++ delivered ++ [.deliver (.receive firstItem),
    .authorizePrefix 2, .deliver .verify, .deliver .confirm, .deliver .record])

theorem notRecorded_of_all {e : Engine LogStorage}
    (h : (e.delivery.all fun d => !d.stage.isRecorded) = true) (d : Delivery)
    (hd : e.delivery = some d) : d.stage.isRecorded = false := by
  rw [hd] at h
  simpa using h

theorem sound_delivered : (List.foldl Receiver.step ⟨recovered, []⟩ (joined ++ delivered)).Sound := by
  refine (Receiver.sound_of_run (Receiver.run_of_allAdmitted ?_)).1
  refine ⟨trivial, trivial, trivial, trivial, trivial, ⟨by decide, by decide, by decide, by decide⟩,
    notRecorded_of_all ?_, notRecorded_of_all ?_, notRecorded_of_all ?_, trivial, trivial⟩
  all_goals decide +kernel

/-- The delivery acknowledges, and puts back into memory, the progress from before the certified
prefix. -/
theorem verified_decreases :
    ((MemberAction.publish.run overtaken).1.map (·.appliedLsn) = some 1 ∧
      (MemberAction.publish.run overtaken).2.progressStore.get? firstItem.fence = some 2) ∧
    overtaken.replicationProgress = some ⟨firstItem.fence, 2⟩ ∧
      (MemberAction.publish.run overtaken).2.replicationProgress = some ⟨firstItem.fence, 1⟩ := by
  decide +kernel

end TwoReplicas

end Kuberic
