import Kuberic.Runtime.BuildRun
import Kuberic.Runtime.CopyProducer
import Kuberic.Runtime.Fencing

/-!
# The copies of an engine

Receiving an item, accepting its acknowledgement and producing the stream are steps that leave alone
what an engine can acknowledge.
-/

namespace Kuberic

open DurableState CopyState BuildStream

variable {σ : Type} {e : Engine σ} {issued : List ReplicationAck}

theorem mem_values_recordBuildProgress {store store' : BuildStore} {p b : BuildProgress}
    (h : store.recordBuildProgress p = .ok store') (hb : b ∈ store'.progress.values) :
    b = p ∨ b ∈ store.progress.values := by
  simp only [BuildStore.recordBuildProgress, Check.then_eq_ok] at h
  obtain ⟨-, -, -, hstore⟩ := h
  cases hstore
  exact (List.mem_cons.1 hb).imp_right AssocMap.mem_values_of_erase

/-! ## The target -/

namespace BuildTarget

variable {t : BuildTarget σ} {i : CopyItem} {progress updated : BuildProgress}
  {durable : DurableApplicationProgress} {drop : Option DropPoint}

theorem publish_storage : (t.publish i updated durable drop).2.storage = t.storage := by
  unfold publish
  split
  · rfl
  · split
    · rfl
    · dsimp only
      split <;> rfl

variable [DurableState σ]

/-- An item changes the storage and publishes at most what the storage then holds. -/
def Stores (t : BuildTarget σ) (progress : BuildProgress) (i : CopyItem) (drop : Option DropPoint)
    (t' : BuildTarget σ) : Prop :=
  ∃ storage, t' = { t with storage } ∨ ∃ updated durable,
    t' = (publish { t with storage } i updated durable drop).2 ∧
      updated.authority = progress.authority ∧
      updated.durableLsn ≤ max progress.durableLsn (appliedLsn storage) ∧
      durable.appliedLsn ≤ max t.currentProgress (appliedLsn storage)

theorem stores_publish {storage : σ} {lsn : Int} (hauthority : updated.authority = progress.authority)
    (hu : updated.durableLsn ≤ max progress.durableLsn (appliedLsn storage))
    (hd : durable.appliedLsn ≤ max t.currentProgress (appliedLsn storage)) :
    t.Stores progress i drop (match publish { t with storage } i updated durable drop with
      | (.error e, t') => ((.error e : Result Int), t')
      | (.ok (), t') => (.ok lsn, t')).2 := by
  refine ⟨storage, .inr ⟨updated, durable, ?_, hauthority, hu, hd⟩⟩
  split <;> next h => rw [h]

theorem stores_receiveOperation [LawfulDurableState σ] :
    t.Stores progress i drop (t.receiveOperation progress i drop).2 := by
  simp only [receiveOperation]
  split_ifs with _ _ _ hle
  · exact ⟨t.storage, .inl rfl⟩
  · exact ⟨t.storage, .inl rfl⟩
  · exact ⟨t.storage, .inl rfl⟩
  · exact ⟨t.storage, .inl rfl⟩
  · exact stores_publish rfl (le_max_of_le_right hle) (le_max_right _ _)
  · exact ⟨t.storage, .inl rfl⟩
  split
  · next storage _ => exact ⟨storage, .inl rfl⟩
  next durable storage h =>
  obtain ⟨hdurable, happlied, -⟩ := LawfulDurableState.apply_ok _ _ (congrArg Prod.fst h)
  rw [h] at hdurable happlied
  split
  · exact ⟨storage, .inl rfl⟩
  · refine stores_publish rfl (le_max_of_le_right happlied.ge) ?_
    rw [hdurable]
    exact le_max_right _ _

variable [CopyState σ]

theorem stores_receiveChunk : t.Stores progress i drop (t.receiveChunk progress i drop).2 := by
  simp only [receiveChunk]
  split
  · next storage _ => exact ⟨storage, .inl rfl⟩
  · exact stores_publish rfl (le_max_left _ _) (le_max_left _ _)

theorem stores_receiveFinal [LawfulCopyState σ] :
    t.Stores progress i drop (t.receiveFinal progress i drop).2 := by
  simp only [receiveFinal]
  split
  · exact ⟨t.storage, .inl rfl⟩
  split_ifs
  · exact ⟨t.storage, .inl rfl⟩
  split
  · next storage _ => exact ⟨storage, .inl rfl⟩
  next durable storage h =>
  obtain ⟨hdurable, -⟩ := LawfulCopyState.finishCopy_ok t.storage _ _ _ (congrArg Prod.fst h)
  rw [h] at hdurable
  split_ifs with hlost
  · exact ⟨storage, .inl rfl⟩
  · have happlied : durable.appliedLsn = appliedLsn storage := by rw [hdurable]; rfl
    rw [not_or, not_lt, happlied] at hlost
    exact stores_publish rfl (le_max_of_le_right hlost.1) (le_max_of_le_right happlied.le)

theorem stores_receiveCopyItem [LawfulDurableState σ] [LawfulCopyState σ] [Sha256]
    (t : BuildTarget σ) (i : CopyItem) (drop : Option DropPoint) :
    (t.receiveCopyItem i drop).2 = t ∨
    ∃ progress, t.builds.get? i.buildId = some progress ∧
      t.Stores progress i drop (t.receiveCopyItem i drop).2 := by
  unfold receiveCopyItem
  split
  · exact .inl rfl
  next progress hprogress =>
  refine .inr ⟨progress, (CopyStream.copyProgress_eq_ok hprogress).1, ?_⟩
  have hreceived : t.Stores progress i drop
      (if i.sequence ≤ progress.lastSequence then (t.receiveDuplicate progress i, t)
      else if i.snapshotChunk then t.receiveChunk progress i drop
      else if i.finalItem then t.receiveFinal progress i drop
      else t.receiveOperation progress i drop).2 := by
    split_ifs
    · exact ⟨t.storage, .inl rfl⟩
    · exact stores_receiveChunk
    · exact stores_receiveFinal
    · exact stores_receiveOperation
  dsimp only
  split <;>
    · next h =>
      rw [h] at hreceived
      exact hreceived

end BuildTarget

section Target

variable [DurableState σ] [CopyState σ] [LawfulDurableState σ] [LawfulCopyState σ] [Sha256]

theorem elsewhere_receiveCopyItem (h : EngineInv issued e) {i : CopyItem} {drop : Option DropPoint}
    (hgrows : appliedLsn e.storage ≤
      appliedLsn (e.buildTarget.receiveCopyItem i drop).2.storage) :
    e.Elsewhere (e.withTarget (e.buildTarget.receiveCopyItem i drop).2) := by
  have hstorage {storage : σ} (hle : appliedLsn e.storage ≤ appliedLsn storage) :
      e.Elsewhere (e.withTarget { e.buildTarget with storage }) :=
    ⟨rfl, rfl, rfl, rfl, rfl, .inl rfl, hle, le_rfl, h.bounded.current.trans hle, h.log,
      fun _ hb => .inl hb, fun _ hb => .inl hb⟩
  obtain hsame | ⟨progress, hget, storage, hsame | ⟨updated, durable, heq, hauthority, hu, hd⟩⟩ :=
    e.buildTarget.stores_receiveCopyItem i drop
  · rw [hsame]
    exact hstorage le_rfl
  · rw [hsame] at hgrows ⊢
    exact hstorage hgrows
  rw [heq] at hgrows ⊢
  have hle : appliedLsn e.storage ≤ appliedLsn storage := by rwa [BuildTarget.publish_storage] at hgrows
  have hmem : progress ∈ e.builds.values := (AssocMap.mem_values_iff _ _).2 ⟨_, hget⟩
  unfold BuildTarget.publish
  split
  · exact hstorage hle
  split
  · exact hstorage hle
  next store hrecord =>
  have hcurrent : durable.appliedLsn ≤ appliedLsn storage :=
    hd.trans (max_le (h.bounded.current.trans hle) le_rfl)
  have hupdated : updated.authority.target = e.identity → updated.durableLsn ≤ appliedLsn storage :=
    fun ht => hu.trans (max_le ((h.builds _ hmem (hauthority ▸ ht)).trans hle) le_rfl)
  have hstore : ∀ b ∈ store.progress.values, b ∈ e.buildStore.values ∨
      (b.authority.target = e.identity → b.durableLsn ≤ appliedLsn storage) := by
    intro b hb
    obtain rfl | hb := mem_values_recordBuildProgress hrecord hb
    · exact .inr hupdated
    · exact .inl hb
  dsimp only
  split
  · exact ⟨rfl, rfl, rfl, rfl, rfl, .inl rfl, hle, le_rfl, h.bounded.current.trans hle, h.log,
      fun _ hb => .inl hb, hstore⟩
  · refine ⟨rfl, rfl, rfl, rfl, rfl, .inl rfl, hle, le_max_left _ _,
      max_le (h.bounded.current.trans hle) hcurrent, h.log, fun b hb => ?_, hstore⟩
    obtain rfl | hb := List.mem_cons.1 hb
    · exact .inr hupdated
    · exact .inl (AssocMap.mem_values_of_erase hb)

end Target

/-! ## The source -/

section Source

variable [DurableState σ]

theorem elsewhere_of_source (h : EngineInv issued e) {source : BuildSource}
    (hstore : ∀ b ∈ source.store.progress.values, b ∈ e.buildStore.values ∨
      b.authority.target ≠ e.identity) : e.Elsewhere (e.withSource source) :=
  ⟨rfl, rfl, rfl, rfl, rfl, .inl rfl, le_rfl, le_rfl, h.bounded.current, h.log,
    fun _ hb => .inl hb, fun b hb => (hstore b hb).imp_right fun hne ht => absurd ht hne⟩

theorem elsewhere_acceptCopyAcknowledgement (h : EngineInv issued e) {ack : CopyAck}
    {drop : Option DropPoint}
    (hother : ∀ build, e.outboundBuilds.get? ack.buildId = some build →
      build.progress.authority.target ≠ e.identity) :
    e.Elsewhere (e.withSource (e.buildSource.acceptCopyAcknowledgement ack drop).2) := by
  refine elsewhere_of_source h ?_
  unfold BuildSource.acceptCopyAcknowledgement
  split
  · exact fun _ hb => .inl hb
  next build hbuild =>
  split
  · exact fun _ hb => .inl hb
  split
  · exact fun _ hb => .inl hb
  split
  · exact fun _ hb => .inl hb
  dsimp only
  split
  · exact fun _ hb => .inl hb
  next store hrecord =>
  have hstore : ∀ b ∈ store.progress.values, b ∈ e.buildStore.values ∨
      b.authority.target ≠ e.identity := by
    intro b hb
    obtain rfl | hb := mem_values_recordBuildProgress hrecord hb
    · exact .inr (hother build hbuild)
    · exact .inl hb
  split <;> exact hstore

theorem elsewhere_prepareCopy {a : BuildAuthority} {history : List Operation} {s : BuildStream σ}
    (h : EngineInv issued e) (hs : prepareCopy e a history = .ok s) : e.Elsewhere s.engine := by
  rw [prepareCopy_source hs]
  refine elsewhere_of_source h ?_
  unfold BuildSource.beginCopy
  split <;> exact fun _ hb => .inl hb

theorem elsewhere_produce {s : BuildStream σ} (h : EngineInv issued s.engine)
    (hother : s.authority.target ≠ s.engine.identity) (action : ProducerAction) :
    s.engine.Elsewhere (s.produce action).engine := by
  obtain ⟨source, hsource, hengine, -⟩ := produce_source (s := s) action
  rw [hengine]
  refine elsewhere_of_source h ?_
  cases hsource with
  | stay | take | cancel => exact fun _ hb => .inl hb
  | emit item =>
    unfold BuildSource.recordEmitted
    split <;> exact fun _ hb => .inl hb
  | freeze boundary =>
    unfold BuildSource.freezeCatchUpBoundary
    split
    · exact fun _ hb => .inl hb
    next build _ =>
    split
    · exact fun _ hb => .inl hb
    next hchanged =>
    rw [not_or, not_not] at hchanged
    split
    · exact fun _ hb => .inl hb
    · next store hrecord =>
      intro b hb
      obtain rfl | hb := mem_values_recordBuildProgress hrecord hb
      · exact .inr (show build.progress.authority.target ≠ _ from hchanged.1 ▸ hother)
      · exact .inl hb

end Source

end Kuberic
