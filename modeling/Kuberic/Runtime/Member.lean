import Kuberic.Runtime.Delivery

/-!
# What a member has verified

A member follows one primary under one fence.  `MemberInv` says that whatever the member counts as
verified under that fence is stored there exactly as the primary stores it: its published progress,
its durable progress record, and the delivery in flight at every stage.  Each step of a delivery
keeps the invariant, and an acknowledgement reports no more than what it covers.
-/

namespace Kuberic

open Effect DurableState

variable {σ : Type} [DurableState σ]

/-! ## The steps of a member -/

/-- One step of a member on its own: the reception of an item, or the next step of the delivery in
flight. -/
inductive MemberAction
  | receive (item : ReplicationItem)
  | service
  | verify
  | confirm
  | record
  | publish
  /-- The delivery is given up, for example because its connection closed. -/
  | cancel

/-- The engine after the step, and the acknowledgement that the step issued. -/
def MemberAction.run (action : MemberAction) (e : Engine σ) : Option ReplicationAck × Engine σ :=
  match action with
  | .receive item => (none, ((receiveReplication item).run e).2)
  | .service => (none, (serviceApply.run e).2)
  | .verify => (none, (verifyDelivery.run e).2)
  | .confirm => (none, (confirmDelivery.run e).2)
  | .record => (none, (recordDelivery.run e).2)
  | .publish => ((publishDelivery.run e).1.toOption, (publishDelivery.run e).2)
  | .cancel => (none, e.releaseDelivery)

variable [LawfulDurableState σ]

/-! ## The invariant -/

/-- The application has reported the operation of the delivery. -/
def DeliveryStage.isApplied : DeliveryStage → Bool
  | .enqueued _ | .present => false
  | .applied _ | .confirmed _ | .recorded _ => true

/-- What a delivery of the primary's item knows. -/
structure DeliveryCovers (s primary : σ) (d : Delivery) : Prop where
  verified : Covers s primary d.replicationProgress.verifiedLsn
  sent : Stored primary d.envelope.lsn d.envelope.data
  applied : d.stage.isApplied = true → Stored s d.envelope.lsn d.envelope.data

structure DeliveryInv (f : AuthorityFence) (primary : σ) (e : Engine σ) (d : Delivery) : Prop where
  operation : d.operation = operationOf d.envelope
  fence : d.replicationProgress.fence = d.envelope.fence
  /-- The number of an operation that is waiting belongs to no other operation. -/
  ticket : ∀ t, d.stage = .enqueued t →
    t < e.streamCount ∧ ∀ op, (t, op) ∈ e.stream → op = d.operation
  covers : d.envelope.fence = f → DeliveryCovers e.storage primary d

structure MemberInv (f : AuthorityFence) (primary : σ) (e : Engine σ) : Prop where
  progress : ∀ r, e.replicationProgress = some r → r.fence = f →
    Covers e.storage primary r.verifiedLsn
  store : ∀ v, e.progressStore.get? f = some v → Covers e.storage primary v
  tickets : ∀ entry ∈ e.stream, entry.1 < e.streamCount
  delivery : ∀ d, e.delivery = some d → DeliveryInv f primary e d

section Growth

variable {f : AuthorityFence} {s s' primary primary' : σ} {d : Delivery} {e : Engine σ}

theorem DeliveryCovers.grows (h : DeliveryCovers s primary d) (hs : Grows s s')
    (hp : Grows primary primary') : DeliveryCovers s' primary' d where
  verified := h.verified.grows hs hp
  sent := h.sent.grows hp
  applied hstage := (h.applied hstage).grows hs

theorem MemberInv.grows (h : MemberInv f primary e) (hs : Grows e.storage s)
    (hp : Grows primary primary') : MemberInv f primary' { e with storage := s } where
  progress r hr hf := (h.progress r hr hf).grows hs hp
  store v hv := (h.store v hv).grows hs hp
  tickets := h.tickets
  delivery d hd :=
    ⟨(h.delivery d hd).operation, (h.delivery d hd).fence, (h.delivery d hd).ticket,
      fun hf => ((h.delivery d hd).covers hf).grows hs hp⟩

theorem MemberInv.releaseDelivery (h : MemberInv f primary e) :
    MemberInv f primary e.releaseDelivery :=
  ⟨h.progress, h.store, h.tickets, fun _ hd => by cases hd⟩

theorem MemberInv.withDelivery (h : MemberInv f primary e) (hd : DeliveryInv f primary e d) :
    MemberInv f primary { e with delivery := some d } where
  progress := h.progress
  store := h.store
  tickets := h.tickets
  delivery d' hd' := by
    obtain rfl := Option.some.inj hd'
    exact ⟨hd.operation, hd.fence, hd.ticket, hd.covers⟩

end Growth

/-! ## Every step keeps the invariant -/

/-- What one step of the member leaves. -/
structure Follows (f : AuthorityFence) (primary : σ) (e e' : Engine σ) : Prop where
  inv : MemberInv f primary e'
  identity : e'.identity = e.identity
  storage : Grows e.storage e'.storage

section Steps

variable {f : AuthorityFence} {primary : σ} {e : Engine σ} (h : MemberInv f primary e)

include h

theorem follows_self : Follows f primary e e := ⟨h, rfl, .refl _⟩

theorem follows_releaseDelivery : Follows f primary e e.releaseDelivery :=
  ⟨h.releaseDelivery, rfl, .refl _⟩

theorem follows_receiveReplication {item : ReplicationItem}
    (hitem : item.fence = f → Stored primary item.lsn item.data) :
    Follows f primary e ((receiveReplication item).run e).2 := by
  refine triple_receiveReplication.holds (I := Follows f primary e) ?_ ?_ e rfl
  · rintro _ e' ⟨-, a, progress, hd, hcase⟩
    have hcovers : ∀ stage : DeliveryStage, stage.isApplied = false → item.fence = f →
        DeliveryCovers e.storage primary (received e item a progress stage) := by
      intro stage hstage hf
      have hfence : progress.fence = f := by rw [hd.fence, hd.carried, hf]
      refine ⟨h.progress progress hd.replicationProgress hfence, hitem hf, fun hs => ?_⟩
      have : stage.isApplied = true := hs
      rw [hstage] at this
      cases this
    obtain ⟨-, rfl⟩ | ⟨-, rfl⟩ := hcase
    · exact ⟨h.withDelivery ⟨rfl, hd.fence.trans hd.carried, (fun t ht => by cases ht), hcovers .present rfl⟩,
        rfl, .refl _⟩
    · refine ⟨⟨h.progress, h.store, ?_, ?_⟩, rfl, .refl _⟩
      · intro entry hentry
        obtain hentry | hentry := List.mem_append.1 hentry
        · exact (h.tickets entry hentry).trans (Nat.lt_succ_self _)
        · obtain rfl := List.mem_singleton.1 hentry
          exact Nat.lt_succ_self _
      · intro d hd'
        obtain rfl := Option.some.inj hd'
        refine ⟨rfl, hd.fence.trans hd.carried, ?_, hcovers (.enqueued e.streamCount) rfl⟩
        rintro t ⟨⟩
        refine ⟨Nat.lt_succ_self _, fun op hop => ?_⟩
        obtain hop | hop := List.mem_append.1 hop
        · exact absurd (h.tickets _ hop) (lt_irrefl _)
        · exact (Prod.mk.inj (List.mem_singleton.1 hop)).2
  · rintro _ rfl
    exact follows_self h

/-- The delivery that hears from the application has its own operation applied: no other operation
has its number. -/
theorem follows_serviceApply : Follows f primary e (serviceApply.run e).2 := by
  rw [run_serviceApply]
  match hstream : e.stream with
  | [] => exact follows_self h
  | (ticket, operation) :: rest =>
    have hgrow := grows_apply e.storage operation
    have hsub : ∀ entry ∈ rest, entry ∈ e.stream := fun entry hmem =>
      hstream ▸ List.mem_cons_of_mem _ hmem
    refine ⟨⟨?_, ?_, ?_, ?_⟩, rfl, hgrow⟩
    · exact fun r hr hf => (h.progress r hr hf).grows hgrow (.refl _)
    · exact fun v hv => (h.store v hv).grows hgrow (.refl _)
    · exact fun entry hmem => h.tickets entry (hsub entry hmem)
    · intro d' hd'
      obtain ⟨d, hd, hhear⟩ := Option.bind_eq_some_iff.1 hd'
      have hinv := h.delivery d hd
      obtain ⟨-, rfl⟩ | ⟨ack, hstage, hok, -, rfl⟩ := Delivery.hear_eq_some hhear
      · refine ⟨hinv.operation, hinv.fence, fun t ht => ⟨(hinv.ticket t ht).1, fun op hop => ?_⟩, fun hf => ?_⟩
        · exact (hinv.ticket t ht).2 op (hsub _ hop)
        · exact (hinv.covers hf).grows hgrow (.refl _)
      · obtain rfl : operation = d.operation :=
          (hinv.ticket ticket hstage).2 operation (hstream ▸ List.mem_cons_self)
        obtain ⟨-, happlied, hdata⟩ := LawfulDurableState.apply_ok e.storage d.operation hok
        refine ⟨hinv.operation, hinv.fence, (fun t ht => by cases ht), fun hf => ?_⟩
        have hcov := (hinv.covers hf).grows hgrow (.refl _)
        refine ⟨hcov.verified, hcov.sent, fun _ => ?_⟩
        have hlsn : d.operation.lsn = d.envelope.lsn := by rw [hinv.operation]; rfl
        have hbytes : d.operation.data = d.envelope.data := by rw [hinv.operation]; rfl
        rw [hlsn] at happlied
        rw [hlsn, hbytes] at hdata
        exact ⟨happlied.ge, hdata⟩

theorem follows_verifyDelivery : Follows f primary e (verifyDelivery.run e).2 := by
  refine triple_verifyDelivery.holds (I := Follows f primary e) ?_ ?_ e rfl
  · rintro _ e' ⟨d, ack, storage, hd, -, hverified, hstorage, rfl⟩
    have hgrow : Grows e.storage storage := by
      obtain ⟨rfl, -⟩ | ⟨rfl, -⟩ := hstorage
      · exact .refl _
      · exact grows_commit _ _
    have hinv := h.delivery d hd
    have hstored := LawfulDurableState.verifyApplied_true _ _ hverified
    rw [hinv.operation] at hstored
    refine ⟨(h.grows hgrow (.refl _)).withDelivery ⟨hinv.operation, hinv.fence, (fun t ht => by cases ht), ?_⟩,
      rfl, hgrow⟩
    intro hf
    have hcov := (hinv.covers hf).grows hgrow (.refl _)
    exact ⟨hcov.verified, hcov.sent, fun _ => Stored.grows hstored hgrow⟩
  · rintro e' ⟨storage, hstorage, rfl⟩
    have hgrow : Grows e.storage storage := by
      obtain rfl | ⟨c, rfl⟩ := hstorage
      · exact .refl _
      · exact grows_commit _ _
    exact ⟨(h.grows hgrow (.refl _)).releaseDelivery, rfl, hgrow⟩

theorem follows_confirmDelivery : Follows f primary e (confirmDelivery.run e).2 := by
  refine triple_confirmDelivery.holds (I := Follows f primary e) ?_ ?_ e rfl
  · rintro _ e' ⟨d, ack, hd, hstage, -, -, rfl⟩
    have hinv := h.delivery d hd
    refine ⟨h.withDelivery ⟨hinv.operation, hinv.fence, (fun t ht => by cases ht), fun hf => ?_⟩, rfl, .refl _⟩
    have hcov := hinv.covers hf
    exact ⟨hcov.verified, hcov.sent, fun _ => hcov.applied (by rw [hstage]; rfl)⟩
  · rintro _ rfl
    exact follows_releaseDelivery h

/-- The verified prefix grows by the operation that the primary sent. -/
theorem covers_verified {d : Delivery} {ack : DurableApplicationProgress}
    (hd : e.delivery = some d) (hstage : d.stage = .confirmed ack) (hf : d.envelope.fence = f) :
    Covers e.storage primary d.verified.verifiedLsn := by
  have hcov := (h.delivery d hd).covers hf
  unfold Delivery.verified
  split_ifs with hnext
  · have hstored := hcov.applied (by rw [hstage]; rfl)
    have hsent := hcov.sent
    rw [hnext] at hstored hsent
    rw [hnext]
    exact hcov.verified.succ hstored hsent
  · exact hcov.verified

omit h [DurableState σ] [LawfulDurableState σ] in
theorem fence_verified (d : Delivery) : d.verified.fence = d.replicationProgress.fence := by
  unfold Delivery.verified
  split_ifs <;> rfl

theorem covers_storeAfter {d : Delivery} {ack : DurableApplicationProgress} {v : Int}
    (hd : e.delivery = some d) (hstage : d.stage = .confirmed ack)
    (hv : (d.storeAfter e.progressStore).get? f = some v) : Covers e.storage primary v := by
  unfold Delivery.storeAfter at hv
  split_ifs at hv with hnext
  · by_cases hf : f = d.verified.fence
    · rw [← hf, AssocMap.get?_insert_self] at hv
      obtain rfl := Option.some.inj hv
      refine covers_verified h hd hstage ?_
      rw [hf, fence_verified, (h.delivery d hd).fence]
    · rw [AssocMap.get?_insert_of_ne _ _ hf] at hv
      exact h.store v hv
  · exact h.store v hv

theorem follows_recordDelivery : Follows f primary e (recordDelivery.run e).2 := by
  refine triple_recordDelivery.holds (I := Follows f primary e) ?_ ?_ e rfl
  · rintro _ e' ⟨d, ack, hd, hstage, rfl⟩
    have hinv := h.delivery d hd
    refine ⟨⟨h.progress, fun v hv => covers_storeAfter h hd hstage hv, h.tickets, ?_⟩, rfl, .refl _⟩
    rintro d' hd'
    obtain rfl := Option.some.inj hd'
    refine ⟨hinv.operation, (fence_verified d).trans hinv.fence, (fun t ht => by cases ht),
      fun hf => ?_⟩
    have hcov := hinv.covers hf
    exact ⟨covers_verified h hd hstage hf, hcov.sent, fun _ => hcov.applied (by rw [hstage]; rfl)⟩
  · rintro e' (rfl | ⟨d, ack, hd, hstage, rfl⟩)
    · exact follows_releaseDelivery h
    · exact ⟨⟨h.progress, fun v hv => covers_storeAfter h hd hstage hv, h.tickets,
        fun _ hd => by cases hd⟩, rfl, .refl _⟩

theorem follows_published {d : Delivery} {ack : DurableApplicationProgress}
    (hd : e.delivery = some d) : Follows f primary e (e.published d ack) := by
  have hinv := h.delivery d hd
  refine ⟨⟨?_, h.store, h.tickets, fun _ hd => by cases hd⟩, rfl, .refl _⟩
  intro r hr hf
  obtain rfl := Option.some.inj hr
  exact (hinv.covers (hinv.fence.symm.trans hf)).verified

/-- An acknowledgement of the fence reports no more than what the member has verified. -/
theorem follows_publishDelivery : Follows f primary e (publishDelivery.run e).2 ∧
    ∀ issued, (publishDelivery.run e).1 = .ok issued → issued.receiver = e.identity ∧
      (issued.fence = f → Covers (publishDelivery.run e).2.storage primary issued.appliedLsn) := by
  have hpost := @triple_publishDelivery σ e e rfl
  match hr : publishDelivery.run e, hpost with
  | (.ok issued, e'), ⟨d, ack, hd, hstage, hissued, he'⟩ =>
    subst he'
    refine ⟨follows_published h hd, fun issued' hok => ?_⟩
    obtain rfl := Except.ok.inj hok
    rw [hissued]
    exact ⟨rfl, fun hf => ((h.delivery d hd).covers hf).verified⟩
  | (.error error, e'), hcase =>
    refine ⟨?_, fun issued' hok => by cases hok⟩
    obtain rfl | ⟨d, ack, hd, -, rfl⟩ := hcase
    · exact follows_releaseDelivery h
    · exact follows_published h hd

theorem follows_run (action : MemberAction)
    (hitem : ∀ item, action = .receive item → item.fence = f → Stored primary item.lsn item.data) :
    Follows f primary e (action.run e).2 ∧ ∀ ack, (action.run e).1 = some ack →
      ack.receiver = e.identity ∧
        (ack.fence = f → Covers (action.run e).2.storage primary ack.appliedLsn) := by
  cases action with
  | receive item =>
    exact ⟨follows_receiveReplication h (hitem item rfl), fun _ hack => by cases hack⟩
  | service => exact ⟨follows_serviceApply h, fun _ hack => by cases hack⟩
  | verify => exact ⟨follows_verifyDelivery h, fun _ hack => by cases hack⟩
  | confirm => exact ⟨follows_confirmDelivery h, fun _ hack => by cases hack⟩
  | record => exact ⟨follows_recordDelivery h, fun _ hack => by cases hack⟩
  | publish =>
    refine ⟨(follows_publishDelivery h).1, fun ack hack => (follows_publishDelivery h).2 ack ?_⟩
    simp only [MemberAction.run] at hack
    cases hr : (publishDelivery.run e).1 with
    | error error =>
      rw [hr] at hack
      cases hack
    | ok issued =>
      rw [hr] at hack
      rw [Option.some.inj hack]
  | cancel => exact ⟨follows_releaseDelivery h, fun _ hack => by cases hack⟩

end Steps

end Kuberic
