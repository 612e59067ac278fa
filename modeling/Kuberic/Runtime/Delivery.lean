import Kuberic.Runtime.Engine

/-!
# Delivery of a replication item

`receiveReplication` takes the delivery lock, checks the item against the authority in memory and on
disk and hands a new operation to the service.  The rest of the delivery runs in steps between which
other work of the process can happen: the application reports the operation, the authority is
confirmed, the verified LSN is recorded, and the acknowledgement is issued.  A step that fails
releases the lock.
-/

namespace Kuberic

open Effect DurableState

variable {σ : Type}

def Engine.releaseDelivery (e : Engine σ) : Engine σ := { e with delivery := none }

/-- The local role lets a replica receive replication. -/
def isSecondary (role : ReplicaRole) : Bool := role == .activeSecondary || role == .idleSecondary

/-- The checks of `receive_replication`, up to and including the verification gap. -/
def checkDelivery (envelope : ReplicationItem) :
    EngineM σ (ManagedReplicaConfiguration × ReplicationProgress) := do
  checkAborted
  checkNoPendingConfiguration
  let e ← observe
  require (e.isOpen = true) .notOpen
  let inMemoryAuthority ← demand e.authority .authorityNotAdmitted
  let replicationProgress ← demand e.replicationProgress .authorityNotAdmitted
  let authority ← demand e.configuration .authorityNotAdmitted
  ofExcept authority.validate
  require (authority = inMemoryAuthority)
    (.authorityMismatch "durable authority differs from runtime authority")
  require (authority.localIdentity = e.identity ∧ envelope.receiver = e.identity)
    (.authorityMismatch "replication target differs from the local durable identity")
  require (authority.localRole = some e.role ∧ isSecondary e.role = true)
    (.authorityMismatch "runtime role is not admitted to receive replication")
  ofExcept (authority.validateEnvelope envelope)
  require (e.log.epoch = envelope.epoch)
    (.authorityMismatch "replication epoch is fenced by the control interface")
  require (replicationProgress.fence = authority.fence)
    (.authorityMismatch "replication progress belongs to another authority")
  require (envelope.lsn ≤ replicationProgress.verifiedLsn + 1)
    (.invalidReplication ("authority verification gap: expected at most LSN " ++
      toString (replicationProgress.verifiedLsn + 1) ++ ", observed " ++ toString envelope.lsn))
  pure (authority, replicationProgress)

def operationOf (envelope : ReplicationItem) : Operation :=
  ⟨envelope.lsn, envelope.committedLsn, envelope.data⟩

section Receive

variable [DurableState σ]

/-- `receive_replication`: the delivery lock is free when it starts. -/
def receiveReplication (envelope : ReplicationItem) : EngineM σ Unit := do
  lockDelivery
  let (authority, replicationProgress) ← checkDelivery envelope
  let e ← observe
  let applicationProgress := durableProgress e.storage
  let hold := fun stage : DeliveryStage => some <| Delivery.mk e.fenceGeneration authority envelope
    (operationOf envelope) applicationProgress replicationProgress stage
  if envelope.lsn ≤ applicationProgress.appliedLsn then
    update fun e => { e with delivery := hold .present }
  else
    require (envelope.lsn = applicationProgress.appliedLsn + 1)
      (.invalidReplication ("application gap: expected LSN " ++
        toString (applicationProgress.appliedLsn + 1) ++ ", observed " ++ toString envelope.lsn))
    update fun e => { e with
      delivery := hold (.enqueued e.streamCount)
      stream := e.stream ++ [(e.streamCount, operationOf envelope)]
      streamCount := e.streamCount + 1 }

/-- The delivery whose operation has the number `ticket` hears from the application. -/
def Delivery.hear (d : Delivery) (ticket : Nat) (result : Result DurableApplicationProgress) :
    Option Delivery :=
  if d.stage = .enqueued ticket then
    match result with
    | .ok ack => match validateDurableAck d.envelope.lsn d.envelope.committedLsn ack with
      | .ok () => some { d with stage := .applied ack }
      | .error _ => none
    | .error _ => none
  else some d

/-- The service takes the next operation of its stream, applies it and reports back. -/
def serviceApply : EngineM σ Unit := do
  let e ← observe
  match e.stream with
  | [] => pure ()
  | (ticket, operation) :: rest =>
    let (result, storage) := DurableState.apply e.storage operation
    update fun e => { e with
      storage := storage
      stream := rest
      delivery := e.delivery.bind fun d => d.hear ticket result }

end Receive

/-- The delivery that holds the lock. -/
def heldDelivery : EngineM σ Delivery := do
  let e ← observe
  demand e.delivery .closed

/-- An operation that was already applied is compared with the stored one, and the commit that it
carries is taken over. -/
def verifyDelivery [DurableState σ] : EngineM σ Unit := onFailure (do
  let d ← heldDelivery
  require (d.stage = .present) .closed
  let e ← observe
  require (verifyApplied e.storage d.operation = true)
    (.invalidReplication "authority operation conflicts with durable application state")
  let ack ← if d.envelope.committedLsn > d.applicationProgress.committedLsn then
      commitStorage d.envelope.committedLsn
    else pure d.applicationProgress
  update fun e => { e with delivery := some { d with stage := .applied ack } })
  Engine.releaseDelivery

/-- The authority of the delivery is still in force, in memory and on disk. -/
def confirmDelivery : EngineM σ Unit := onFailure (do
  let d ← heldDelivery
  match d.stage with
  | .applied ack =>
    checkDeliveryGeneration d.generation
    let e ← observe
    require (e.isOpen = true ∧ e.authority = some d.authority)
      (.authorityMismatch "replication authority changed before service acknowledgement")
    require (e.log.epoch = d.envelope.epoch)
      (.authorityMismatch "replication epoch changed before service acknowledgement")
    require (e.configuration = some d.authority)
      (.authorityMismatch "durable authority changed before service acknowledgement")
    update fun e => { e with delivery := some { d with stage := .confirmed ack } }
  | _ => fail .closed)
  Engine.releaseDelivery

/-- The verified LSN advances by one when the item is the next to verify. -/
def recordDelivery : EngineM σ Unit := onFailure (do
  let d ← heldDelivery
  match d.stage with
  | .confirmed ack =>
    checkDeliveryGeneration d.generation
    if d.envelope.lsn = d.replicationProgress.verifiedLsn + 1 then
      let progress := { d.replicationProgress with verifiedLsn := d.envelope.lsn }
      recordReplicationProgress progress
      checkDeliveryGeneration d.generation
      update fun e => { e with
        delivery := some { d with stage := .recorded ack, replicationProgress := progress } }
    else update fun e => { e with delivery := some { d with stage := .recorded ack } }
  | _ => fail .closed)
  Engine.releaseDelivery

/-- The acknowledgement of a delivery whose verified LSN is recorded. -/
def Delivery.acknowledgement (d : Delivery) (receiver : ReplicaIdentity)
    (ack : DurableApplicationProgress) : ReplicationAck where
  sender := d.envelope.sender
  receiver := receiver
  epoch := d.envelope.epoch
  previousConfigurationId := d.envelope.previousConfigurationId
  currentConfigurationId := d.envelope.currentConfigurationId
  receivedLsn := max d.envelope.lsn d.replicationProgress.verifiedLsn
  appliedLsn := d.replicationProgress.verifiedLsn
  committedLsn := min ack.committedLsn d.replicationProgress.verifiedLsn

/-- Publish the progress and issue the acknowledgement. -/
def publishDelivery : EngineM σ ReplicationAck := onFailure (do
  let d ← heldDelivery
  match d.stage with
  | .recorded ack =>
    checkDeliveryGeneration d.generation
    update fun e => { e with
      replicationProgress := some d.replicationProgress
      currentProgress := ack.appliedLsn
      committedLsn := max e.committedLsn ack.committedLsn }
    checkDeliveryGeneration d.generation
    let e ← observe
    update Engine.releaseDelivery
    pure (d.acknowledgement e.identity ack)
  | _ => fail .closed)
  Engine.releaseDelivery

/-! ## What a delivery has checked -/

/-- The item may be delivered to the engine under the authority `a`. -/
structure Deliverable (e : Engine σ) (envelope : ReplicationItem) (a : ManagedReplicaConfiguration)
    (progress : ReplicationProgress) : Prop where
  authority : e.authority = some a
  configuration : e.configuration = some a
  pending : e.pendingConfiguration = none
  replicationProgress : e.replicationProgress = some progress
  fence : progress.fence = a.fence
  carried : a.fence = envelope.fence
  sender : a.primaryIdentity = some envelope.sender
  receiver : envelope.receiver = e.identity
  next : envelope.lsn ≤ progress.verifiedLsn + 1

variable {e₀ : Engine σ} {envelope : ReplicationItem}

theorem checks_checkDelivery :
    Checks e₀ (checkDelivery envelope) fun r => Deliverable e₀ envelope r.1 r.2 := by
  refine checks_checkAborted.bind rfl fun _ _ => ?_
  refine checks_checkNoPendingConfiguration.bind rfl fun _ hpending => ?_
  refine checks_observe.bind rfl ?_
  rintro _ rfl
  refine checks_require.bind rfl fun _ _ => ?_
  refine checks_demand.bind rfl fun inMemory hmem => ?_
  refine checks_demand.bind rfl fun progress hprogress => ?_
  refine checks_demand.bind rfl fun a hdurable => ?_
  refine checks_ofExcept.bind rfl fun _ _ => ?_
  refine checks_require.bind rfl fun _ hsame => ?_
  refine checks_require.bind rfl fun _ hidentity => ?_
  refine checks_require.bind rfl fun _ _ => ?_
  refine checks_ofExcept.bind rfl fun _ henv => ?_
  refine checks_require.bind rfl fun _ _ => ?_
  refine checks_require.bind rfl fun _ hfence => ?_
  refine checks_require.bind rfl fun _ hnext => ?_
  obtain ⟨hsender, -, henvelope⟩ := ManagedReplicaConfiguration.validateFence_eq_ok.1 henv
  exact checks_pure ⟨hsame ▸ hmem, hdurable, hpending, hprogress, hfence, henvelope, hsender,
    hidentity.2, hnext⟩

theorem checks_heldDelivery : Checks e₀ heldDelivery fun d => e₀.delivery = some d := by
  refine checks_observe.bind rfl ?_
  rintro _ rfl
  exact checks_demand

theorem Delivery.hear_eq_some {d d' : Delivery} {ticket : Nat}
    {result : Result DurableApplicationProgress} (h : d.hear ticket result = some d') :
    (d.stage ≠ .enqueued ticket ∧ d' = d) ∨ ∃ ack, d.stage = .enqueued ticket ∧
      result = .ok ack ∧ ack.appliedLsn = d.envelope.lsn ∧ d' = { d with stage := .applied ack } := by
  unfold Delivery.hear at h
  split_ifs at h with hs
  · right
    cases result with
    | error e => cases h
    | ok ack =>
      simp only [validateDurableAck] at h
      by_cases hv : ack.appliedLsn ≠ d.envelope.lsn ∨
          ack.committedLsn < d.envelope.committedLsn ∨ ack.committedLsn > ack.appliedLsn
      · simp only [hv, if_true] at h
        cases h
      · simp only [hv, if_false] at h
        simp only [not_or, not_not] at hv
        exact ⟨ack, hs, rfl, hv.1, (Option.some.inj h).symm⟩
  · exact .inl ⟨hs, (Option.some.inj h).symm⟩

section Storage

variable [DurableState σ]

/-- What a successful `receiveReplication` captures. -/
def received (e : Engine σ) (envelope : ReplicationItem) (a : ManagedReplicaConfiguration)
    (progress : ReplicationProgress) (stage : DeliveryStage) : Delivery :=
  ⟨e.fenceGeneration, a, envelope, operationOf envelope, durableProgress e.storage, progress, stage⟩

theorem triple_receiveReplication :
    Triple (· = e₀) (receiveReplication envelope)
      (fun _ e => e₀.delivery = none ∧ ∃ a progress, Deliverable e₀ envelope a progress ∧
        ((envelope.lsn ≤ appliedLsn e₀.storage ∧
            e = { e₀ with delivery := some (received e₀ envelope a progress .present) }) ∨
          (envelope.lsn = appliedLsn e₀.storage + 1 ∧ e = { e₀ with
            delivery := some (received e₀ envelope a progress (.enqueued e₀.streamCount))
            stream := e₀.stream ++ [(e₀.streamCount, operationOf envelope)]
            streamCount := e₀.streamCount + 1 })))
      (· = e₀) := by
  refine checks_lockDelivery.bind rfl fun _ hnone => ?_
  refine checks_checkDelivery.bind rfl ?_
  rintro ⟨a, progress⟩ hd
  refine checks_observe.bind rfl ?_
  rintro e rfl
  simp only
  split_ifs with hle
  · refine triple_update ?_
    rintro _ rfl
    exact ⟨hnone, a, progress, hd, .inl ⟨hle, rfl⟩⟩
  · refine checks_require.bind rfl fun _ hgap => triple_update ?_
    rintro _ rfl
    exact ⟨hnone, a, progress, hd, .inr ⟨hgap, rfl⟩⟩

theorem run_serviceApply (e : Engine σ) : (serviceApply.run e).2 = match e.stream with
    | [] => e
    | (ticket, operation) :: rest => { e with
        storage := (DurableState.apply e.storage operation).2
        stream := rest
        delivery := e.delivery.bind fun d =>
          d.hear ticket (DurableState.apply e.storage operation).1 } := by
  simp only [serviceApply, run_bind, observe]
  cases e.stream with
  | nil => rfl
  | cons entry rest => rfl

theorem triple_verifyDelivery :
    Triple (· = e₀) verifyDelivery
      (fun _ e => ∃ d ack storage, e₀.delivery = some d ∧ d.stage = .present ∧
        verifyApplied e₀.storage d.operation = true ∧
        ((storage = e₀.storage ∧ ack = d.applicationProgress) ∨
          (storage = (commit e₀.storage d.envelope.committedLsn).2 ∧
            (commit e₀.storage d.envelope.committedLsn).1 = .ok ack)) ∧
        e = { e₀ with storage := storage, delivery := some { d with stage := .applied ack } })
      (fun e => ∃ storage, (storage = e₀.storage ∨ ∃ c, storage = (commit e₀.storage c).2) ∧
        e = { e₀ with storage := storage, delivery := none }) := by
  have hkeep : ∃ storage, (storage = e₀.storage ∨ ∃ c, storage = (commit e₀.storage c).2) ∧
      e₀ = { e₀ with storage := storage } := ⟨e₀.storage, .inl rfl, rfl⟩
  refine triple_onFailure (F := fun e => ∃ storage, (storage = e₀.storage ∨
      ∃ c, storage = (commit e₀.storage c).2) ∧ e = { e₀ with storage := storage }) ?_ ?_
  · refine checks_heldDelivery.bind hkeep fun d hd => ?_
    refine checks_require.bind hkeep fun _ hstage => ?_
    refine checks_observe.bind hkeep ?_
    rintro e₁ rfl
    refine checks_require.bind hkeep fun _ hverified => ?_
    split_ifs with hc
    · refine (triple_zoom.error ?_).bind fun ack => triple_update ?_
      · rintro _ rfl
        exact ⟨_, .inr ⟨_, rfl⟩, rfl⟩
      · rintro _ ⟨hack, rfl⟩
        exact ⟨d, ack, _, hd, hstage, hverified, .inr ⟨rfl, hack⟩, rfl⟩
    · refine (checks_pure (F := fun ack => ack = d.applicationProgress) rfl).bind hkeep ?_
      rintro ack rfl
      refine triple_update ?_
      rintro _ rfl
      exact ⟨d, _, _, hd, hstage, hverified, .inl ⟨rfl, rfl⟩, rfl⟩
  · rintro e ⟨storage, hs, rfl⟩
    exact ⟨storage, hs, rfl⟩

end Storage

theorem triple_confirmDelivery :
    Triple (· = e₀) confirmDelivery
      (fun _ e => ∃ d ack, e₀.delivery = some d ∧ d.stage = .applied ack ∧
        e₀.authority = some d.authority ∧ e₀.configuration = some d.authority ∧
        e = { e₀ with delivery := some { d with stage := .confirmed ack } })
      (· = { e₀ with delivery := none }) := by
  refine triple_onFailure (F := (· = e₀)) ?_ fun e h => h ▸ rfl
  refine checks_heldDelivery.bind rfl fun d hd => ?_
  match hs : d.stage with
  | .applied ack =>
    refine checks_checkDeliveryGeneration.bind rfl fun _ _ => ?_
    refine checks_observe.bind rfl ?_
    rintro _ rfl
    refine checks_require.bind rfl fun _ hopen => ?_
    refine checks_require.bind rfl fun _ _ => ?_
    refine checks_require.bind rfl fun _ hdurable => triple_update ?_
    rintro _ rfl
    exact ⟨d, ack, hd, hs, hopen.2, hdurable, rfl⟩
  | .enqueued _ => exact triple_fail fun _ h => h
  | .present => exact triple_fail fun _ h => h
  | .confirmed _ => exact triple_fail fun _ h => h
  | .recorded _ => exact triple_fail fun _ h => h

theorem triple_recordReplicationProgress {progress : ReplicationProgress} :
    Triple (· = e₀) (recordReplicationProgress progress)
      (fun _ e => e = { e₀ with
        progressStore := e₀.progressStore.insert progress.fence progress.verifiedLsn })
      (· = e₀) := by
  refine checks_observe.bind rfl ?_
  rintro _ rfl
  refine checks_require.bind rfl fun _ _ => triple_update ?_
  rintro _ rfl
  rfl

/-- The progress that a delivery acknowledges: it advances when the item is the next to verify. -/
def Delivery.verified (d : Delivery) : ReplicationProgress :=
  if d.envelope.lsn = d.replicationProgress.verifiedLsn + 1 then
    { d.replicationProgress with verifiedLsn := d.envelope.lsn }
  else d.replicationProgress

/-- The progress store after a delivery has been recorded. -/
def Delivery.storeAfter (d : Delivery) (store : AssocMap AuthorityFence Int) :
    AssocMap AuthorityFence Int :=
  if d.envelope.lsn = d.replicationProgress.verifiedLsn + 1 then
    store.insert d.verified.fence d.verified.verifiedLsn
  else store

theorem triple_recordDelivery :
    Triple (· = e₀) recordDelivery
      (fun _ e => ∃ d ack, e₀.delivery = some d ∧ d.stage = .confirmed ack ∧
        e = { e₀ with
          progressStore := d.storeAfter e₀.progressStore
          delivery := some { d with stage := .recorded ack, replicationProgress := d.verified } })
      (fun e => e = { e₀ with delivery := none } ∨ ∃ d ack, e₀.delivery = some d ∧
        d.stage = .confirmed ack ∧
        e = { e₀ with progressStore := d.storeAfter e₀.progressStore, delivery := none }) := by
  refine triple_onFailure (F := fun e => e = e₀ ∨ ∃ d ack, e₀.delivery = some d ∧
      d.stage = .confirmed ack ∧ e = { e₀ with progressStore := d.storeAfter e₀.progressStore }) ?_ ?_
  · refine checks_heldDelivery.bind (.inl rfl) fun d hd => ?_
    match hs : d.stage with
    | .confirmed ack =>
      refine checks_checkDeliveryGeneration.bind (.inl rfl) fun _ _ => ?_
      simp only
      split_ifs with hnext
      · refine (triple_recordReplicationProgress.error fun _ h => .inl h).bind fun _ => ?_
        have hstore : d.storeAfter e₀.progressStore =
            e₀.progressStore.insert d.replicationProgress.fence d.envelope.lsn := by
          simp [Delivery.storeAfter, Delivery.verified, hnext]
        refine checks_checkDeliveryGeneration.bind (.inr ⟨d, ack, hd, hs, by rw [hstore]⟩)
          fun _ _ => triple_update ?_
        rintro _ rfl
        exact ⟨d, ack, hd, hs, by simp [hstore, Delivery.verified, hnext]⟩
      · refine triple_update ?_
        rintro _ rfl
        exact ⟨d, ack, hd, hs, by simp [Delivery.storeAfter, Delivery.verified, hnext]⟩
    | .enqueued _ => exact triple_fail fun _ h => .inl h
    | .present => exact triple_fail fun _ h => .inl h
    | .applied _ => exact triple_fail fun _ h => .inl h
    | .recorded _ => exact triple_fail fun _ h => .inl h
  · rintro e (rfl | ⟨d, ack, hd, hs, rfl⟩)
    · exact .inl rfl
    · exact .inr ⟨d, ack, hd, hs, rfl⟩

/-- The engine after the progress of a delivery is published and the lock released. -/
def Engine.published (e : Engine σ) (d : Delivery) (ack : DurableApplicationProgress) : Engine σ :=
  { e with
    replicationProgress := some d.replicationProgress
    currentProgress := ack.appliedLsn
    committedLsn := max e.committedLsn ack.committedLsn
    delivery := none }

theorem triple_publishDelivery :
    Triple (· = e₀) publishDelivery
      (fun issued e => ∃ d ack, e₀.delivery = some d ∧ d.stage = .recorded ack ∧
        issued = d.acknowledgement e₀.identity ack ∧ e = e₀.published d ack)
      (fun e => e = { e₀ with delivery := none } ∨ ∃ d ack, e₀.delivery = some d ∧
        d.stage = .recorded ack ∧ e = e₀.published d ack) := by
  refine triple_onFailure (F := fun e => e = e₀ ∨ ∃ d ack, e₀.delivery = some d ∧
      d.stage = .recorded ack ∧ e.releaseDelivery = e₀.published d ack) ?_ ?_
  · refine checks_heldDelivery.bind (.inl rfl) fun d hd => ?_
    match hs : d.stage with
    | .recorded ack =>
      refine checks_checkDeliveryGeneration.bind (.inl rfl) fun _ _ => ?_
      refine triple_update_bind (I := (· = { e₀ with
        replicationProgress := some d.replicationProgress
        currentProgress := ack.appliedLsn
        committedLsn := max e₀.committedLsn ack.committedLsn })) (fun _ h => h ▸ rfl) ?_
      refine checks_checkDeliveryGeneration.bind (.inr ⟨d, ack, hd, hs, rfl⟩) fun _ _ => ?_
      refine checks_observe.bind (.inr ⟨d, ack, hd, hs, rfl⟩) ?_
      rintro e rfl
      refine triple_update_bind (I := (· = e₀.published d ack)) (fun _ h => h ▸ rfl) ?_
      refine triple_pure ?_
      rintro _ rfl
      exact ⟨d, ack, hd, hs, rfl, rfl⟩
    | .enqueued _ => exact triple_fail fun _ h => .inl h
    | .present => exact triple_fail fun _ h => .inl h
    | .applied _ => exact triple_fail fun _ h => .inl h
    | .confirmed _ => exact triple_fail fun _ h => .inl h
  · rintro e (rfl | ⟨d, ack, hd, hs, h⟩)
    · exact .inl rfl
    · exact .inr ⟨d, ack, hd, hs, h⟩

end Kuberic
