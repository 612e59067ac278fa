import Kuberic.Runtime.Write

/-!
# What a local write leaves alone

A write changes the log, the journal, the storage and the progress of an engine, but not its access,
its configuration or its builds.
-/

namespace Kuberic

open Effect DurableState

variable {σ : Type}

/-- The checks before a reservation read the engine only; an open engine gets past them if it knows
no other write. -/
theorem triple_beginReservation_of {e : Engine σ} {fault : Option RuntimeError} {w : ClientWrite}
    {recovering : Bool} {Q : DurableLocalWrite → Engine σ → Prop} {E : Engine σ → Prop} (he : E e)
    (h : e.isOpen = true →
      (e.localWrites.sortedValues.find? fun p => p.operationId != w.operationId) = none →
      Triple (· = e) (reserveLocalWrite fault w recovering) Q E) :
    Triple (· = e) (beginReservation fault w recovering) Q E := by
  refine checks_checkAborted.bind he fun _ _ => checks_observe.bind he ?_
  rintro e rfl
  refine checks_require.bind he fun _ hopen => checks_require.bind he fun _ _ => ?_
  refine checks_require.bind he fun _ _ => checks_require.bind he fun _ _ => ?_
  refine checks_demand.bind he fun _ _ => checks_require.bind he fun _ _ => ?_
  split
  · exact triple_fail fun _ hs => hs ▸ he
  · next hnone => exact h hopen hnone

theorem along_beginReservation {R : Engine σ → Engine σ → Prop} (hR : Stepwise R)
    {fault : Option RuntimeError} {w : ClientWrite} {recovering : Bool}
    (h : Along R (reserveLocalWrite fault w recovering : EngineM σ DurableLocalWrite)) :
    Along R (beginReservation fault w recovering : EngineM σ DurableLocalWrite) :=
  along_of_triple fun e => triple_beginReservation_of (hR.refl e) fun _ _ => h.triple e

section Part

variable {τ : Type} (part : Engine σ → τ)

theorem same_recordLocalWrite
    (h : ∀ (e : Engine σ) journal, part { e with journal := journal } = part e)
    (fault : Option RuntimeError) (w : DurableLocalWrite) :
    Along (fun e e' => part e' = part e) (recordLocalWrite fault w : EngineM σ Unit) := by
  have hR := stepwise_same part
  refine hR.bind ?_ fun _ => along_update fun e => h e _
  cases fault with
  | none => exact hR.pure _
  | some error => exact hR.fail _

theorem same_recordLocalWrites
    (h : ∀ (e : Engine σ) journal, part { e with journal := journal } = part e)
    (writes : List DurableLocalWrite) : ∀ faults,
    Along (fun e e' => part e' = part e) (recordLocalWrites faults writes : EngineM σ Unit) := by
  have hR := stepwise_same part
  induction writes with
  | nil => exact fun _ => hR.pure _
  | cons w rest ih => exact fun faults => hR.bind (same_recordLocalWrite part h _ _) fun _ => ih _

/-- Verified progress is recorded in the store, in the log and in the engine. -/
theorem same_verifyLocalWriteProgress (h : ∀ (e : Engine σ) store log progress,
      part { e with progressStore := store, log := log, replicationProgress := progress } = part e)
    (lsn : Int) :
    Along (fun e e' => part e' = part e) (verifyLocalWriteProgress lsn : EngineM σ Unit) := by
  have hR := stepwise_same part
  refine hR.bind hR.observe fun _ => hR.bind (hR.demand _ _) fun _ => ?_
  split_ifs
  · refine hR.bind (hR.bind hR.observe fun _ => hR.bind (hR.require _ _) fun _ => ?_) fun _ => ?_
    · exact along_update fun e => h e _ e.log e.replicationProgress
    · exact along_update fun e => h e e.progressStore _ _
  · exact hR.pure _

/-- A reservation is made in the log, in the journal and among the local writes. -/
theorem same_beginReservation (h : ∀ (e : Engine σ) log journal writes,
      part { e with log := log, journal := journal, localWrites := writes } = part e)
    (fault : Option RuntimeError) (w : ClientWrite) (recovering : Bool) :
    Along (fun e e' => part e' = part e)
      (beginReservation fault w recovering : EngineM σ DurableLocalWrite) := by
  have hR := stepwise_same part
  refine along_beginReservation hR (hR.bind hR.observe fun e => ?_)
  cases e.journal.get? w.operationId with
  | some existing => exact hR.bind (hR.require _ _) fun _ => hR.pure _
  | none =>
    refine hR.bind (hR.require _ _) fun _ => ?_
    refine hR.bind (along_zoom fun e => h e _ e.journal e.localWrites) fun _ => ?_
    refine hR.bind (same_recordLocalWrite part (fun e _ => h e e.log _ e.localWrites) _ _) fun _ => ?_
    exact hR.bind (along_update fun e => h e e.log e.journal _) fun _ => hR.pure _

theorem same_applyLocalWrite [DurableState σ]
    (h : ∀ (e : Engine σ) storage, part { e with storage := storage } = part e)
    (operation : Operation) : Along (fun e e' => part e' = part e)
      (applyLocalWrite operation : EngineM σ DurableApplicationProgress) := by
  have hR := stepwise_same part
  refine hR.bind hR.observe fun _ => ?_
  simp only
  split_ifs
  · exact hR.bind (hR.require _ _) fun _ => hR.pure _
  · exact hR.bind (hR.require _ _) fun _ => along_zoom fun e => h e _

theorem same_finalizeReadyCommitLocked [DurableState σ]
    (h : ∀ (e : Engine σ) storage journal log writes committed,
      part { e with
        storage := storage
        journal := journal
        log := log
        localWrites := writes
        committedLsn := committed } = part e) (faults : Faults) :
    Along (fun e e' => part e' = part e) (finalizeReadyCommitLocked faults : EngineM σ Unit) := by
  have hR := stepwise_same part
  refine hR.bind hR.observe fun e => ?_
  cases e.log.quorum.readyCommitLsn with
  | none => exact hR.pure _
  | some readyLsn =>
    refine hR.bind (along_zoom fun e => h e ..) fun _ => hR.bind (hR.require _ _) fun _ => ?_
    refine hR.bind hR.observe fun _ => hR.bind (same_recordLocalWrites part (fun e _ => h e ..) _ _) ?_
    exact fun _ => hR.bind (along_zoom fun e => h e ..) fun _ => along_update fun e => h e ..

variable (h : ∀ (e : Engine σ) log journal writes storage store progress current committed,
  part { e with
    log := log
    journal := journal
    localWrites := writes
    storage := storage
    progressStore := store
    replicationProgress := progress
    currentProgress := current
    committedLsn := committed } = part e)
include h

theorem same_restoreCommitted (operation : Operation) (id : OperationId)
    (progress : DurableApplicationProgress) : Along (fun e e' => part e' = part e)
      (restoreCommitted operation id progress : EngineM σ PendingWrite) := by
  have hR := stepwise_same part
  refine hR.bind (along_zoom fun e => h e ..) fun _ => ?_
  exact hR.bind (along_update fun e => h e ..) fun _ => hR.pure _

theorem same_registerLocalWrite (fault : Option RuntimeError) (write : ClientWrite)
    (durable : DurableLocalWrite) (operation : Operation) (ack : DurableApplicationProgress) :
    Along (fun e e' => part e' = part e)
      (registerLocalWrite fault write durable operation ack : EngineM σ RegisteredWrite) := by
  have hR := stepwise_same part
  refine hR.bind (same_recordLocalWrite part (fun e _ => h e ..) _ _) fun _ => ?_
  refine hR.bind (along_update fun e => h e ..) fun _ => hR.bind ?_ fun _ => ?_
  · unfold restoreReservation
    split_ifs
    · exact along_zoom fun e => h e ..
    · exact hR.pure _
  · exact hR.bind (along_zoom fun e => h e ..) fun _ => hR.pure _

variable [DurableState σ]

theorem same_completeReservation (faults : Faults) (write : ClientWrite)
    (durable : DurableLocalWrite) : Along (fun e e' => part e' = part e)
      (completeReservation faults write durable : EngineM σ _) := by
  have hR := stepwise_same part
  have hverify := same_verifyLocalWriteProgress part (fun e _ _ _ => h e ..) durable.lsn
  refine hR.bind hR.observe fun e => ?_
  simp only
  split_ifs
  · refine hR.bind (hR.ofExcept _) fun _ => hR.bind hverify fun _ => ?_
    exact hR.bind (same_restoreCommitted part h _ _ _) fun _ => hR.pure _
  · refine hR.bind (same_applyLocalWrite part (fun e _ => h e ..) _) fun ack => ?_
    refine hR.bind (hR.ofExcept _) fun _ => hR.bind hverify fun _ => ?_
    split_ifs
    · refine hR.bind (same_recordLocalWrite part (fun e _ => h e ..) _ _) fun _ => ?_
      exact hR.bind (same_restoreCommitted part h _ _ _) fun _ => hR.pure _
    · exact hR.bind (same_registerLocalWrite part h _ _ _ _ _) fun _ => hR.pure _

theorem same_startWriteLocked (faults : Faults) (write : ClientWrite)
    (recovering : Bool) : Along (fun e e' => part e' = part e)
      (startWriteLocked faults write recovering : EngineM σ _) :=
  (stepwise_same part).bind (same_beginReservation part (fun e _ _ _ => h e ..) _ _ _)
    fun durable => same_completeReservation part h faults write durable

end Part

/-! ## Acknowledgements, sessions and repair -/

section Peers

variable {I : Engine σ → Prop} {e : Engine σ} (h : I e)

theorem checks_requirePrimary : Checks e requirePrimary fun _ => e.role = .primary := by
  refine checks_checkAborted.bind rfl fun _ _ => checks_observe.bind rfl ?_
  rintro e rfl
  exact checks_require.bind rfl fun _ _ => checks_require

include h

theorem recordAcknowledgement_keeps {ack : ReplicationAck}
    (hlog : I { e with log := (e.log.acknowledge ack).2 }) :
    I ((recordAcknowledgement ack).run e).2 := by
  refine run_of_triple (checks_checkAborted.bind h fun _ _ => checks_observe.bind h ?_)
  rintro e rfl
  refine checks_require.bind h fun _ _ => checks_checkNoPendingConfiguration.bind h fun _ _ => ?_
  exact triple_zoom.post (fun _ _ h => h.2 ▸ hlog) fun _ h => h ▸ hlog

theorem recordReplicationAck_keeps {ack : ReplicationAck} {session : ProcessSessionId}
    (hlog : I { e with log := (e.log.acknowledgeInSession ack session).2 }) :
    I ((recordReplicationAck ack session).run e).2 := by
  refine run_of_triple (checks_checkNoPendingConfiguration.bind h fun _ _ => ?_)
  refine checks_checkAborted.bind h fun _ _ => checks_observe.bind h ?_
  rintro e rfl
  refine checks_require.bind h fun _ _ => ?_
  exact triple_zoom.post (fun _ _ h => h.2 ▸ hlog) fun _ h => h ▸ hlog

theorem registerPeerSession_keeps {identity : ReplicaIdentity} {session : ProcessSessionId}
    (hlog : I { e with log := (e.log.registerPeerSession identity session).2 }) :
    I ((registerPeerSession identity session).run e).2 := by
  refine run_of_triple (checks_checkNoPendingConfiguration.bind h fun _ _ => ?_)
  refine checks_checkAborted.bind h fun _ _ => ?_
  exact triple_zoom.post (fun _ _ h => h.2 ▸ hlog) fun _ h => h ▸ hlog

omit h

theorem mem_contiguousFrom {operations : List Operation} {operation : Operation} :
    ∀ {expected : Int}, operation ∈ (contiguousFrom expected operations).1 →
      operation ∈ operations := by
  induction operations with
  | nil => exact fun h => h
  | cons first rest ih =>
    intro expected h
    unfold contiguousFrom at h
    split_ifs at h
    · cases h
    · obtain rfl | h := List.mem_cons.1 h
      · exact List.mem_cons_self
      · exact List.mem_cons_of_mem _ (ih h)

/-- Only the targets of repair change, and what is sent comes from the retained history. -/
theorem triple_repairPeerFromHistory [DurableState σ] (identity : ReplicaIdentity)
    (peerProgress : Int) :
    Triple (· = e) (repairPeerFromHistory identity peerProgress)
      (fun r s => (∃ targets, s = { e with peerRepairTargets := targets }) ∧ ∀ item ∈ r.1,
        ∃ operations, getReplicationOperations e.storage (peerProgress + 1) e.currentProgress =
          .ok operations ∧ ∃ operation ∈ operations, item.lsn = operation.lsn ∧
            item.data = operation.data)
      (· = e) := by
  refine checks_requirePrimary.bind rfl fun _ _ => checks_observe.bind rfl ?_
  rintro e rfl
  refine checks_demand.bind rfl fun a _ => checks_require.bind rfl fun _ _ => ?_
  have hupdate : ∀ (f : Engine σ → AssocMap ReplicaIdentity Int) (s : Engine σ), s = e → ∃ targets,
      { s with peerRepairTargets := f s } = { e with peerRepairTargets := targets } := by
    rintro f _ rfl
    exact ⟨_, rfl⟩
  split_ifs
  · exact triple_update_bind (hupdate _) (triple_pure fun s hs => ⟨hs, fun _ h => by cases h⟩)
  · exact triple_pure fun s hs => ⟨⟨e.peerRepairTargets, hs⟩, fun _ h => by cases h⟩
  · refine triple_update_bind (hupdate _) (triple_pure fun s hs => ⟨hs, fun item hitem => ?_⟩)
    obtain ⟨operation, hop, rfl⟩ := List.mem_map.1 hitem
    cases hget : getReplicationOperations e.storage (peerProgress + 1) e.currentProgress with
    | error error =>
      rw [hget] at hop
      cases hop
    | ok operations =>
      rw [hget] at hop
      exact ⟨operations, rfl, operation, mem_contiguousFrom hop, rfl, rfl⟩

end Peers

end Kuberic
