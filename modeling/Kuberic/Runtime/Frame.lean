import Kuberic.Runtime.WriteFence
import Kuberic.Runtime.Run

/-!
# What control and configuration work leave alone

`Engine.data` is what an engine stores, counts and receives.  Roles, epochs and access do not touch
it; a configuration records the progress that it takes over when it is prepared and installs it when
it is committed.  A fence that comes up while a delivery is in flight would refuse that delivery, so
the functions that raise one wait for the delivery lock.
-/

namespace Kuberic

open Effect DurableState

variable {σ : Type}

structure EngineData (σ : Type) where
  aborted : Bool
  isOpen : Bool
  storage : σ
  progressStore : AssocMap AuthorityFence Int
  journal : AssocMap OperationId DurableLocalWrite
  localWrites : AssocMap OperationId DurableLocalWrite
  pendingConfiguration : Option PendingManagedConfiguration
  replicationProgress : Option ReplicationProgress
  currentProgress : Int
  delivery : Option Delivery
  stream : List (Nat × Operation)
  streamCount : Nat

def Engine.data (e : Engine σ) : EngineData σ :=
  ⟨e.aborted, e.isOpen, e.storage, e.progressStore, e.journal, e.localWrites, e.pendingConfiguration,
    e.replicationProgress, e.currentProgress, e.delivery, e.stream, e.streamCount⟩

def SameData (e e' : Engine σ) : Prop := e'.data = e.data

/-- The data stay, and so does the fence of a delivery in flight. -/
structure Quiet (e e' : Engine σ) : Prop where
  data : e'.data = e.data
  fence : e.delivery = none ∨ e'.fenceGeneration = e.fenceGeneration

theorem stepwise_sameData : Stepwise (SameData : Engine σ → Engine σ → Prop) :=
  stepwise_same Engine.data

theorem SameData.delivery {e e' : Engine σ} (h : SameData e e') : e'.delivery = e.delivery :=
  congrArg EngineData.delivery h

theorem stepwise_quiet : Stepwise (Quiet : Engine σ → Engine σ → Prop) where
  refl _ := ⟨rfl, .inr rfl⟩
  trans := by
    intro s t u h h'
    refine ⟨h'.data.trans h.data, ?_⟩
    have hd : t.delivery = s.delivery := congrArg EngineData.delivery h.data
    obtain hfree | hsame := h.fence
    · exact .inl hfree
    · obtain hfree | hsame' := h'.fence
      · exact .inl (hd ▸ hfree)
      · exact .inr (hsame'.trans hsame)

section Reads

variable {α : Type} {x : EngineM σ α}

/-- Under the delivery lock no delivery is in flight. -/
theorem quiet_locked {f : Unit → EngineM σ α} (h : ∀ u, Along SameData (f u)) :
    Along Quiet (lockDelivery >>= f) := by
  intro e
  refine run_of_triple ?_
  refine checks_lockDelivery.bind (stepwise_quiet.refl e) fun u hfree => ?_
  exact ((h u).triple e).post (fun _ s hs => ⟨hs, .inl hfree⟩) fun s hs => ⟨hs, .inl hfree⟩

end Reads

/-! ## Roles, epochs and access -/

section Control

theorem quiet_controlChangeRole (epoch : Epoch) (role : ReplicaRole) :
    Along Quiet (controlChangeRole epoch role : EngineM σ Unit) := by
  have hS := stepwise_sameData (σ := σ)
  refine stepwise_quiet.bind (stepwise_quiet.reads reads_checkAborted) fun _ => quiet_locked fun _ => ?_
  refine hS.bind (along_update fun _ => rfl) fun _ => hS.bind (along_zoom fun _ => rfl) fun _ => ?_
  exact along_update fun _ => rfl

theorem quiet_controlUpdateEpoch (epoch : Epoch) :
    Along Quiet (controlUpdateEpoch epoch : EngineM σ Unit) := by
  have hS := stepwise_sameData (σ := σ)
  refine stepwise_quiet.bind (stepwise_quiet.reads reads_checkAborted) fun _ => quiet_locked fun _ => ?_
  refine hS.bind (along_update fun _ => rfl) fun _ => hS.bind hS.observe fun _ => ?_
  refine hS.bind (hS.require _ _) fun _ => hS.bind (along_update fun _ => rfl) fun _ => ?_
  exact along_zoom fun _ => rfl

theorem quiet_configureReplicas (current : ConfigurationDescriptor)
    (previous : Option ConfigurationDescriptor) :
    Along Quiet (configureReplicas current previous : EngineM σ Unit) := by
  have hR := stepwise_quiet (σ := σ)
  refine hR.bind (hR.reads reads_checkAborted) fun _ => hR.bind hR.observe fun _ => ?_
  refine hR.bind (hR.demand _ _) fun _ => hR.bind (hR.require _ _) fun _ => ?_
  exact hR.bind (hR.require _ _) fun _ => along_update fun _ => ⟨rfl, .inr rfl⟩

theorem quiet_setAccess (read write : AccessStatus) :
    Along Quiet ((do publishAccess (← prepareAccess read write)) : EngineM σ Unit) := by
  have hR := stepwise_quiet (σ := σ)
  have hS := stepwise_sameData (σ := σ)
  refine hR.bind (hR.reads (reads_prepareAccess read write)) fun p => quiet_locked fun _ => ?_
  refine hS.bind (hS.reads reads_checkAborted) fun _ => hS.bind hS.observe fun _ => ?_
  refine hS.bind (hS.require _ _) fun _ => hS.bind (hS.require _ _) fun _ => ?_
  exact along_update fun _ => rfl

end Control

/-! ## Configurations -/

section Configuration

variable {e s : Engine σ} {a : ManagedReplicaConfiguration}

/-- The progress is recorded; the store takes no step back. -/
structure Recorded (progress : ReplicationProgress) (e s : Engine σ) : Prop where
  forward : ∀ v, e.progressStore.get? progress.fence = some v → v ≤ progress.verifiedLsn
  engine : s = { e with
    progressStore := e.progressStore.insert progress.fence progress.verifiedLsn }

theorem triple_recorded {progress : ReplicationProgress} :
    Triple (· = e) (recordReplicationProgress progress) (fun _ => Recorded progress e) (· = e) := by
  refine checks_observe.bind rfl ?_
  rintro _ rfl
  refine checks_require.bind rfl fun _ hnot => triple_update ?_
  rintro _ rfl
  refine ⟨fun v hv => ?_, rfl⟩
  rw [hv] at hnot
  simpa using hnot

/-- A prepared configuration has recorded the progress that it will install. -/
structure Prepared (e s : Engine σ) : Prop where
  free : e.delivery = none
  pending : ∃ p, s.pendingConfiguration = some p ∧ p.active = true ∧
    (∀ v, e.progressStore.get? p.replicationProgress.fence = some v →
      v ≤ p.replicationProgress.verifiedLsn) ∧
    s.data = { e.data with
      pendingConfiguration := some p
      progressStore := e.progressStore.insert p.replicationProgress.fence
        p.replicationProgress.verifiedLsn }

theorem sameData_fenceForConfiguration (e : Engine σ) (changed preserve : Bool) :
    SameData e (e.fenceForConfiguration changed preserve) := by
  unfold Engine.fenceForConfiguration
  split_ifs <;> rfl

theorem sameData_fenceInstalled (e : Engine σ) (p : PendingManagedConfiguration) :
    SameData e (e.fenceInstalled p) := by
  unfold Engine.fenceInstalled
  simp only
  split_ifs <;> rfl

theorem triple_loadRecorded : Triple (· = e) (loadReplicationProgressWithHandoff a)
    (fun p s => Recorded p e s) (· = e) := by
  refine checks_observe.bind rfl ?_
  rintro _ rfl
  refine checks_ofExcept.bind rfl fun _ _ => checks_require.bind rfl fun _ _ => ?_
  exact triple_recorded.bind fun _ => triple_pure fun _ h => h

theorem triple_prepared (a : ManagedReplicaConfiguration) (hostGeneration : Nat)
    (recovering : Bool) : Triple (· = e) (prepareReplicaConfiguration a hostGeneration recovering)
      (fun _ s => Prepared e s) (· = e) := by
  refine checks_lockDelivery.bind rfl fun _ hfree => checks_checkAborted.bind rfl fun _ _ => ?_
  refine (checks_validateManagedConfigurationCandidate a recovering e).bind rfl fun _ _ => ?_
  refine checks_observe.bind rfl ?_
  rintro e rfl
  refine checks_require.bind rfl fun _ _ => checks_require.bind rfl fun _ _ => ?_
  refine triple_loadRecorded.bind fun progress => ?_
  refine triple_update_bind (I := fun s => (∀ v, e.progressStore.get? progress.fence = some v →
      v ≤ progress.verifiedLsn) ∧ s.data = { e.data with
    progressStore := e.progressStore.insert progress.fence progress.verifiedLsn }) ?_ ?_
  · rintro _ ⟨hforward, rfl⟩
    exact ⟨hforward, sameData_fenceForConfiguration _ _ _⟩
  · refine triple_observe_bind fun s hs => triple_update_bind (I := fun s => Prepared e s) ?_
      (triple_pure fun _ h => h)
    rintro _ rfl
    refine ⟨hfree, _, rfl, rfl, hs.1, ?_⟩
    generalize hp : PendingManagedConfiguration.mk .. = p
    have hprogress : p.replicationProgress = progress := hp ▸ rfl
    rw [hprogress]
    exact congrArg (fun d : EngineData σ => { d with pendingConfiguration := some p }) hs.2

/-- A committed configuration has put its progress into force. -/
def Installed (e s : Engine σ) : Prop :=
  ∃ p, e.pendingConfiguration = some p ∧ p.active = true ∧ s.data = { e.data with
    pendingConfiguration := none
    replicationProgress := some p.replicationProgress }

theorem sameData_configureCommit (p : PendingManagedConfiguration) :
    Along SameData (configureCommit p : EngineM σ Unit) := by
  have hS := stepwise_sameData (σ := σ)
  refine hS.bind (hS.onlyIf _ ((quiet_controlUpdateEpoch _).mono Quiet.data)) fun _ => ?_
  refine hS.bind (along_update fun _ => rfl) fun _ => hS.onlyIf _ ?_
  exact (quiet_configureReplicas _ _).mono Quiet.data

theorem triple_installed (preparation : ManagedConfigurationPreparation) :
    Triple (· = e) (commitReplicaConfiguration preparation) (fun _ s => Installed e s)
      (fun s => SameData e s ∧ (s = e ∨ e.pendingConfiguration ≠ none)) := by
  have hS := stepwise_sameData (σ := σ)
  rw [commitReplicaConfiguration_eq]
  have hstart : Checks e (startCommit preparation) fun p =>
      e.pendingConfiguration = some p ∧ p.active = true := by
    refine checks_checkAborted.bind rfl fun _ _ => checks_observe.bind rfl ?_
    rintro _ rfl
    refine checks_demand.bind rfl fun p hp => checks_require.bind rfl fun _ hmatch => ?_
    exact checks_pure ⟨hp, hmatch.1⟩
  refine hstart.bind ⟨hS.refl e, .inl rfl⟩ fun p hp => ?_
  have hpending : e.pendingConfiguration ≠ none := by
    rw [hp.1]
    exact Option.some_ne_none p
  refine triple_update_bind (I := SameData e) ?_ ?_
  · rintro _ rfl
    exact sameData_fenceInstalled _ p
  · refine Triple.bind (R := fun _ => SameData e) ?_ fun _ => triple_update fun s hs => ?_
    · exact (hS.triple (I := fun _ => True) (sameData_configureCommit p) (fun _ h => h) e).weaken
        (fun _ h => ⟨h, trivial⟩) (fun _ _ h => h.1) fun _ h => ⟨h, .inr hpending⟩
    · refine ⟨p, hp.1, hp.2, ?_⟩
      exact congrArg (fun d : EngineData σ => { d with
        pendingConfiguration := none
        replicationProgress := some p.replicationProgress }) hs

theorem sameData_admitDurably (a : ManagedReplicaConfiguration) :
    Along Quiet (admitDurably a : EngineM σ Unit) := by
  have hR := stepwise_quiet (σ := σ)
  refine hR.bind (hR.ofExcept _) fun _ => hR.bind hR.observe fun _ => ?_
  refine hR.bind (hR.require _ _) fun _ => hR.bind (hR.require _ _) fun _ => ?_
  exact hR.bind (hR.require _ _) fun _ => along_update fun _ => ⟨rfl, .inr rfl⟩

theorem run_cancelConfigurationWork (e : Engine σ) :
    (cancelConfigurationWork.run e).2 = e ∨ e.delivery = none ∧
      (cancelConfigurationWork.run e).2.data = { e.data with pendingConfiguration := none } := by
  refine Triple.holds (P := (· = e)) (Q := fun _ s => s = e ∨ e.delivery = none ∧
    s.data = { e.data with pendingConfiguration := none }) (E := fun s => s = e ∨
    e.delivery = none ∧ s.data = { e.data with pendingConfiguration := none }) ?_ (fun _ _ h => h)
    (fun _ h => h) e rfl
  refine checks_checkAborted.bind (.inl rfl) fun _ _ => ?_
  refine checks_lockDelivery.bind (.inl rfl) fun _ hfree => triple_update ?_
  rintro _ rfl
  exact .inr ⟨hfree, rfl⟩

theorem dropPreparation_cases (e : Engine σ) (preparation : ManagedConfigurationPreparation) :
    e.dropPreparation preparation = e ∨ ∃ p, e.pendingConfiguration = some p ∧
      (e.dropPreparation preparation).data =
        { e.data with pendingConfiguration := some { p with active := false } } := by
  unfold Engine.dropPreparation
  cases hp : e.pendingConfiguration with
  | none => exact .inl rfl
  | some p =>
    simp only
    split_ifs
    · exact .inr ⟨p, rfl, rfl⟩
    · exact .inl rfl

/-- A new process installs the progress that it records for its durable authority. -/
theorem run_restoreAuthority (e : Engine σ) (removal : StoredRemoval) (hostGeneration : Nat) :
    Quiet e ((restoreAuthority removal hostGeneration).run e).2 ∨
      ∃ t, Prepared e t ∧ (SameData t ((restoreAuthority removal hostGeneration).run e).2 ∨
        Installed t ((restoreAuthority removal hostGeneration).run e).2) := by
  refine Triple.holds (P := (· = e))
    (Q := fun _ s => Quiet e s ∨ ∃ t, Prepared e t ∧ (SameData t s ∨ Installed t s))
    (E := fun s => Quiet e s ∨ ∃ t, Prepared e t ∧ (SameData t s ∨ Installed t s)) ?_
    (fun _ _ h => h) (fun _ h => h) e rfl
  refine checks_observe.bind (.inl (stepwise_quiet.refl e)) ?_
  rintro e rfl
  generalize e.configuration = configuration
  cases configuration with
  | none =>
    refine triple_update ?_
    rintro _ rfl
    exact .inl ⟨rfl, .inr rfl⟩
  | some a =>
    refine triple_update_bind (I := Quiet e) (by rintro _ rfl; exact ⟨rfl, .inr rfl⟩) ?_
    refine Triple.bind (R := fun _ => Prepared e) ?_ fun p => ?_
    · intro s hs
      have hd : s.data = e.data := hs.data
      refine (triple_prepared a hostGeneration true s rfl).mono (fun _ t ht => ⟨?_, ?_⟩) ?_
      · exact (SameData.delivery hd).symm.trans ht.free
      · rw [← hd, show e.progressStore = s.progressStore from
          (congrArg EngineData.progressStore hd).symm]
        exact ht.pending
      · rintro _ rfl
        exact .inl hs
    · intro t ht
      exact (triple_installed p t rfl).mono (fun _ s hs => .inr ⟨t, ht, .inr hs⟩)
        fun s hs => .inr ⟨t, ht, .inl hs.1⟩

theorem triple_authorized [DurableState σ] (safeLsn : Int) :
    Triple (· = e) (authorizeFailoverPrefix safeLsn)
    (fun _ s => ∃ r v, e.pendingConfiguration = none ∧ e.replicationProgress = some r ∧
      r.verifiedLsn ≤ v ∧ s = { e with
        progressStore := e.progressStore.insert r.fence v
        replicationProgress := some { r with verifiedLsn := v } }) (· = e) := by
  refine checks_checkNoPendingConfiguration.bind rfl fun _ hnone => ?_
  refine checks_checkAborted.bind rfl fun _ _ => checks_observe.bind rfl ?_
  rintro e rfl
  refine checks_require.bind rfl fun _ _ => checks_require.bind rfl fun _ _ => ?_
  refine checks_demand.bind rfl fun _ _ => checks_demand.bind rfl fun progress hprogress => ?_
  refine checks_require.bind rfl fun _ _ => ?_
  refine triple_recordReplicationProgress.bind fun _ => triple_update ?_
  rintro _ rfl
  exact ⟨progress, _, hnone, hprogress, le_max_left _ _, rfl⟩

end Configuration

/-! ## The primary's work -/

/-- What an engine keeps of the items it receives. -/
structure EngineReceiving where
  aborted : Bool
  fenceGeneration : Nat
  progressStore : AssocMap AuthorityFence Int
  pendingConfiguration : Option PendingManagedConfiguration
  replicationProgress : Option ReplicationProgress
  delivery : Option Delivery

def Engine.receiving (e : Engine σ) : EngineReceiving :=
  ⟨e.aborted, e.fenceGeneration, e.progressStore, e.pendingConfiguration, e.replicationProgress,
    e.delivery⟩

/-- The primary's work does not touch what is received, and never lowers the published progress. -/
structure Serves (e e' : Engine σ) : Prop where
  receiving : e'.receiving = e.receiving
  stream : e'.stream = e.stream
  current : e.currentProgress ≤ e'.currentProgress

theorem stepwise_serves : Stepwise (Serves : Engine σ → Engine σ → Prop) where
  refl _ := ⟨rfl, rfl, le_refl _⟩
  trans h h' := ⟨h'.receiving.trans h.receiving, h'.stream.trans h.stream,
    h.current.trans h'.current⟩

section Serves

variable [DurableState σ] {e : Engine σ}

theorem serves_finalizeReadyCommitLocked (faults : Faults) :
    Along Serves (finalizeReadyCommitLocked faults : EngineM σ Unit) := by
  intro e
  have hsame := same_finalizeReadyCommitLocked
    (fun e : Engine σ => (e.receiving, e.stream, e.currentProgress)) (fun _ _ _ _ _ _ => rfl) faults e
  simp only [Prod.mk.injEq] at hsame
  exact ⟨hsame.1, hsame.2.1, hsame.2.2.ge⟩

theorem serves_settlePrimaryPrefix : Along Serves (settlePrimaryPrefix : EngineM σ Unit) := by
  have hR := stepwise_serves (σ := σ)
  refine hR.bind (hR.reads reads_lockDelivery) fun _ => ?_
  refine hR.bind (hR.reads reads_checkAborted) fun _ => ?_
  refine hR.bind hR.observe fun _ => hR.bind (hR.require _ _) fun _ => ?_
  refine hR.bind (hR.ofExcept _) fun _ => hR.bind (hR.require _ _) fun _ => ?_
  refine hR.bind (along_zoom fun _ => ⟨rfl, rfl, le_refl _⟩) fun _ => ?_
  exact hR.bind (hR.require _ _) fun _ => along_update fun _ => ⟨rfl, rfl, le_refl _⟩

theorem serves_serve {action : PrimaryAction} (hw : action.isWrite = false) :
    Serves e (action.run e).2 :=
  action.run_keeps hw (fun _ _ => ⟨rfl, rfl, le_refl _⟩) (fun _ _ _ h => ⟨rfl, rfl, h⟩)
    fun faults => serves_finalizeReadyCommitLocked faults e

end Serves

end Kuberic
