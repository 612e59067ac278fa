import Mathlib.Data.List.Induction
import Kuberic.Runtime.Admission
import Kuberic.Runtime.WriteParts

/-!
# The write fence

`fence_writes` closes an engine to client writes without a lock and without a new generation.  The
calls that open it again are split: `prepare_access` looks at the engine and `publish_access` opens
it, `prepare_replica_configuration` saves the access in force and the commit of the configuration
restores it.  `AccessRun` is an engine with all the calls that are under way; every one of them is
stamped with the number of fences that had returned when it began.  A grant whose call began before a
fence and takes effect after it opens the fence; where no fence returns in between, the fence holds.
-/

namespace Kuberic

open Effect

variable {σ : Type}

def fenceWrites : EngineM σ Unit := do
  checkAborted
  update fun e => { e with
    writeStatus := .reconfigurationPending
    log := e.log.fenceClientWrites }

/-! ## The halves of the calls -/

/-- A `prepare_access` that has read the generation of the engine. -/
structure AccessAttempt where
  engineGeneration : Nat
  read : AccessStatus
  write : AccessStatus
  /-- The local writes that `recover_pending_local_writes` has not seen committed yet. -/
  recovers : List ClientWrite

/-- The writes that `recover_pending_local_writes` resumes, one after the other, before writes are
granted. -/
def Engine.toRecover (e : Engine σ) (write : AccessStatus) : List ClientWrite :=
  if write = .granted ∧ e.writeStatus ≠ .granted then
    e.localWrites.sortedValues.map fun durable => ⟨durable.operationId, durable.data⟩
  else []

/-- `prepare_access` up to the recovery of local writes, which lets other calls pass. -/
def beginAccess (read write : AccessStatus) : EngineM σ AccessAttempt := do
  checkAborted
  checkNoPendingConfiguration
  let e ← observe
  onlyIf (write = .granted) validateRemovalWriteGrant
  pure ⟨e.fenceGeneration, read, write, e.toRecover write⟩

/-- The rest of `prepare_access`. -/
def finishAccess (a : AccessAttempt) : EngineM σ ManagedAccessPreparation := do
  let e ← observe
  require (a.read ≠ .granted ∨ (e.isOpen = true ∧ (e.role = .primary ∨ e.role = .activeSecondary)))
    (.authorityMismatch "read access requires an open Primary or Active Secondary")
  onlyIf (a.write = .granted) validateWriteGrant
  require (a.read ≠ .granted ∨ e.role ≠ .primary ∨ e.log.quorum.catchUpComplete = true)
    .reconfigurationPending
  require (a.engineGeneration = e.fenceGeneration) .operationCancelled
  pure ⟨e.authority, a.engineGeneration, a.read, a.write, e.currentProgress, e.committedLsn⟩

/-- The checks of `commit_replica_configuration`. -/
def startCommit (preparation : ManagedConfigurationPreparation) :
    EngineM σ PendingManagedConfiguration := do
  checkAborted
  let e ← observe
  let pending ← demand e.pendingConfiguration .operationCancelled
  require (pending.active = true ∧ pending.configuration = preparation.configuration ∧
      pending.engineGeneration = preparation.engineGeneration ∧
      pending.hostGeneration = preparation.hostGeneration ∧
      preparation.engineGeneration = e.fenceGeneration) .operationCancelled
  pure pending

/-- The part of `install_managed_configuration` that calls the replicator. -/
def configureCommit (pending : PendingManagedConfiguration) : EngineM σ Unit := do
  adoptEpoch pending
  configureAdmittedAuthority pending

/-- The end of `commit_replica_configuration`. -/
def Engine.committed (e : Engine σ) (preparation : ManagedConfigurationPreparation)
    (pending : PendingManagedConfiguration) : Engine σ :=
  { e.installed pending with
    configurationGeneration := preparation.hostGeneration
    pendingConfiguration := none }

section Halves

theorem nothing_to_recover (e : Engine σ) (write : AccessStatus) :
    (write ≠ .granted ∨ e.writeStatus = .granted ∨ e.localWrites.entries = []) ↔
      e.toRecover write = [] := by
  unfold Engine.toRecover
  split_ifs with h
  · rw [List.map_eq_nil_iff, AssocMap.sortedValues_eq_nil]
    tauto
  · simp only [iff_true]
    tauto

/-- With nothing to recover and nothing between its halves, `prepare_access` is one call. -/
theorem prepareAccess_eq (read write : AccessStatus) :
    (prepareAccess read write : EngineM σ _) = (do
      let attempt ← beginAccess read write
      require (attempt.recovers = []) .reconfigurationPending
      finishAccess attempt) := by
  refine eq_of_run fun e => ?_
  unfold beginAccess
  simp only [bind_bind]
  refine run_bind_congr reads_checkAborted fun _ => ?_
  refine run_bind_congr reads_checkNoPendingConfiguration fun _ => ?_
  refine (run_bind_ok rfl).trans ?_
  refine run_bind_congr (stepwise_eq.onlyIf _ reads_validateRemovalWriteGrant) fun _ => ?_
  refine Eq.trans ?_ (run_bind_ok rfl).symm
  rw [require_congr (nothing_to_recover e write)]
  refine run_bind_congr (stepwise_eq.require _ _) fun _ => ?_
  refine run_bind_congr (stepwise_eq.require _ _) fun _ => ?_
  refine run_bind_congr (stepwise_eq.onlyIf _ reads_validateWriteGrant) fun _ => ?_
  refine run_bind_congr (stepwise_eq.require _ _) fun _ => ?_
  rw [Effect.require, if_pos rfl]
  rfl

/-- With nothing between its parts, `commit_replica_configuration` is one call. -/
theorem commitReplicaConfiguration_eq (preparation : ManagedConfigurationPreparation) :
    (commitReplicaConfiguration preparation : EngineM σ Unit) = (do
      let pending ← startCommit preparation
      update fun e => e.fenceInstalled pending
      configureCommit pending
      update fun e => e.committed preparation pending) := by
  unfold commitReplicaConfiguration startCommit installManagedConfiguration configureCommit
  simp only [bind_bind]
  rfl

end Halves

/-! ## Interleavings -/

/-- A value with the number of fences that had returned when its call began. -/
structure Stamped (α : Type) where
  stamp : Nat
  value : α
  deriving DecidableEq

/-- How far a commit has come. -/
inductive CommitStage
  | checked
  | fenced
  | configured
  deriving DecidableEq

/-- A commit that holds the effect lock. -/
structure CommitInProgress where
  preparation : ManagedConfigurationPreparation
  /-- The pending configuration, stamped when it saved the access. -/
  pending : Stamped PendingManagedConfiguration
  stage : CommitStage

/-- An engine with the calls that are under way on it. -/
structure AccessRun (σ : Type) where
  engine : Engine σ
  /-- How many calls of `fence_writes` have returned. -/
  fences : Nat
  attempts : List (Stamped AccessAttempt)
  preparations : List (Stamped ManagedAccessPreparation)
  configurations : List ManagedConfigurationPreparation
  /-- The stamp of the pending configuration of the engine. -/
  saved : Nat
  commit : Option CommitInProgress
  /-- The write status of every `publish_access` that has completed. -/
  published : List (Stamped AccessStatus)

inductive AccessEvent
  | fenceWrites
  | beginAccess (read write : AccessStatus)
  /-- `resume_local_write` of the next write that a `prepare_access` recovers. -/
  | resumeWrite (i : Nat) (faults : Faults)
  /-- The resumed write has been committed. -/
  | writeResumed (i : Nat)
  | finishAccess (i : Nat)
  | publishAccess (i : Nat)
  | beginWrite (faults : Faults) (write : ClientWrite)
  | acceptAcknowledgement (faults : Faults) (ack : ReplicationAck)
  | prepareConfiguration (configuration : ManagedReplicaConfiguration) (hostGeneration : Nat)
    (recovering : Bool)
  | startCommit (i : Nat)
  | fenceCommit
  | configureCommit
  | finishCommit
  | cancelWork
  | dropPreparation (i : Nat)

namespace AccessRun

/-- An engine with no call under way. -/
def start (e : Engine σ) : AccessRun σ where
  engine := e
  fences := 0
  attempts := []
  preparations := []
  configurations := []
  saved := 0
  commit := none
  published := []

/-- Run a call on the engine, and take over what it returns if it returns. -/
def call {α : Type} (w : AccessRun σ) (x : EngineM σ α) (next : α → AccessRun σ → AccessRun σ) :
    AccessRun σ :=
  match x.run w.engine with
  | (.ok a, e) => next a { w with engine := e }
  | (.error _, e) => { w with engine := e }

/-- Run the next part of the commit in progress; a failed one releases the effect lock. -/
def commitCall (w : AccessRun σ) (stage : CommitStage)
    (x : CommitInProgress → EngineM σ Unit) (next : CommitInProgress → Option CommitInProgress) :
    AccessRun σ :=
  match w.commit with
  | some c => if c.stage ≠ stage then w else match (x c).run w.engine with
    | (.ok _, e) => { w with engine := e, commit := next c }
    | (.error _, e) => { w with engine := e, commit := none }
  | none => w

/-- The calls that take the effect lock wait for the commit in progress. -/
def unlocked (w : AccessRun σ) (next : AccessRun σ) : AccessRun σ :=
  if w.commit.isSome then w else next

variable [DurableState σ]

def step (w : AccessRun σ) : AccessEvent → AccessRun σ
  | .fenceWrites => w.call fenceWrites fun _ w => { w with fences := w.fences + 1 }
  | .beginAccess read write => w.call (beginAccess read write) fun a w =>
      { w with attempts := w.attempts ++ [⟨w.fences, a⟩] }
  | .resumeWrite i faults => match w.attempts[i]? with
    | some ⟨_, ⟨_, _, _, write :: _⟩⟩ => w.unlocked <|
        call { w with attempts := w.attempts.eraseIdx i } (resumeLocalWrite faults write) fun _ w' =>
          { w' with attempts := w.attempts }
    | _ => w
  | .writeResumed i => match w.attempts[i]? with
    | some ⟨stamp, ⟨generation, read, access, write :: rest⟩⟩ =>
      -- a write leaves the local writes when it is committed
      if (w.engine.localWrites.get? write.operationId).isSome then w else
        { w with attempts := w.attempts.set i ⟨stamp, ⟨generation, read, access, rest⟩⟩ }
    | _ => w
  | .finishAccess i => match w.attempts[i]? with
    | some a => if a.value.recovers ≠ [] then w else
        call { w with attempts := w.attempts.eraseIdx i } (finishAccess a.value) fun p w =>
          { w with preparations := w.preparations ++ [⟨a.stamp, p⟩] }
    | none => w
  | .publishAccess i => match w.preparations[i]? with
    | some p => w.unlocked <| w.call (publishAccess p.value) fun _ w => { w with
        published := w.published ++ [⟨p.stamp, p.value.write⟩] }
    | none => w
  | .beginWrite faults write => w.unlocked <| w.call (beginWrite faults write) fun _ w => w
  | .acceptAcknowledgement faults ack =>
    w.unlocked <| w.call (acceptAcknowledgement faults ack) fun _ w => w
  | .prepareConfiguration c hostGeneration recovering =>
    w.unlocked <| w.call (prepareReplicaConfiguration c hostGeneration recovering) fun p w =>
      { w with configurations := w.configurations ++ [p], saved := w.fences }
  | .startCommit i => match w.configurations[i]? with
    | some p => w.unlocked <| w.call (startCommit p) fun pending w =>
        { w with commit := some ⟨p, ⟨w.saved, pending⟩, .checked⟩ }
    | none => w
  | .fenceCommit => w.commitCall .checked
      (fun c => update fun e => e.fenceInstalled c.pending.value)
      fun c => some { c with stage := .fenced }
  | .configureCommit => w.commitCall .fenced (fun c => configureCommit c.pending.value)
      fun c => some { c with stage := .configured }
  | .finishCommit => w.commitCall .configured
      (fun c => update fun e => e.committed c.preparation c.pending.value) fun _ => none
  | .cancelWork => w.unlocked <| w.call cancelConfigurationWork fun _ w => w
  | .dropPreparation i => match w.configurations[i]? with
    | some p => { w with engine := w.engine.dropPreparation p }
    | none => w

def run (w : AccessRun σ) (events : List AccessEvent) : AccessRun σ := events.foldl step w

/-- A `publish_access` has completed that grants writes and whose `prepare_access` began after the
last fence. -/
def Reopened (w : AccessRun σ) : Prop :=
  (⟨w.fences, .granted⟩ : Stamped AccessStatus) ∈ w.published

/-- Once fenced, the engine accepts writes only if they were granted anew. -/
def FenceHolds (w : AccessRun σ) : Prop :=
  0 < w.fences → w.engine.writeStatus = .granted → w.Reopened

instance (w : AccessRun σ) : Decidable w.FenceHolds :=
  inferInstanceAs (Decidable (0 < w.fences → w.engine.writeStatus = .granted →
    (⟨w.fences, .granted⟩ : Stamped AccessStatus) ∈ w.published))

/-- No fence has returned between the start of a call and the event by which it grants writes: from
`prepare_access` with a grant to its `publish_access`, and from a preparation that saves a grant to
the end of its commit. -/
def InOrder (w : AccessRun σ) : AccessEvent → Prop
  | .publishAccess i =>
    ∀ p ∈ w.preparations[i]?, p.value.write = .granted → p.stamp = w.fences
  | .finishCommit =>
    ∀ c ∈ w.commit, c.pending.value.priorAccess.2 = .granted → c.pending.stamp = w.fences
  | _ => True

instance (w : AccessRun σ) : DecidablePred w.InOrder
  | .publishAccess i => inferInstanceAs (Decidable (∀ p ∈ w.preparations[i]?, _ → _))
  | .finishCommit => inferInstanceAs (Decidable (∀ c ∈ w.commit, _ → _))
  | .fenceWrites | .beginAccess .. | .resumeWrite .. | .writeResumed _ | .finishAccess _
  | .beginWrite .. | .acceptAcknowledgement .. | .prepareConfiguration .. | .startCommit _
  | .fenceCommit | .configureCommit | .cancelWork | .dropPreparation _ => isTrue trivial

/-- Every event of a run is in order. -/
def Ordered (w : AccessRun σ) : List AccessEvent → Prop
  | [] => True
  | event :: rest => w.InOrder event ∧ (w.step event).Ordered rest

def decideOrdered (w : AccessRun σ) : ∀ events, Decidable (w.Ordered events)
  | [] => isTrue trivial
  | event :: rest =>
    have := (w.step event).decideOrdered rest
    inferInstanceAs (Decidable (_ ∧ _))

instance (w : AccessRun σ) : DecidablePred w.Ordered := w.decideOrdered

end AccessRun

/-! ## What the calls do to the access -/

/-- The writes are at most closed, and the access that is saved stays as it is. -/
structure Closes (e e' : Engine σ) : Prop where
  write : e'.writeStatus = e.writeStatus ∨ e'.writeStatus = .reconfigurationPending
  saved : ∀ p', e'.pendingConfiguration = some p' →
    ∃ p, e.pendingConfiguration = some p ∧ p.priorAccess = p'.priorAccess

section Closes

variable {e e' : Engine σ}

theorem closes_of_eq (hw : e'.writeStatus = e.writeStatus ∨ e'.writeStatus = .reconfigurationPending)
    (hp : e'.pendingConfiguration = e.pendingConfiguration) : Closes e e' :=
  ⟨hw, fun p hp' => ⟨p, hp ▸ hp', rfl⟩⟩

theorem stepwise_closes : Stepwise (Closes : Engine σ → Engine σ → Prop) where
  refl _ := closes_of_eq (.inl rfl) rfl
  trans {s t u} h h' := by
    refine ⟨?_, fun p'' hp'' => ?_⟩
    · rcases h'.write with hw | hw
      · rw [hw]
        exact h.write
      · exact .inr hw
    · obtain ⟨p', hp', heq'⟩ := h'.saved p'' hp''
      obtain ⟨p, hp, heq⟩ := h.saved p' hp'
      exact ⟨p, hp, heq.trans heq'⟩

theorem reads_beginAccess (read write : AccessStatus) :
    Along (fun e e' => e' = e) (beginAccess read write : EngineM σ AccessAttempt) := by
  refine stepwise_eq.bind reads_checkAborted fun _ => ?_
  refine stepwise_eq.bind reads_checkNoPendingConfiguration fun _ => ?_
  refine stepwise_eq.bind stepwise_eq.observe fun _ => ?_
  refine stepwise_eq.bind (stepwise_eq.onlyIf _ reads_validateRemovalWriteGrant) fun _ => ?_
  exact stepwise_eq.pure _

theorem reads_finishAccess (a : AccessAttempt) :
    Along (fun e e' => e' = e) (finishAccess a : EngineM σ ManagedAccessPreparation) := by
  refine stepwise_eq.bind stepwise_eq.observe fun _ => ?_
  refine stepwise_eq.bind (stepwise_eq.require _ _) fun _ => ?_
  refine stepwise_eq.bind (stepwise_eq.onlyIf _ reads_validateWriteGrant) fun _ => ?_
  refine stepwise_eq.bind (stepwise_eq.require _ _) fun _ => ?_
  exact stepwise_eq.bind (stepwise_eq.require _ _) fun _ => stepwise_eq.pure _

theorem closes_controlUpdateEpoch (epoch : Epoch) :
    Along Closes (controlUpdateEpoch epoch : EngineM σ Unit) := by
  have hR := stepwise_closes (σ := σ)
  refine hR.bind (hR.reads reads_checkAborted) fun _ => ?_
  refine hR.bind (hR.reads reads_lockDelivery) fun _ => ?_
  refine hR.bind (along_update fun _ => closes_of_eq (.inl rfl) rfl) fun _ => ?_
  refine hR.bind hR.observe fun _ => hR.bind (hR.require _ _) fun _ => ?_
  refine hR.bind (along_update fun _ => closes_of_eq (.inr rfl) rfl) fun _ => ?_
  exact along_zoom fun _ => closes_of_eq (.inl rfl) rfl

theorem closes_configureReplicas (current : ConfigurationDescriptor)
    (previous : Option ConfigurationDescriptor) :
    Along Closes (configureReplicas current previous : EngineM σ Unit) := by
  have hR := stepwise_closes (σ := σ)
  refine hR.bind (hR.reads reads_checkAborted) fun _ => hR.bind hR.observe fun _ => ?_
  refine hR.bind (hR.demand _ _) fun _ => hR.bind (hR.require _ _) fun _ => ?_
  exact hR.bind (hR.require _ _) fun _ => along_update fun _ => closes_of_eq (.inl rfl) rfl

theorem closes_configureCommit (p : PendingManagedConfiguration) :
    Along Closes (configureCommit p : EngineM σ Unit) := by
  have hR := stepwise_closes (σ := σ)
  refine hR.bind (hR.onlyIf _ (closes_controlUpdateEpoch _)) fun _ => ?_
  refine hR.bind (along_update fun _ => closes_of_eq (.inl rfl) rfl) fun _ => ?_
  exact hR.onlyIf _ (closes_configureReplicas _ _)

theorem closes_fenceInstalled (e : Engine σ) (p : PendingManagedConfiguration) :
    Closes e (e.fenceInstalled p) := by
  unfold Engine.fenceInstalled
  dsimp only
  split_ifs <;> first | exact closes_of_eq (.inl rfl) rfl | exact closes_of_eq (.inr rfl) rfl

theorem closes_cancelConfigurationWork : Along Closes (cancelConfigurationWork : EngineM σ Unit) := by
  have hR := stepwise_closes (σ := σ)
  refine hR.bind (hR.reads reads_checkAborted) fun _ => ?_
  refine hR.bind (hR.reads reads_lockDelivery) fun _ => along_update fun _ => ⟨.inl rfl, ?_⟩
  intro p hp
  cases hp

theorem closes_dropPreparation (e : Engine σ) (preparation : ManagedConfigurationPreparation) :
    Closes e (e.dropPreparation preparation) := by
  unfold Engine.dropPreparation
  split
  next pending hpending =>
    split_ifs
    · refine ⟨.inl rfl, fun p' hp' => ⟨pending, hpending, ?_⟩⟩
      obtain rfl := Option.some.inj hp'
      rfl
    · exact stepwise_closes.refl e
  next => exact stepwise_closes.refl e

theorem closes_recordReplicationProgress (progress : ReplicationProgress) :
    Along Closes (recordReplicationProgress progress : EngineM σ Unit) := by
  have hR := stepwise_closes (σ := σ)
  refine hR.bind hR.observe fun _ => hR.bind (hR.require _ _) fun _ => ?_
  exact along_update fun _ => closes_of_eq (.inl rfl) rfl

theorem closes_loadReplicationProgressWithHandoff (a : ManagedReplicaConfiguration) :
    Along Closes (loadReplicationProgressWithHandoff a : EngineM σ ReplicationProgress) := by
  have hR := stepwise_closes (σ := σ)
  refine hR.bind hR.observe fun _ => hR.bind (hR.ofExcept _) fun _ => ?_
  refine hR.bind (hR.require _ _) fun _ => ?_
  exact hR.bind (closes_recordReplicationProgress _) fun _ => hR.pure _

theorem closes_fenceForConfiguration (e : Engine σ) (changed preserveAccess : Bool) :
    Closes e (e.fenceForConfiguration changed preserveAccess) := by
  unfold Engine.fenceForConfiguration
  split_ifs
  · exact stepwise_closes.refl e
  · exact closes_of_eq (.inl rfl) rfl
  · exact closes_of_eq (.inr rfl) rfl

theorem prepareReplicaConfiguration_saves (c : ManagedReplicaConfiguration) (hostGeneration : Nat)
    (recovering : Bool) (e : Engine σ) :
    Triple (· = e) (prepareReplicaConfiguration c hostGeneration recovering)
      (fun _ e' => (e'.writeStatus = e.writeStatus ∨ e'.writeStatus = .reconfigurationPending) ∧
        ∀ p, e'.pendingConfiguration = some p → p.priorAccess.2 = e.writeStatus) (Closes e) := by
  have hrefl : Closes e e := stepwise_closes.refl e
  refine checks_lockDelivery.bind hrefl fun _ _ => ?_
  refine checks_checkAborted.bind hrefl fun _ _ => ?_
  refine (checks_validateManagedConfigurationCandidate c recovering e).bind hrefl fun _ _ => ?_
  refine checks_observe.bind hrefl fun e₀ he₀ => ?_
  subst he₀
  refine checks_require.bind hrefl fun _ _ => checks_require.bind hrefl fun _ _ => ?_
  refine ((closes_loadReplicationProgressWithHandoff c).triple e₀).bind fun progress => ?_
  refine triple_update_bind (I := Closes e₀)
    (fun e he => stepwise_closes.trans he (closes_fenceForConfiguration e _ _)) ?_
  refine triple_observe_bind fun e₁ he₁ => ?_
  refine triple_update_bind (I := fun e' => e'.writeStatus = e₁.writeStatus ∧
    ∀ p, e'.pendingConfiguration = some p → p.priorAccess.2 = e₀.writeStatus) ?_ ?_
  · rintro _ rfl
    refine ⟨rfl, fun p hp => ?_⟩
    obtain rfl := Option.some.inj hp
    rfl
  · refine triple_pure fun e' he' => ⟨?_, he'.2⟩
    rw [he'.1]
    exact he₁.write

theorem fenceWrites_closes (e : Engine σ) :
    Triple (· = e) fenceWrites (fun _ e' => e'.writeStatus = .reconfigurationPending ∧
      e'.pendingConfiguration = e.pendingConfiguration) (Closes e) := by
  refine checks_checkAborted.bind (stepwise_closes.refl e) fun _ _ => triple_update ?_
  rintro _ rfl
  exact ⟨rfl, rfl⟩

theorem publishAccess_opens (p : ManagedAccessPreparation) (e : Engine σ) :
    Triple (· = e) (publishAccess p) (fun _ e' => e'.writeStatus = p.write ∧
      e'.pendingConfiguration = e.pendingConfiguration) (Closes e) := by
  have hrefl : Closes e e := stepwise_closes.refl e
  refine checks_lockDelivery.bind hrefl fun _ _ => ?_
  refine checks_checkAborted.bind hrefl fun _ _ => ?_
  refine checks_observe.bind hrefl fun _ _ => checks_require.bind hrefl fun _ _ => ?_
  refine checks_require.bind hrefl fun _ _ => triple_update ?_
  rintro _ rfl
  exact ⟨rfl, rfl⟩

theorem startCommit_reads (preparation : ManagedConfigurationPreparation) (e : Engine σ) :
    Checks e (startCommit preparation) fun pending => e.pendingConfiguration = some pending := by
  refine checks_checkAborted.bind rfl fun _ _ => ?_
  refine checks_observe.bind rfl fun e₀ he₀ => ?_
  subst he₀
  refine checks_demand.bind rfl fun pending hpending => ?_
  exact checks_require.bind rfl fun _ _ => checks_pure hpending

section Writes

variable [DurableState σ]

theorem closes_finalizeReadyCommitLocked (faults : Faults) :
    Along Closes (finalizeReadyCommitLocked faults : EngineM σ Unit) :=
  (same_finalizeReadyCommitLocked (fun e : Engine σ => (e.writeStatus, e.pendingConfiguration))
    (fun _ _ _ _ _ _ => rfl) faults).mono fun h =>
      closes_of_eq (.inl (congrArg Prod.fst h)) (congrArg Prod.snd h)

theorem closes_beginWriteLocked (faults : Faults) (write : ClientWrite)
    (recovering : Bool) : Along Closes (beginWriteLocked faults write recovering : EngineM σ _) := by
  have hR := stepwise_closes (σ := σ)
  have hstart := same_startWriteLocked (fun e : Engine σ => (e.writeStatus, e.pendingConfiguration))
    (fun _ _ _ _ _ _ _ _ _ => rfl) faults write recovering
  refine hR.bind (hstart.mono fun h =>
    closes_of_eq (.inl (congrArg Prod.fst h)) (congrArg Prod.snd h)) fun result => ?_
  cases result with
  | inl resolved => exact hR.pure _
  | inr registered =>
    refine hR.bind (closes_finalizeReadyCommitLocked _) fun _ => ?_
    exact hR.bind (along_update fun _ => closes_of_eq (.inl rfl) rfl) fun _ => hR.pure _

theorem closes_acceptAcknowledgement (faults : Faults) (ack : ReplicationAck) :
    Along Closes (acceptAcknowledgement faults ack : EngineM σ Unit) := by
  have hR := stepwise_closes (σ := σ)
  refine hR.bind ?_ fun _ => closes_finalizeReadyCommitLocked faults
  refine hR.bind (hR.reads reads_checkAborted) fun _ => hR.bind hR.observe fun _ => ?_
  refine hR.bind (hR.require _ _) fun _ => ?_
  refine hR.bind (hR.reads reads_checkNoPendingConfiguration) fun _ => ?_
  exact along_zoom fun _ => closes_of_eq (.inl rfl) rfl

end Writes

end Closes

/-! ## The fence over a run -/

namespace AccessRun

variable {w w' : AccessRun σ}

/-- A write status that a call has seen: if it was a grant seen since the last fence, then the writes
were granted since. -/
structure Seen (fences : Nat) (published : List (Stamped AccessStatus)) (s : Stamped AccessStatus) :
    Prop where
  stamp : s.stamp ≤ fences
  granted : s.stamp = fences → 0 < fences → s.value = .granted → ⟨fences, .granted⟩ ∈ published

structure Inv (w : AccessRun σ) : Prop where
  attempts : ∀ a ∈ w.attempts, a.stamp ≤ w.fences
  preparations : ∀ p ∈ w.preparations, p.stamp ≤ w.fences
  saved_le : w.saved ≤ w.fences
  engine : Seen w.fences w.published ⟨w.fences, w.engine.writeStatus⟩
  saved : ∀ p, w.engine.pendingConfiguration = some p →
    Seen w.fences w.published ⟨w.saved, p.priorAccess.2⟩
  commit : ∀ c, w.commit = some c →
    Seen w.fences w.published ⟨c.pending.stamp, c.pending.value.priorAccess.2⟩

theorem Inv.fenceHolds (h : w.Inv) : w.FenceHolds := h.engine.granted rfl

theorem inv_start {e : Engine σ} : (start e).Inv where
  attempts := by simp [start]
  preparations := by simp [start]
  saved_le := le_refl _
  engine := ⟨le_refl _, fun _ hpos => absurd hpos (lt_irrefl 0)⟩
  saved _ _ := ⟨le_refl _, fun _ hpos => absurd hpos (lt_irrefl 0)⟩
  commit := by simp [start]

theorem Seen.mono {fences : Nat} {published published' : List (Stamped AccessStatus)}
    {s : Stamped AccessStatus} (h : Seen fences published s)
    (hp : ∀ x ∈ published, x ∈ published') : Seen fences published' s :=
  ⟨h.stamp, fun hs hpos hg => hp _ (h.granted hs hpos hg)⟩

/-- What was seen before a fence says nothing about the writes after it. -/
theorem seen_succ {fences : Nat} {published : List (Stamped AccessStatus)} {s : Stamped AccessStatus}
    (h : s.stamp ≤ fences) : Seen (fences + 1) published s :=
  ⟨by omega, fun hs => by omega⟩

theorem Inv.of_closes (h : w.Inv) {e : Engine σ} (hc : Closes w.engine e) :
    Inv { w with engine := e } where
  attempts := h.attempts
  preparations := h.preparations
  saved_le := h.saved_le
  engine := by
    refine ⟨le_refl _, fun _ hpos hg => ?_⟩
    rcases hc.write with hw | hw
    · exact h.engine.granted rfl hpos (hw.symm.trans hg)
    · exact absurd (hw.symm.trans hg) (by decide)
  saved p' hp' := by
    obtain ⟨p, hp, heq⟩ := hc.saved p' hp'
    rw [← heq]
    exact h.saved p hp
  commit := h.commit

theorem Inv.call_of_closes {α : Type} (h : w.Inv) {x : EngineM σ α} (hx : Along Closes x)
    {next : α → AccessRun σ → AccessRun σ}
    (hnext : ∀ a e, Inv { w with engine := e } → Inv (next a { w with engine := e })) :
    (w.call x next).Inv := by
  have hc := hx w.engine
  unfold call
  match hr : x.run w.engine with
  | (.ok a, e) =>
    rw [hr] at hc
    exact hnext a e (h.of_closes hc)
  | (.error _, e) =>
    rw [hr] at hc
    exact h.of_closes hc

theorem Inv.commitCall_of_closes (h : w.Inv) {stage : CommitStage}
    {x : CommitInProgress → EngineM σ Unit} (hx : ∀ c, Along Closes (x c))
    {next : CommitInProgress → Option CommitInProgress}
    (hnext : ∀ c c', next c = some c' → c'.pending = c.pending) :
    (w.commitCall stage x next).Inv := by
  unfold commitCall
  split
  next c hcommit =>
    split_ifs
    · exact h
    have hc := hx c w.engine
    match hr : (x c).run w.engine with
    | (.ok _, e) =>
      rw [hr] at hc
      have hinv := h.of_closes hc
      refine ⟨hinv.attempts, hinv.preparations, hinv.saved_le, hinv.engine, hinv.saved, ?_⟩
      intro c' hc'
      rw [hnext c c' hc']
      exact h.commit c hcommit
    | (.error _, e) =>
      rw [hr] at hc
      have hinv := h.of_closes hc
      refine ⟨hinv.attempts, hinv.preparations, hinv.saved_le, hinv.engine, hinv.saved, ?_⟩
      intro c' hc'
      cases hc'
  next => exact h

theorem Inv.withAttempts (h : w.Inv) {attempts : List (Stamped AccessAttempt)}
    (hle : ∀ a ∈ attempts, a.stamp ≤ w.fences) : Inv { w with attempts := attempts } :=
  ⟨hle, h.preparations, h.saved_le, h.engine, h.saved, h.commit⟩

theorem Inv.eraseAttempt (h : w.Inv) (i : Nat) :
    Inv { w with attempts := w.attempts.eraseIdx i } :=
  h.withAttempts fun a ha => h.attempts a (List.mem_of_mem_eraseIdx ha)

theorem Inv.unlocked (h : w.Inv) (h' : w'.Inv) : (w.unlocked w').Inv := by
  unfold AccessRun.unlocked
  split_ifs
  · exact h
  · exact h'

variable [DurableState σ]

theorem Inv.fenceWrites (h : w.Inv) : (w.step .fenceWrites).Inv := by
  have hpost := fenceWrites_closes w.engine w.engine rfl
  unfold step call
  match hr : Kuberic.fenceWrites.run w.engine, hpost with
  | (.ok _, e), hpost =>
    refine ⟨fun a ha => ?_, fun p hp => ?_, ?_, ?_, fun p hp => ?_, fun c hc => ?_⟩
    · exact (h.attempts a ha).trans (Nat.le_succ _)
    · exact (h.preparations p hp).trans (Nat.le_succ _)
    · exact h.saved_le.trans (Nat.le_succ _)
    · refine ⟨le_refl _, fun _ _ hg => ?_⟩
      exact absurd (hpost.1.symm.trans hg) (by decide)
    · exact seen_succ h.saved_le
    · exact seen_succ (h.commit c hc).stamp
  | (.error _, e), hpost => exact h.of_closes hpost

theorem Inv.resumeWrite (h : w.Inv) (i : Nat) (faults : Faults) :
    (w.step (.resumeWrite i faults)).Inv := by
  simp only [step]
  split
  next write _ _ =>
    refine h.unlocked ?_
    refine (h.eraseAttempt i).call_of_closes (closes_beginWriteLocked faults write true) ?_
    intro _ e he
    exact he.withAttempts h.attempts
  next => exact h

theorem Inv.writeResumed (h : w.Inv) (i : Nat) : (w.step (.writeResumed i)).Inv := by
  simp only [step]
  split
  next stamp _ _ _ _ _ ha =>
    split_ifs
    · exact h
    refine h.withAttempts fun a ha' => ?_
    rcases List.mem_or_eq_of_mem_set ha' with ha' | rfl
    · exact h.attempts a ha'
    · have hle := h.attempts _ (List.mem_of_getElem? ha)
      exact hle
  next => exact h

theorem Inv.publishAccess (h : w.Inv) {i : Nat} (horder : w.InOrder (.publishAccess i)) :
    (w.step (.publishAccess i)).Inv := by
  simp only [step]
  split
  next p hp =>
    unfold AccessRun.unlocked
    split_ifs with hlock
    · exact h
    have hpost := publishAccess_opens p.value w.engine w.engine rfl
    unfold call
    match hr : (Kuberic.publishAccess p.value).run w.engine, hpost with
    | (.ok a, e), hpost =>
      have hmono : ∀ x ∈ w.published, x ∈ w.published ++ [⟨p.stamp, p.value.write⟩] :=
        fun x hx => List.mem_append_left _ hx
      refine ⟨h.attempts, h.preparations, h.saved_le, ⟨le_refl _, fun _ hpos hg => ?_⟩,
        fun q hq => ?_, fun c hc => (h.commit c hc).mono hmono⟩
      · have hwrite : p.value.write = .granted := hpost.1.symm.trans hg
        rw [hwrite, horder p hp hwrite]
        exact List.mem_append_right _ (List.mem_singleton_self _)
      · exact (h.saved q (hpost.2 ▸ hq)).mono hmono
    | (.error _, e), hpost => exact h.of_closes hpost
  next => exact h

theorem Inv.prepareConfiguration (h : w.Inv) (c : ManagedReplicaConfiguration)
    (hostGeneration : Nat) (recovering : Bool) :
    (w.step (.prepareConfiguration c hostGeneration recovering)).Inv := by
  refine h.unlocked ?_
  have hpost := prepareReplicaConfiguration_saves c hostGeneration recovering w.engine w.engine rfl
  unfold call
  match hr : (prepareReplicaConfiguration c hostGeneration recovering).run w.engine, hpost with
  | (.ok p, e), hpost =>
    refine ⟨h.attempts, h.preparations, le_refl _, ⟨le_refl _, fun _ hpos hg => ?_⟩, ?_, h.commit⟩
    · rcases hpost.1 with hw | hw
      · exact h.engine.granted rfl hpos (hw.symm.trans hg)
      · exact absurd (hw.symm.trans hg) (by decide)
    · intro q hq
      refine ⟨le_refl _, fun _ hpos hg => h.engine.granted rfl hpos ?_⟩
      exact (hpost.2 q hq).symm.trans hg
  | (.error _, e), hpost => exact h.of_closes hpost

theorem Inv.startCommit (h : w.Inv) (i : Nat) : (w.step (.startCommit i)).Inv := by
  simp only [step]
  split
  next p hp =>
    refine h.unlocked ?_
    have hpost := startCommit_reads p w.engine w.engine rfl
    unfold call
    match hr : (Kuberic.startCommit p).run w.engine, hpost with
    | (.ok pending, e), hpost =>
      obtain ⟨rfl, hpending⟩ := hpost
      refine ⟨h.attempts, h.preparations, h.saved_le, h.engine, h.saved, fun c hc => ?_⟩
      obtain rfl := Option.some.inj hc
      exact h.saved pending hpending
    | (.error _, e), hpost => exact h.of_closes (hpost ▸ stepwise_closes.refl _)
  next => exact h

theorem Inv.finishCommit (h : w.Inv) (horder : w.InOrder .finishCommit) :
    (w.step .finishCommit).Inv := by
  simp only [step, commitCall]
  split
  next c hc =>
    split_ifs with hstage
    · exact h
    refine ⟨h.attempts, h.preparations, h.saved_le, ⟨le_refl _, fun _ hpos hg => ?_⟩, ?_, ?_⟩
    · replace hg : (if !c.pending.value.authorityChanged || c.pending.value.preserveAccess then
          c.pending.value.priorAccess.2 else w.engine.writeStatus) = .granted := hg
      split_ifs at hg with hkeep
      · exact (h.commit c hc).granted (horder c hc hg) hpos hg
      · exact h.engine.granted rfl hpos hg
    · intro p hp
      cases hp
    · intro c' hc'
      cases hc'
  next => exact h

theorem Inv.step (h : w.Inv) {event : AccessEvent} (horder : w.InOrder event) :
    (w.step event).Inv := by
  cases event with
  | fenceWrites => exact h.fenceWrites
  | beginAccess read write =>
    simp only [AccessRun.step]
    refine h.call_of_closes (stepwise_closes.reads (reads_beginAccess read write)) fun a e he => ?_
    refine he.withAttempts fun a' ha' => ?_
    rcases List.mem_append.1 ha' with ha' | ha'
    · exact he.attempts a' ha'
    · rw [List.mem_singleton.1 ha']
  | resumeWrite i faults => exact h.resumeWrite i faults
  | writeResumed i => exact h.writeResumed i
  | beginWrite faults write =>
    refine h.unlocked (h.call_of_closes (stepwise_closes.bind ?_ fun _ => ?_) fun _ _ he => he)
    · exact stepwise_closes.reads reads_checkNoPendingConfiguration
    · exact closes_beginWriteLocked faults write false
  | acceptAcknowledgement faults ack =>
    exact h.unlocked (h.call_of_closes (closes_acceptAcknowledgement faults ack) fun _ _ he => he)
  | finishAccess i =>
    simp only [AccessRun.step]
    split
    next a ha =>
      split_ifs
      · exact h
      have hle := h.attempts a (List.mem_of_getElem? ha)
      refine (h.eraseAttempt i).call_of_closes (stepwise_closes.reads (reads_finishAccess a.value)) ?_
      intro p e he
      refine ⟨he.attempts, fun p' hp' => ?_, he.saved_le, he.engine, he.saved, he.commit⟩
      rcases List.mem_append.1 hp' with hp' | hp'
      · exact he.preparations p' hp'
      · rw [List.mem_singleton.1 hp']
        exact hle
    next => exact h
  | publishAccess i => exact h.publishAccess horder
  | prepareConfiguration c hostGeneration recovering =>
    exact h.prepareConfiguration c hostGeneration recovering
  | startCommit i => exact h.startCommit i
  | fenceCommit =>
    refine h.commitCall_of_closes (fun c => along_update fun e => closes_fenceInstalled e _) ?_
    rintro c _ ⟨⟩
    rfl
  | configureCommit =>
    refine h.commitCall_of_closes (fun c => closes_configureCommit _) ?_
    rintro c _ ⟨⟩
    rfl
  | finishCommit => exact h.finishCommit horder
  | cancelWork =>
    exact h.unlocked (h.call_of_closes closes_cancelConfigurationWork fun _ _ he => he)
  | dropPreparation i =>
    simp only [AccessRun.step]
    split
    next p hp => exact h.of_closes (closes_dropPreparation w.engine p)
    next => exact h

theorem Inv.run (h : w.Inv) {events : List AccessEvent} (horder : w.Ordered events) :
    (w.run events).Inv := by
  induction events generalizing w with
  | nil => exact h
  | cons event rest ih => exact ih (h.step horder.1) horder.2

theorem Ordered.of_append {done rest : List AccessEvent} (h : w.Ordered (done ++ rest)) :
    w.Ordered done := by
  induction done generalizing w with
  | nil => trivial
  | cons event done ih => exact ⟨h.1, ih h.2⟩

end AccessRun

namespace SingleReplica

def primaryIdentity : ReplicaIdentity := ⟨1, "a", "g"⟩

def authority : ManagedReplicaConfiguration where
  localIdentity := primaryIdentity
  previousConfiguration := none
  currentConfiguration := ⟨"c", ⟨0, 1⟩, 1, [⟨primaryIdentity, .primary⟩], 1⟩
  switchoverHandoff := none
  secondaryRemoval := none
  scaleUp := none
  buildKind := .bootstrap

/-- A new replica opens and becomes the primary of its configuration. -/
def becomePrimary : EngineM LogStorage Unit := do
  openReplicator 0
  let preparation ← prepareReplicaConfiguration authority 0 false
  admitDurably authority
  commitReplicaConfiguration preparation
  controlChangeRole authority.epoch .primary
  controlUpdateEpoch authority.epoch
  settlePrimaryPrefix

def primary : Engine LogStorage := (becomePrimary.run (.new primaryIdentity ⟨[], 0⟩)).2

/-- The journal fails when the commit of a write is recorded. -/
def commitFault : Faults := fun i => if i = 3 then some .closed else none

/-- After a fence the write whose commit was not recorded is recovered, and writes are granted
anew. -/
def grantedAnew : List AccessEvent :=
  [.beginAccess .granted .granted, .finishAccess 0, .publishAccess 0,
    .beginWrite commitFault ⟨"w", []⟩, .fenceWrites, .beginAccess .granted .granted,
    .resumeWrite 0 fun _ => none, .writeResumed 0, .finishAccess 0, .publishAccess 1]

/-- Writes are granted by a call that began before the fence. -/
def lateGrant : List AccessEvent :=
  [.beginAccess .granted .granted, .finishAccess 0, .fenceWrites, .publishAccess 0]

/-- Writes are granted, and the access that the next preparation saves is restored after the
fence. -/
def restoredGrant : List AccessEvent :=
  [.beginAccess .granted .granted, .finishAccess 0, .publishAccess 0,
    .prepareConfiguration authority 0 false, .fenceWrites, .startCommit 0, .fenceCommit,
    .configureCommit, .finishCommit]

end SingleReplica

end Kuberic
