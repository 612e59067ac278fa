import Kuberic.Lib.Effect
import Kuberic.Replicator.Log
import Kuberic.Runtime.Storage

/-!
# The state of the default replication engine

One record for everything an engine keeps: the durable stores it shares with the host, which survive
a crash, and the runtime state of the process, which does not.  The engine serializes deliveries with
a lock that a delivery holds until it is acknowledged or dropped; `Delivery` is what the holder of
that lock has captured.
-/

namespace Kuberic

inductive LocalWritePhase
  | reserved
  | registered
  | committed
  deriving DecidableEq

structure DurableLocalWrite where
  operationId : OperationId
  lsn : Int
  committedLsn : Int
  data : Bytes
  phase : LocalWritePhase
  deriving DecidableEq

structure EmittedBuildItem where
  lsn : Int
  finalItem : Bool
  snapshotChunk : Bool
  deriving DecidableEq

structure OutboundBuild where
  progress : BuildProgress
  finalSequence : Option Nat
  nextSequence : Nat
  emitted : AssocMap Nat EmittedBuildItem
  pendingOperations : AssocMap Int Operation
  catchingUp : Bool
  /-- The stream of the build is attached, so that writes can send to it. -/
  streaming : Bool
  generation : Nat

structure PendingManagedConfiguration where
  configuration : ManagedReplicaConfiguration
  engineGeneration : Nat
  hostGeneration : Nat
  /-- The preparation that it belongs to has not been dropped. -/
  active : Bool
  replicationProgress : ReplicationProgress
  currentProgress : Int
  previousEpoch : Option Epoch
  priorAccess : AccessStatus × AccessStatus
  authorityChanged : Bool
  preserveAccess : Bool
  completedBuilds : List (ReplicaIdentity × Int)

/-- How far a delivery has come. -/
inductive DeliveryStage
  /-- The operation waits in the stream of the service, under this number. -/
  | enqueued (ticket : Nat)
  /-- The operation is at or below the applied LSN and has to be compared with it. -/
  | present
  /-- The application holds the operation and has reported its progress. -/
  | applied (ack : DurableApplicationProgress)
  /-- The authority is still the one the delivery started under, in memory and on disk. -/
  | confirmed (ack : DurableApplicationProgress)
  /-- The verified LSN is recorded. -/
  | recorded (ack : DurableApplicationProgress)
  deriving DecidableEq

/-- A delivery that holds the delivery lock. -/
structure Delivery where
  generation : Nat
  authority : ManagedReplicaConfiguration
  envelope : ReplicationItem
  operation : Operation
  applicationProgress : DurableApplicationProgress
  replicationProgress : ReplicationProgress
  stage : DeliveryStage

structure Engine (σ : Type) where
  identity : ReplicaIdentity
  -- durable
  storage : σ
  configuration : Option ManagedReplicaConfiguration
  progressStore : AssocMap AuthorityFence Int
  buildAuthorities : AssocMap OperationId BuildAuthority
  buildStore : AssocMap OperationId BuildProgress
  journal : AssocMap OperationId DurableLocalWrite
  -- of the process
  isOpen : Bool
  aborted : Bool
  role : ReplicaRole
  readStatus : AccessStatus
  writeStatus : AccessStatus
  authority : Option ManagedReplicaConfiguration
  configurationGeneration : Nat
  pendingConfiguration : Option PendingManagedConfiguration
  replicationProgress : Option ReplicationProgress
  currentProgress : Int
  committedLsn : Int
  builds : AssocMap OperationId BuildProgress
  inboundBuildGenerations : AssocMap OperationId Nat
  outboundBuilds : AssocMap OperationId OutboundBuild
  localWrites : AssocMap OperationId DurableLocalWrite
  peerRepairTargets : AssocMap ReplicaIdentity Int
  preparedSecondaryRemoval : Option SecondaryRemovalPreparation
  removalInProgress : Option SecondaryScaleDownIntent
  acceptedSecondaryRemoval : Option SecondaryScaleDownCleanup
  fenceGeneration : Nat
  log : ReplicationLog
  delivery : Option Delivery
  /-- Operations handed to the service and not yet taken by it, each with its number. -/
  stream : List (Nat × Operation)
  streamCount : Nat

/-- The part of an engine that its data path leaves alone. -/
structure EngineFixed where
  identity : ReplicaIdentity
  authority : Option ManagedReplicaConfiguration
  configuration : Option ManagedReplicaConfiguration
  pendingConfiguration : Option PendingManagedConfiguration
  delivery : Option Delivery
  stream : List (Nat × Operation)
  streamCount : Nat
  builds : AssocMap OperationId BuildProgress
  buildStore : AssocMap OperationId BuildProgress

def Engine.fixed {σ : Type} (e : Engine σ) : EngineFixed where
  identity := e.identity
  authority := e.authority
  configuration := e.configuration
  pendingConfiguration := e.pendingConfiguration
  delivery := e.delivery
  stream := e.stream
  streamCount := e.streamCount
  builds := e.builds
  buildStore := e.buildStore

/-- The progress that an engine counts. -/
def Engine.counted {σ : Type} (e : Engine σ) :
    Option ReplicationProgress × AssocMap AuthorityFence Int × Int :=
  (e.replicationProgress, e.progressStore, e.currentProgress)

/-- A function of the engine; an error keeps the changes made before it. -/
abbrev EngineM (σ : Type) (α : Type) := Effect (Engine σ) RuntimeError α

namespace Engine

variable {σ : Type}

/-- The engine of a new replica on the given storage. -/
def new (identity : ReplicaIdentity) (storage : σ) : Engine σ where
  identity := identity
  storage := storage
  configuration := none
  progressStore := ∅
  buildAuthorities := ∅
  buildStore := ∅
  journal := ∅
  isOpen := false
  aborted := false
  role := .none
  readStatus := .notPrimary
  writeStatus := .notPrimary
  authority := none
  configurationGeneration := 0
  pendingConfiguration := none
  replicationProgress := none
  currentProgress := 0
  committedLsn := 0
  builds := ∅
  inboundBuildGenerations := ∅
  outboundBuilds := ∅
  localWrites := ∅
  peerRepairTargets := ∅
  preparedSecondaryRemoval := none
  removalInProgress := none
  acceptedSecondaryRemoval := none
  fenceGeneration := 0
  log := .new identity
  delivery := none
  stream := []
  streamCount := 0

/-- The engine of a process that has just started on the durable stores of `e`. -/
def restarted (e : Engine σ) : Engine σ :=
  { new e.identity e.storage with
    configuration := e.configuration
    progressStore := e.progressStore
    buildAuthorities := e.buildAuthorities
    buildStore := e.buildStore
    journal := e.journal }

end Engine

open Effect

variable {σ : Type}

/-- Run an operation of the replication log. -/
def onLog {α : Type} (f : ReplicationLog → Result α × ReplicationLog) : EngineM σ α :=
  zoom Engine.log (fun e log => { e with log := log }) f

/-- An I/O call that may fail before it takes effect. -/
def attempt (fault : Option RuntimeError) : EngineM σ Unit := match fault with
  | some error => fail error
  | none => pure ()

def checkAborted : EngineM σ Unit := do
  let e ← observe
  require (e.aborted = false) .closed

def checkNoPendingConfiguration : EngineM σ Unit := do
  let e ← observe
  require (e.pendingConfiguration.isNone = true) .reconfigurationPending

/-- Wait for the delivery lock: a function that needs it runs when no delivery is in flight. -/
def lockDelivery : EngineM σ Unit := do
  let e ← observe
  require (e.delivery.isNone = true) .reconfigurationPending

def checkDeliveryGeneration (generation : Nat) : EngineM σ Unit := do
  let e ← observe
  require (e.fenceGeneration = generation)
    (.authorityMismatch "delivery was fenced before acknowledgement")
  checkAborted

def validateDurableAck (lsn requiredCommittedLsn : Int) (ack : DurableApplicationProgress) :
    Result Unit :=
  if ack.appliedLsn ≠ lsn ∨ ack.committedLsn < requiredCommittedLsn ∨
      ack.committedLsn > ack.appliedLsn then
    .error (.application "durable acknowledgement does not prove application acceptance")
  else .ok ()

theorem le_of_validateDurableAck {lsn required : Int} {ack : DurableApplicationProgress}
    (h : validateDurableAck lsn required ack = .ok ()) :
    ack.appliedLsn = lsn ∧ required ≤ ack.appliedLsn := by
  unfold validateDurableAck at h
  split_ifs at h with hbad
  omega

/-- `record_replication_progress` of the progress store. -/
def recordReplicationProgress (progress : ReplicationProgress) : EngineM σ Unit := do
  let e ← observe
  require (¬ (e.progressStore.get? progress.fence).any (progress.verifiedLsn < ·))
    (.authorityMismatch "replication progress regressed")
  update fun e => { e with
    progressStore := e.progressStore.insert progress.fence progress.verifiedLsn }

/-- `load_configuration_progress` of the progress store: the highest verified LSN that is recorded
for the configuration under any fence. -/
def Engine.configurationProgress (e : Engine σ) (epoch : Epoch) (id : ConfigurationId) :
    Option Int :=
  ((e.progressStore.entries.filter fun p =>
    p.1.epoch == epoch && p.1.currentConfigurationId == id).map Prod.snd).max?

/-! ## What the checks establish -/

section Checks

variable {e₀ : Engine σ}

theorem checks_checkAborted : Checks e₀ checkAborted fun _ => e₀.aborted = false :=
  checks_observe.bind rfl fun _ h => h ▸ checks_require

theorem checks_checkNoPendingConfiguration :
    Checks e₀ checkNoPendingConfiguration fun _ => e₀.pendingConfiguration = none :=
  checks_observe.bind rfl fun _ h => h ▸
    checks_require.post (fun _ _ h => ⟨h.1, Option.isNone_iff_eq_none.1 h.2⟩) fun _ h => h

theorem checks_lockDelivery : Checks e₀ lockDelivery fun _ => e₀.delivery = none :=
  checks_observe.bind rfl fun _ h => h ▸
    checks_require.post (fun _ _ h => ⟨h.1, Option.isNone_iff_eq_none.1 h.2⟩) fun _ h => h

theorem checks_checkDeliveryGeneration {generation : Nat} :
    Checks e₀ (checkDeliveryGeneration generation) fun _ => e₀.fenceGeneration = generation := by
  refine checks_observe.bind rfl ?_
  rintro _ rfl
  refine checks_require.bind rfl fun _ hg => ?_
  exact checks_checkAborted.post (fun _ _ h => ⟨h.1, hg⟩) fun _ h => h

theorem reads_checkAborted : Along (fun e e' => e' = e) (checkAborted : EngineM σ Unit) :=
  reads_of_checks fun _ => checks_checkAborted

theorem reads_checkNoPendingConfiguration :
    Along (fun e e' => e' = e) (checkNoPendingConfiguration : EngineM σ Unit) :=
  reads_of_checks fun _ => checks_checkNoPendingConfiguration

theorem reads_lockDelivery : Along (fun e e' => e' = e) (lockDelivery : EngineM σ Unit) :=
  reads_of_checks fun _ => checks_lockDelivery

end Checks

section Storage

variable [DurableState σ]

/-- Commit in the storage of the application. -/
def commitStorage (committedLsn : Int) : EngineM σ DurableApplicationProgress :=
  zoom Engine.storage (fun e s => { e with storage := s })
    fun s => DurableState.commit s committedLsn

def applyStorage (operation : Operation) : EngineM σ DurableApplicationProgress :=
  zoom Engine.storage (fun e s => { e with storage := s }) fun s => DurableState.apply s operation

/-- What the engine counts as verified or as current is in its storage. -/
structure Bounded (e : Engine σ) : Prop where
  progress : ∀ r, e.replicationProgress = some r → r.verifiedLsn ≤ DurableState.appliedLsn e.storage
  store : ∀ f v, e.progressStore.get? f = some v → v ≤ DurableState.appliedLsn e.storage
  current : e.currentProgress ≤ DurableState.appliedLsn e.storage

theorem Bounded.grows {e : Engine σ} {s : σ} (h : Bounded e)
    (hs : DurableState.appliedLsn e.storage ≤ DurableState.appliedLsn s) :
    Bounded { e with storage := s } :=
  ⟨fun r hr => (h.progress r hr).trans hs, fun f v hv => (h.store f v hv).trans hs,
    h.current.trans hs⟩

end Storage

end Kuberic
