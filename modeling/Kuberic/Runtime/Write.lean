import Mathlib.Data.String.Basic
import Kuberic.Runtime.Engine

/-!
# Local writes and acknowledgements

The primary's side of replication: a client write is journalled, applied to the application's
storage and registered with the replication log; acknowledgements raise the progress of the peers,
and what is ready is committed.  The faults of the journal are an argument, so that a write can stop
after any of its durable steps.
-/

namespace Kuberic

open Effect DurableState

variable {σ : Type} [DurableState σ]

structure PendingWrite where
  lsn : Int
  replicationItems : List ReplicationItem
  /-- The completion of a registered write; a write found committed is already resolved. -/
  completion : Option CompletionId

def maxBuildPendingOperations : Nat := 64

def verifyLocalWriteProgress (lsn : Int) : EngineM σ Unit := do
  let e ← observe
  let progress ← demand e.replicationProgress .authorityNotAdmitted
  if lsn = progress.verifiedLsn + 1 then
    let progress := { progress with verifiedLsn := lsn }
    recordReplicationProgress progress
    update fun e => { e with
      log := e.log.recordVerifiedLocalProgress lsn
      replicationProgress := some progress }
  else pure ()

def recordLocalWrite (fault : Option RuntimeError) (write : DurableLocalWrite) :
    EngineM σ Unit := do
  attempt fault
  update fun e => { e with journal := e.journal.insert write.operationId write }

/-- Where the journal fails, in the order of its calls. -/
abbrev Faults := Nat → Option RuntimeError

/-- Journal the writes one after the other; a fault stops at the write it hits. -/
def recordLocalWrites (faults : Faults) : List DurableLocalWrite → EngineM σ Unit
  | [] => pure ()
  | write :: rest => do
    recordLocalWrite (faults 0) write
    recordLocalWrites (fun i => faults (i + 1)) rest

def finalizeReadyCommitLocked (faults : Faults) : EngineM σ Unit := do
  let e ← observe
  match e.log.quorum.readyCommitLsn with
  | none => pure ()
  | some readyLsn =>
    let progress ← commitStorage readyLsn
    require (readyLsn ≤ progress.committedLsn ∧ progress.committedLsn ≤ progress.appliedLsn)
      (.application "application did not durably record quorum-ready progress")
    let e ← observe
    let committedWrites := (e.localWrites.values.filter fun write =>
      write.phase == .registered && decide (write.lsn ≤ readyLsn)).map fun write =>
        { write with phase := .committed }
    recordLocalWrites faults committedWrites
    onLog fun log => log.finalizeCommit readyLsn
    update fun e => { e with
      localWrites := committedWrites.foldl (fun w write => w.erase write.operationId) e.localWrites
      committedLsn := max e.committedLsn progress.committedLsn }

/-- The write found in the journal, or a fresh reservation for it. -/
def reserveLocalWrite (fault : Option RuntimeError) (write : ClientWrite) (recovering : Bool) :
    EngineM σ DurableLocalWrite := do
  let e ← observe
  match e.journal.get? write.operationId with
  | some existing =>
    require (existing.data = write.data)
      (.application "client operation ID was reused with different data")
    pure existing
  | none =>
    require (recovering = false) (.localWritePending write.operationId)
    let committedLsn := e.log.quorum.committedLsn
    let lsn ← onLog fun log => log.reserveWrite write
    let reserved : DurableLocalWrite := ⟨write.operationId, lsn, committedLsn, write.data, .reserved⟩
    recordLocalWrite fault reserved
    update fun e => { e with localWrites := e.localWrites.insert write.operationId reserved }
    pure reserved

/-- The write is durably committed already: restore it and answer at once. -/
def restoreCommitted (operation : Operation) (operationId : OperationId)
    (progress : DurableApplicationProgress) : EngineM σ PendingWrite := do
  onLog fun log => log.restoreCommittedWrite operation
  update fun e => { e with
    localWrites := e.localWrites.erase operationId
    currentProgress := max e.currentProgress progress.appliedLsn
    committedLsn := max e.committedLsn progress.committedLsn }
  pure ⟨operation.lsn, [], none⟩

/-- Make the operation durable in the application, or check that it is what is stored there. -/
def applyLocalWrite (operation : Operation) : EngineM σ DurableApplicationProgress := do
  let e ← observe
  let progress := durableProgress e.storage
  if operation.lsn ≤ progress.appliedLsn then
    require (verifyApplied e.storage operation = true)
      (.application "reserved write conflicts with durable application state")
    pure progress
  else
    require (progress.appliedLsn + 1 = operation.lsn)
      (.application ("reserved LSN " ++ toString operation.lsn ++
        " is not contiguous with durable progress " ++ toString progress.appliedLsn))
    applyStorage operation

/-- What the build streams keep of a new operation. -/
def OutboundBuild.push (build : OutboundBuild) (operation : Operation) : OutboundBuild :=
  if operation.lsn ≤ build.progress.authority.replicationBoundaryLsn then build
  else if build.emitted.values.any fun item =>
      !item.snapshotChunk && !item.finalItem && item.lsn == operation.lsn then build
  else if build.finalSequence.isNone ∨ build.catchingUp then
    { build with pendingOperations := build.pendingOperations.insert operation.lsn operation }
  else
    { build with
      nextSequence := build.nextSequence + 1
      emitted := build.emitted.insert build.nextSequence ⟨operation.lsn, false, false⟩ }

/-- A write that is only reserved takes its reservation in the log back, which a new process has
lost. -/
def restoreReservation (write : ClientWrite) (durable : DurableLocalWrite) : EngineM σ Unit :=
  if durable.phase = .reserved then onLog fun log => log.restoreWriteReservation write durable.lsn
  else pure ()

/-- A write that waits for its quorum. -/
structure RegisteredWrite where
  prepared : PreparedWrite
  operation : Operation
  ack : DurableApplicationProgress

/-- Register an applied write with the log. -/
def registerLocalWrite (fault : Option RuntimeError) (write : ClientWrite)
    (durable : DurableLocalWrite) (operation : Operation) (ack : DurableApplicationProgress) :
    EngineM σ RegisteredWrite := do
  let registered := { durable with phase := .registered }
  recordLocalWrite fault registered
  update fun e => { e with localWrites := e.localWrites.insert write.operationId registered }
  restoreReservation write durable
  let prepared ← onLog fun log => log.ensureLocalWriteRegistered operation
  pure ⟨prepared, operation, ack⟩

/-- `begin_write_locked` up to the reservation of the write in the journal. -/
def beginReservation (fault : Option RuntimeError) (write : ClientWrite) (recovering : Bool) :
    EngineM σ DurableLocalWrite := do
  checkAborted
  let e ← observe
  require (e.isOpen = true) .notOpen
  require (e.role = .primary) .notPrimary
  require (e.writeStatus = .granted ∨ recovering = true) (.writeClosed e.writeStatus)
  require (¬ e.outboundBuilds.values.any fun build =>
    build.catchingUp && decide (maxBuildPendingOperations ≤ build.pendingOperations.entries.length))
    .queueFull
  let authority ← demand e.authority .authorityNotAdmitted
  require (authority.primaryIdentity = some e.identity)
    (.authorityMismatch "local runtime is not the admitted primary")
  match e.localWrites.sortedValues.find? fun pending => pending.operationId != write.operationId with
  | some unresolved => fail (.localWritePending unresolved.operationId)
  | none => reserveLocalWrite fault write recovering

/-- `begin_write_locked` from the reservation up to the registration. -/
def completeReservation (faults : Faults) (write : ClientWrite)
    (durable : DurableLocalWrite) : EngineM σ (PendingWrite ⊕ RegisteredWrite) := do
  let operation : Operation := ⟨durable.lsn, durable.committedLsn, write.data⟩
  let progress := durableProgress (← observe).storage
  if durable.phase = .committed then
    ofExcept (validateDurableAck progress.appliedLsn durable.lsn progress)
    verifyLocalWriteProgress durable.lsn
    return .inl (← restoreCommitted operation write.operationId progress)
  else
    let ack ← applyLocalWrite operation
    ofExcept (validateDurableAck (max durable.lsn progress.appliedLsn) durable.committedLsn ack)
    verifyLocalWriteProgress durable.lsn
    if durable.lsn ≤ ack.committedLsn then
      recordLocalWrite (faults 1) { durable with phase := .committed }
      return .inl (← restoreCommitted operation write.operationId ack)
    else return .inr (← registerLocalWrite (faults 2) write durable operation ack)

/-- `begin_write_locked` up to the registration of the write; a write that is found committed is
answered at once. -/
def startWriteLocked (faults : Faults) (write : ClientWrite)
    (recovering : Bool) : EngineM σ (PendingWrite ⊕ RegisteredWrite) := do
  let durable ← beginReservation (faults 0) write recovering
  completeReservation faults write durable

/-- The rest of `begin_write_locked`, after the commit of what is ready: the operation is passed to
the builds and its items are returned for sending. -/
def finishWrite (registered : RegisteredWrite) : EngineM σ PendingWrite := do
  update fun e => { e with
    currentProgress := registered.ack.appliedLsn
    outboundBuilds := e.outboundBuilds.mapValues fun build => build.push registered.operation }
  pure ⟨registered.prepared.lsn, registered.prepared.items, some registered.prepared.completion⟩

def beginWriteLocked (faults : Faults) (write : ClientWrite)
    (recovering : Bool) : EngineM σ PendingWrite := do
  match ← startWriteLocked faults write recovering with
  | .inl resolved => pure resolved
  | .inr registered =>
    finalizeReadyCommitLocked fun i => faults (i + 3)
    finishWrite registered

/-- `begin_write` up to the registration of the write. -/
def startWrite (faults : Faults) (write : ClientWrite) :
    EngineM σ (PendingWrite ⊕ RegisteredWrite) := do
  checkNoPendingConfiguration
  startWriteLocked faults write false

def beginWrite (faults : Faults) (write : ClientWrite) :
    EngineM σ PendingWrite := do
  checkNoPendingConfiguration
  beginWriteLocked faults write false

def resumeLocalWrite (faults : Faults) (write : ClientWrite) :
    EngineM σ PendingWrite := beginWriteLocked faults write true

/-! ## Acknowledgements -/

/-- `accept_acknowledgement` up to the commit of what is ready. -/
def recordAcknowledgement (ack : ReplicationAck) : EngineM σ Unit := do
  checkAborted
  let e ← observe
  require (e.configuration = e.authority)
    (.authorityMismatch "acknowledgement authority differs from durable admission")
  checkNoPendingConfiguration
  onLog fun log => log.acknowledge ack

def acceptAcknowledgement (faults : Faults) (ack : ReplicationAck) :
    EngineM σ Unit := do
  recordAcknowledgement ack
  finalizeReadyCommitLocked faults

/-- `observe_replication_ack` up to the commit of what is ready. -/
def recordReplicationAck (ack : ReplicationAck) (session : ProcessSessionId) :
    EngineM σ Unit := do
  checkNoPendingConfiguration
  checkAborted
  let e ← observe
  require (e.configuration = e.authority) (.authorityMismatch "ACK differs from durable authority")
  onLog fun log => log.acknowledgeInSession ack session

def observeReplicationAck (faults : Faults) (ack : ReplicationAck)
    (session : ProcessSessionId) : EngineM σ Unit := do
  recordReplicationAck ack session
  finalizeReadyCommitLocked faults

/-- `refresh_application_progress` up to the commit of what is ready. -/
def recordApplicationProgress : EngineM σ Unit := do
  let e ← observe
  let progress := durableProgress e.storage
  update fun e => { e with
    currentProgress := max e.currentProgress progress.appliedLsn
    committedLsn := max e.committedLsn progress.committedLsn }
  if e.authority.isSome then onLog fun log => log.recordLocalProgress progress.appliedLsn
  else pure ()

def refreshApplicationProgress (faults : Faults) : EngineM σ Unit := do
  recordApplicationProgress
  let e ← observe
  if e.authority.isSome then finalizeReadyCommitLocked faults else pure ()

def registerPeerSession (identity : ReplicaIdentity) (session : ProcessSessionId) :
    EngineM σ Unit := do
  checkNoPendingConfiguration
  checkAborted
  onLog fun log => log.registerPeerSession identity session

/-! ## Repair of a peer from retained history -/

/-- The operations up to the first one that is not the expected next, and the LSN expected after
them. -/
def contiguousFrom (expected : Int) : List Operation → List Operation × Result Int
  | [] => ([], .ok expected)
  | operation :: rest =>
    if operation.lsn ≠ expected then
      ([], .error (.invalidReplication "retained history cannot repair the peer contiguously"))
    else
      let (sent, result) := contiguousFrom (expected + 1) rest
      (operation :: sent, result)

/-- The items that repair `receiver` from stored operations. -/
def repairItem (sender receiver : ReplicaIdentity) (a : ManagedReplicaConfiguration)
    (operation : Operation) : ReplicationItem where
  sender := sender
  receiver := receiver
  epoch := a.currentConfiguration.epoch
  previousConfigurationId := a.previousConfiguration.map (·.configurationId)
  currentConfigurationId := a.currentConfiguration.configurationId
  lsn := operation.lsn
  committedLsn := operation.committedLsn
  data := operation.data

def requirePrimary : EngineM σ Unit := do
  checkAborted
  let e ← observe
  require (e.isOpen = true) .notOpen
  require (e.role = .primary) .notPrimary

/-- `repair_peer_from_history`.  Items are sent as the history is read, so those sent before a
failure are returned next to it. -/
def repairPeerFromHistory (identity : ReplicaIdentity) (peerProgress : Int) :
    EngineM σ (List ReplicationItem × Result Unit) := do
  requirePrimary
  let e ← observe
  let authority ← demand e.authority .authorityNotAdmitted
  require (authority.currentConfiguration.hasIdentity identity = true)
    (.authorityMismatch "peer repair target is outside Current Configuration")
  if e.currentProgress ≤ peerProgress then
    update fun e => { e with peerRepairTargets := e.peerRepairTargets.erase identity }
    pure ([], .ok ())
  else if (e.peerRepairTargets.get? identity).any (e.currentProgress ≤ ·) then pure ([], .ok ())
  else
    let history := match getReplicationOperations e.storage (peerProgress + 1) e.currentProgress with
      | .ok operations => contiguousFrom (peerProgress + 1) operations
      | .error error => ([], .error error)
    let result := match history.2 with
      | .ok expected =>
        if expected = e.currentProgress + 1 then .ok ()
        else .error (.invalidReplication "retained history is unavailable; full copy is required")
      | .error error => .error error
    -- the target is recorded while the history is read, and dropped again if that failed
    update fun e => { e with peerRepairTargets := match result with
      | .ok () => e.peerRepairTargets.insert identity e.currentProgress
      | .error _ => e.peerRepairTargets.erase identity }
    pure (history.1.map (repairItem e.identity identity authority), result)

end Kuberic
