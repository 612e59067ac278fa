import Kuberic.Replicator.Quorum

/-!
# The replication log of one engine

`ReplicationLog` assigns LSNs to local writes, keeps the operations that are not yet committed and
hands every write a completion that its quorum tracker resolves.  Each operation returns its result
together with the log it leaves behind, because an operation of the source that fails keeps the
changes it made before the failure.
-/

namespace Kuberic

structure PendingLocalWrite where
  operationId : OperationId
  lsn : Int
  data : Bytes
  deriving DecidableEq

structure PreparedWrite where
  lsn : Int
  items : List ReplicationItem
  completion : CompletionId

/-- The operations that are retained for peers, by LSN. -/
abbrev ReplicationQueue := AssocMap Int Bytes

namespace ReplicationQueue

def push (q : ReplicationQueue) (operation : Operation) : ReplicationQueue :=
  AssocMap.insert q operation.lsn operation.data

def truncateCommitted (q : ReplicationQueue) (committedLsn : Int) : ReplicationQueue :=
  q.retain fun lsn _ => committedLsn + 1 ≤ lsn

end ReplicationQueue

structure ReplicationLog where
  localIdentity : ReplicaIdentity
  authority : Option ManagedReplicaConfiguration
  isOpen : Bool
  role : ReplicaRole
  epoch : Epoch
  nextLsn : Int
  pendingLocalWrite : Option PendingLocalWrite
  queue : ReplicationQueue
  quorum : QuorumTracker

namespace ReplicationLog

def new (localIdentity : ReplicaIdentity) : ReplicationLog where
  localIdentity := localIdentity
  authority := none
  isOpen := false
  role := .none
  epoch := ⟨0, 0⟩
  nextLsn := 0
  pendingLocalWrite := none
  queue := AssocMap.empty
  quorum := .empty

/-! ## Write reservation and registration -/

def reserveWrite (log : ReplicationLog) (write : ClientWrite) : Result Int × ReplicationLog :=
  match log.authority with
  | none => (.error .authorityNotAdmitted, log)
  | some a =>
    if !log.isOpen then (.error .notOpen, log)
    else if log.epoch ≠ a.currentConfiguration.epoch then
      (.error (.authorityMismatch "write authority predates the replicator epoch"), log)
    else if log.role ≠ .primary then (.error .notPrimary, log)
    else if a.primaryIdentity ≠ some log.localIdentity then (.error .notPrimary, log)
    else match log.pendingLocalWrite with
      | some pending =>
        if pending.operationId = write.operationId ∧ pending.data = write.data then
          (.ok pending.lsn, log)
        else (.error (.localWritePending pending.operationId), log)
      | none => (.ok (log.nextLsn + 1), { log with
          pendingLocalWrite := some ⟨write.operationId, log.nextLsn + 1, write.data⟩ })

def restoreWriteReservation (log : ReplicationLog) (write : ClientWrite) (lsn : Int) :
    Result Unit × ReplicationLog :=
  match log.pendingLocalWrite with
  | some pending =>
    if pending.operationId = write.operationId ∧ pending.lsn = lsn ∧ pending.data = write.data then
      (.ok (), log)
    else (.error (.localWritePending pending.operationId), log)
  | none => (.ok (), { log with
      pendingLocalWrite := some ⟨write.operationId, lsn, write.data⟩
      nextLsn := max log.nextLsn (lsn - 1) })

/-- The pending reservation, if any, is not for this operation. -/
def conflictsWithReservation (log : ReplicationLog) (operation : Operation) : Bool :=
  log.pendingLocalWrite.any fun pending =>
    pending.lsn != operation.lsn || pending.data != operation.data

def replicationItems (log : ReplicationLog) (operation : Operation) :
    Result (List ReplicationItem) :=
  match log.authority with
  | none => .error .authorityNotAdmitted
  | some a => .ok <| (a.members.filter (· ≠ log.localIdentity)).map fun receiver =>
      { sender := log.localIdentity
        receiver := receiver
        epoch := a.currentConfiguration.epoch
        previousConfigurationId := a.previousConfiguration.map (·.configurationId)
        currentConfigurationId := a.currentConfiguration.configurationId
        lsn := operation.lsn
        committedLsn := log.quorum.committedLsn
        data := operation.data }

/-- The completion of a write: resolved at once when its LSN is already committed. -/
def completionFor (quorum : QuorumTracker) (lsn : Int) : Result CompletionId × QuorumTracker :=
  if lsn ≤ quorum.committedLsn then
    let (completion, channels) := quorum.channels.channel
    (.ok completion, { quorum with channels := channels.send [(completion, .ok lsn)] })
  else quorum.registerWrite lsn

def ensureLocalWriteRegistered (log : ReplicationLog) (operation : Operation) :
    Result PreparedWrite × ReplicationLog :=
  if !log.isOpen ∨ log.role ≠ .primary then (.error .notPrimary, log)
  else if log.authority.map (·.currentConfiguration.epoch) ≠ some log.epoch then
    (.error (.authorityMismatch "write registration belongs to a fenced epoch"), log)
  else if log.conflictsWithReservation operation then
    (.error (.application "local write differs from its reserved operation"), log)
  else
    let log := { log with queue := log.queue.push operation }
    match log.quorum.recordLocalProgress operation.lsn with
    | (.error e, quorum) => (.error e, { log with quorum := quorum })
    | (.ok (), quorum) =>
      match completionFor quorum operation.lsn with
      | (.error e, quorum) => (.error e, { log with quorum := quorum })
      | (.ok completion, quorum) =>
        let log := { log with quorum := quorum }
        match log.replicationItems operation with
        | .error e => (.error e, log)
        | .ok items => (.ok ⟨operation.lsn, items, completion⟩, { log with
            queue := log.queue.truncateCommitted log.quorum.committedLsn
            nextLsn := max log.nextLsn operation.lsn
            pendingLocalWrite := none })

/-! ## Progress and commit -/

def acknowledge (log : ReplicationLog) (ack : ReplicationAck) : Result Unit × ReplicationLog :=
  if ack.epoch ≠ log.epoch then
    (.error (.authorityMismatch "acknowledgement predates the replicator epoch"), log)
  else
    let (result, quorum) := log.quorum.acknowledge ack
    (result, { log with quorum := quorum })

def acknowledgeInSession (log : ReplicationLog) (ack : ReplicationAck)
    (session : ProcessSessionId) : Result Unit × ReplicationLog :=
  if ack.epoch ≠ log.epoch then
    (.error (.authorityMismatch "acknowledgement predates replicator epoch"), log)
  else
    let (result, quorum) := log.quorum.acknowledgeInSession ack session
    (result, { log with quorum := quorum })

def recordLocalProgress (log : ReplicationLog) (lsn : Int) : Result Unit × ReplicationLog :=
  let (result, quorum) := log.quorum.recordLocalProgress lsn
  (result, { log with nextLsn := max log.nextLsn lsn, quorum := quorum })

def recordPreparedBuildHandoffProgress (log : ReplicationLog) (identity : ReplicaIdentity)
    (lsn : Int) : ReplicationLog :=
  { log with quorum := log.quorum.recordPreparedBuildHandoffProgress identity lsn }

def recordVerifiedLocalProgress (log : ReplicationLog) (lsn : Int) : ReplicationLog :=
  { log with quorum := log.quorum.recordVerifiedLocalProgress lsn }

def registerPeerSession (log : ReplicationLog) (identity : ReplicaIdentity)
    (session : ProcessSessionId) : Result Unit × ReplicationLog :=
  let (result, quorum) := log.quorum.registerPeerSession identity session
  (result, { log with quorum := quorum })

def finalizeCommit (log : ReplicationLog) (committedLsn : Int) : Result Unit × ReplicationLog :=
  match log.quorum.finalizeCommit committedLsn with
  | (.error e, quorum) => (.error e, { log with quorum := quorum })
  | (.ok (), quorum) => (.ok (), { log with
      quorum := quorum
      queue := log.queue.truncateCommitted committedLsn })

def restoreCommittedPrefix (log : ReplicationLog) (committedLsn : Int) : ReplicationLog :=
  { log with quorum := log.quorum.restoreCommittedLsn committedLsn }

def restoreCommittedWrite (log : ReplicationLog) (operation : Operation) :
    Result Unit × ReplicationLog :=
  if log.conflictsWithReservation operation then
    (.error (.application "committed write conflicts with the active reservation"), log)
  else
    let log := { log with
      pendingLocalWrite := none
      nextLsn := max log.nextLsn operation.lsn }
    match log.quorum.recordLocalProgress operation.lsn with
    | (.error e, quorum) => (.error e, { log with quorum := quorum })
    | (.ok (), quorum) => (.ok (), { log with
        quorum := quorum.restoreCommittedLsn operation.lsn
        queue := log.queue.truncateCommitted operation.lsn })

/-! ## Fencing and authority -/

def fenceClientWrites (log : ReplicationLog) : ReplicationLog :=
  { log with quorum := log.quorum.failPending }

def openLog (log : ReplicationLog) : Result Unit × ReplicationLog :=
  if log.isOpen then (.error (.application "replicator already open"), log)
  else (.ok (), { log with isOpen := true })

def updateEpoch (log : ReplicationLog) (epoch : Epoch) : Result Unit × ReplicationLog :=
  if epoch < log.epoch then
    (.error (.authorityMismatch "replicator epoch cannot regress"), log)
  else
    let log := if epoch ≠ log.epoch then log.fenceClientWrites else log
    (.ok (), { log with epoch := epoch })

theorem updateEpoch_of_lt {log : ReplicationLog} {epoch : Epoch} (h : epoch < log.epoch) :
    log.updateEpoch epoch =
      (.error (.authorityMismatch "replicator epoch cannot regress"), log) := if_pos h

theorem updateEpoch_self (log : ReplicationLog) : log.updateEpoch log.epoch = (.ok (), log) := by
  simp [updateEpoch]

theorem updateEpoch_of_gt {log : ReplicationLog} {epoch : Epoch} (h : log.epoch < epoch) :
    log.updateEpoch epoch = (.ok (), { log.fenceClientWrites with epoch := epoch }) := by
  simp [updateEpoch, h.not_gt, h.ne']

def changeRole (log : ReplicationLog) (epoch : Epoch) (role : ReplicaRole) :
    Result Unit × ReplicationLog :=
  if !log.isOpen then (.error .notOpen, log)
  else match log.updateEpoch epoch with
    | (.error e, log) => (.error e, log)
    | (.ok (), log) =>
      let log := { log with role := role }
      (.ok (), if role ≠ .primary then log.fenceClientWrites else log)

def configurePrevalidated (log : ReplicationLog) (a : ManagedReplicaConfiguration)
    (localProgress : Int) : ReplicationLog :=
  { log with
    pendingLocalWrite := if log.authority = some a then log.pendingLocalWrite else none
    nextLsn := max log.nextLsn localProgress
    quorum := log.quorum.configurePrevalidated a localProgress
    authority := some a }

def admitPreparedAuthority (log : ReplicationLog) (a : ManagedReplicaConfiguration)
    (localProgress : Int) (preserveWriteAccess : Bool) : ReplicationLog :=
  let log := if preserveWriteAccess then { log with epoch := a.currentConfiguration.epoch }
    else if a.currentConfiguration.epoch ≠ log.epoch then
      { log.fenceClientWrites with epoch := a.currentConfiguration.epoch }
    else log
  log.configurePrevalidated a localProgress

def close (log : ReplicationLog) : ReplicationLog :=
  { log.fenceClientWrites with queue := AssocMap.empty, isOpen := false, role := .none }

def abort (log : ReplicationLog) : ReplicationLog := log.close

def resetProgressAfterDataLoss (log : ReplicationLog) (currentProgress committedLsn : Int) :
    ReplicationLog :=
  { log with
    pendingLocalWrite := none
    nextLsn := currentProgress
    queue := AssocMap.empty
    quorum := log.quorum.resetProgressAfterDataLoss log.localIdentity currentProgress
      committedLsn }

end ReplicationLog

end Kuberic
