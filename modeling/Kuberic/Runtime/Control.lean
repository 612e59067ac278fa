import Kuberic.Runtime.Write
import Kuberic.Runtime.Delivery

/-!
# Roles, epochs, access and the prefix of a new primary

The functions through which the host turns the role of an engine, moves it to the epoch of its
authority, opens and closes access, and settles the verified prefix when the replica becomes primary.
Those that take the delivery lock run when no delivery is in flight, and fence the deliveries that
started before them.
-/

namespace Kuberic

open Effect DurableState

variable {σ : Type}

/-- Close the door to deliveries and writes that are under way. -/
def Engine.fenced (e : Engine σ) : Engine σ :=
  { e with
    fenceGeneration := e.fenceGeneration + 1
    writeStatus := .reconfigurationPending
    log := e.log.fenceClientWrites }

def controlChangeRole (epoch : Epoch) (role : ReplicaRole) : EngineM σ Unit := do
  checkAborted
  lockDelivery
  update Engine.fenced
  onLog fun log => log.changeRole epoch role
  update fun e => { e with role := role }

/-- `control_update_epoch`, up to the callback of the application. -/
def controlUpdateEpoch (epoch : Epoch) : EngineM σ Unit := do
  checkAborted
  lockDelivery
  update fun e => { e with fenceGeneration := e.fenceGeneration + 1 }
  let e ← observe
  require (e.isOpen = true) .notOpen
  update fun e => { e with writeStatus := .reconfigurationPending }
  onLog fun log => log.updateEpoch epoch

/-- `configure_replicas`: the primary interface takes over the durable configuration. -/
def configureReplicas (current : ConfigurationDescriptor)
    (previous : Option ConfigurationDescriptor) : EngineM σ Unit := do
  checkAborted
  let e ← observe
  let authority ← demand e.configuration .authorityNotAdmitted
  require (authority.localIdentity = e.identity ∧ authority.currentConfiguration = current ∧
      authority.previousConfiguration = previous)
    (.authorityMismatch "configuration is not durably admitted")
  require (e.log.epoch ≤ authority.epoch) (.authorityMismatch "replicator epoch cannot regress")
  update fun e => { e with log := e.log.admitPreparedAuthority authority e.currentProgress false }

/-- One look of `wait_for_quorum` in its write-quorum mode; the source waits until it succeeds. -/
def checkCatchUpQuorum : EngineM σ Unit := do
  requirePrimary
  let e ← observe
  let authority ← demand e.authority .authorityNotAdmitted
  require (e.log.epoch = authority.epoch)
    (.authorityMismatch "epoch changed during catch-up wait")
  require (e.log.quorum.catchUpComplete = true) .reconfigurationPending

/-! ## Access -/

def validateRemovalWriteGrant : EngineM σ Unit := do
  let e ← observe
  let removing := e.removalInProgress.isSome || e.preparedSecondaryRemoval.isSome ||
    e.authority.any fun a => a.secondaryRemoval.isSome
  let accepted := e.acceptedSecondaryRemoval.any fun committed =>
    (e.removalInProgress.all fun intent => intent == committed.evidence.preparation.intent) &&
      (e.preparedSecondaryRemoval.all fun p => p == committed.evidence.preparation)
  require (removing = false ∨ ((e.authority.any fun a => a.previousConfiguration.isNone) = true ∧
      accepted = true ∧ e.log.quorum.catchUpComplete = true)) .reconfigurationPending

structure ManagedAccessPreparation where
  authority : Option ManagedReplicaConfiguration
  engineGeneration : Nat
  read : AccessStatus
  write : AccessStatus
  currentProgress : Int
  committedLsn : Int

/-- A write grant is for the open primary of the admitted authority. -/
def validateWriteGrant : EngineM σ Unit := do
  let e ← observe
  require (e.isOpen = true) .notOpen
  require (e.role = .primary) .notPrimary
  let authority ← demand e.authority .authorityNotAdmitted
  require (authority.primaryIdentity = some e.identity)
    (.authorityMismatch "write grant target is not the admitted primary")

/-- `prepare_access`.  Before a write grant the unresolved writes of the journal are resumed until
each is committed; those are steps of their own, so that here none is left. -/
def prepareAccess (read write : AccessStatus) : EngineM σ ManagedAccessPreparation := do
  checkAborted
  checkNoPendingConfiguration
  let e ← observe
  onlyIf (write = .granted) validateRemovalWriteGrant
  require (write ≠ .granted ∨ e.writeStatus = .granted ∨ e.localWrites.entries = [])
    .reconfigurationPending
  require (read ≠ .granted ∨ (e.isOpen = true ∧ (e.role = .primary ∨ e.role = .activeSecondary)))
    (.authorityMismatch "read access requires an open Primary or Active Secondary")
  onlyIf (write = .granted) validateWriteGrant
  require (read ≠ .granted ∨ e.role ≠ .primary ∨ e.log.quorum.catchUpComplete = true)
    .reconfigurationPending
  pure ⟨e.authority, e.fenceGeneration, read, write, e.currentProgress, e.committedLsn⟩

def publishAccess (p : ManagedAccessPreparation) : EngineM σ Unit := do
  lockDelivery
  checkAborted
  let e ← observe
  require (p.engineGeneration = e.fenceGeneration) .operationCancelled
  require (p.authority = e.authority ∧ ((p.read ≠ .granted ∧ p.write ≠ .granted) ∨
      (p.currentProgress = e.currentProgress ∧ p.committedLsn = e.committedLsn))) .operationCancelled
  update fun e => { e with
    log := if p.write = .granted then e.log else e.log.fenceClientWrites
    readStatus := p.read
    writeStatus := p.write }

section Reads

theorem reads_validateRemovalWriteGrant :
    Along (fun e e' => e' = e) (validateRemovalWriteGrant : EngineM σ Unit) :=
  stepwise_eq.bind stepwise_eq.observe fun _ => stepwise_eq.require _ _

theorem reads_validateWriteGrant :
    Along (fun e e' => e' = e) (validateWriteGrant : EngineM σ Unit) := by
  refine stepwise_eq.bind stepwise_eq.observe fun _ => stepwise_eq.bind (stepwise_eq.require _ _) ?_
  refine fun _ => stepwise_eq.bind (stepwise_eq.require _ _) fun _ => ?_
  exact stepwise_eq.bind (stepwise_eq.demand _ _) fun _ => stepwise_eq.require _ _

theorem reads_prepareAccess (read write : AccessStatus) :
    Along (fun e e' => e' = e) (prepareAccess read write : EngineM σ ManagedAccessPreparation) := by
  have hR := stepwise_eq (σ := Engine σ)
  refine hR.bind reads_checkAborted fun _ => hR.bind reads_checkNoPendingConfiguration fun _ => ?_
  refine hR.bind hR.observe fun _ => ?_
  refine hR.bind (hR.onlyIf _ reads_validateRemovalWriteGrant) fun _ => ?_
  refine hR.bind (hR.require _ _) fun _ => hR.bind (hR.require _ _) fun _ => ?_
  refine hR.bind (hR.onlyIf _ reads_validateWriteGrant) fun _ => ?_
  exact hR.bind (hR.require _ _) fun _ => hR.pure _

end Reads

/-! ## The prefix of a new primary -/

section Storage

variable [DurableState σ]

/-- The verified LSN that a new primary may settle up to. -/
def settledVerifiedLsn (e : Engine σ) : Result Int :=
  match e.authority, e.replicationProgress with
  | some authority, some progress =>
    if authority.primaryIdentity = some e.identity ∧ progress.fence = authority.fence ∧
        e.configuration = some authority ∧
        e.progressStore.get? authority.fence = some progress.verifiedLsn then
      .ok progress.verifiedLsn
    else .error (.authorityMismatch "primary activation lacks durable authority-fenced progress")
  | none, none =>
    if appliedLsn e.storage = 0 ∧ committedLsn e.storage = 0 then .ok 0
    else .error .authorityNotAdmitted
  | _, _ => .error .authorityNotAdmitted

/-- The lowest LSN of a local write that is not committed. -/
def Engine.unresolvedLocalLsn (e : Engine σ) : Option Int :=
  ((e.localWrites.values.filter fun write => write.phase != .committed).map (·.lsn)).min?

def settlePrimaryPrefix : EngineM σ Unit := do
  lockDelivery
  checkAborted
  let e ← observe
  require (e.isOpen = true ∧ e.role = .primary ∧ e.writeStatus ≠ .granted) .reconfigurationPending
  let verifiedLsn ← ofExcept (settledVerifiedLsn e)
  let durable := durableProgress e.storage
  require (0 ≤ verifiedLsn ∧ verifiedLsn ≤ durable.appliedLsn)
    (.authorityMismatch "primary prefix exceeds durable application data")
  let settledLsn := max (e.unresolvedLocalLsn.elim verifiedLsn fun lsn => min verifiedLsn (lsn - 1))
    durable.committedLsn
  let committed ← commitStorage settledLsn
  require (committed.committedLsn = settledLsn ∧ committed.appliedLsn = durable.appliedLsn)
    (.application "failed to settle certified primary prefix")
  update fun e => { e with
    log := e.log.restoreCommittedPrefix settledLsn
    committedLsn := committed.committedLsn }

end Storage

end Kuberic
