import Kuberic.Host.Authority
import Kuberic.Runtime.Engine

/-!
# The copy of a build

A build copies the state of the primary to an idle replica: the chunks of a snapshot, a final item
that installs it, and then the live operations above the snapshot.  The target applies each item,
records its progress durably and only then acknowledges; the source records the progress that the
acknowledgements prove.  Either side can stop at every point in between.

The target is the part of an engine that a copy touches, over any storage with the hooks of a copy;
the source is the part that the acknowledgements touch.
-/

namespace Kuberic

open Check DurableState CopyState

/-! ## Envelopes -/

structure CopyItem where
  buildId : OperationId
  sender : ReplicaIdentity
  receiver : ReplicaIdentity
  epoch : Epoch
  currentConfigurationId : ConfigurationId
  sequence : Nat
  lsn : Int
  committedLsn : Int
  replicationBoundaryLsn : Int
  catchUpBoundaryLsn : Option Int
  finalItem : Bool
  snapshotChunk : Bool
  data : Bytes
  deriving DecidableEq

structure CopyAck where
  buildId : OperationId
  sender : ReplicaIdentity
  receiver : ReplicaIdentity
  epoch : Epoch
  currentConfigurationId : ConfigurationId
  sequence : Nat
  durableLsn : Int
  replicationBoundaryLsn : Int
  catchUpBoundaryLsn : Option Int
  finalItem : Bool
  snapshotChunk : Bool
  deriving DecidableEq

def copySnapshotItem (a : BuildAuthority) (sequence : Nat) (data : Bytes) : CopyItem where
  buildId := a.buildId
  sender := a.source
  receiver := a.target
  epoch := a.currentConfiguration.epoch
  currentConfigurationId := a.currentConfiguration.configurationId
  sequence := sequence
  lsn := 0
  committedLsn := 0
  replicationBoundaryLsn := a.replicationBoundaryLsn
  catchUpBoundaryLsn := none
  finalItem := false
  snapshotChunk := true
  data := data

def copyFinalItem (a : BuildAuthority) (sequence : Nat) (catchUpBoundaryLsn : Int) : CopyItem where
  buildId := a.buildId
  sender := a.source
  receiver := a.target
  epoch := a.currentConfiguration.epoch
  currentConfigurationId := a.currentConfiguration.configurationId
  sequence := sequence
  lsn := a.replicationBoundaryLsn
  committedLsn := a.replicationBoundaryLsn
  replicationBoundaryLsn := a.replicationBoundaryLsn
  catchUpBoundaryLsn := some catchUpBoundaryLsn
  finalItem := true
  snapshotChunk := false
  data := []

def copyOperationItem (a : BuildAuthority) (sequence : Nat) (operation : Operation) : CopyItem where
  buildId := a.buildId
  sender := a.source
  receiver := a.target
  epoch := a.currentConfiguration.epoch
  currentConfigurationId := a.currentConfiguration.configurationId
  sequence := sequence
  lsn := operation.lsn
  committedLsn := min operation.committedLsn operation.lsn
  replicationBoundaryLsn := a.replicationBoundaryLsn
  catchUpBoundaryLsn := none
  finalItem := false
  snapshotChunk := false
  data := operation.data

/-- The acknowledgement of an item. -/
def CopyItem.ack (i : CopyItem) (durableLsn : Int) : CopyAck where
  buildId := i.buildId
  sender := i.sender
  receiver := i.receiver
  epoch := i.epoch
  currentConfigurationId := i.currentConfigurationId
  sequence := i.sequence
  durableLsn := durableLsn
  replicationBoundaryLsn := i.replicationBoundaryLsn
  catchUpBoundaryLsn := i.catchUpBoundaryLsn
  finalItem := i.finalItem
  snapshotChunk := i.snapshotChunk

/-- The live operation that an item carries. -/
def CopyItem.operation (i : CopyItem) : Operation := ⟨i.lsn, i.committedLsn, i.data⟩

section

variable [Sha256]

def BuildAuthority.validate (a : BuildAuthority) : Except ValidationError Unit := do
  validateConfiguration a.currentConfiguration none
  -- A valid configuration has a primary.
  rejectIf (a.currentConfiguration.primaryMember.map (·.identity) ≠ some a.source)
    .buildSourceNotPrimary
  let target := a.currentConfiguration.members.find? fun m => m.identity = a.target
  match a.kind with
  | .bootstrap | .failover =>
    rejectIf (∀ m ∈ target, m.role = .primary) .invalidBootstrapBuildTarget
  | .provisioning => rejectIf (target ≠ none) .provisioningBuildTargetInAuthority
  rejectIf (a.replicationBoundaryLsn < 0) .negativeBuildBoundary

def validateBuildEnvelope (a : BuildAuthority) (i : CopyItem) : Result Unit := do
  mismatch a.validate
  rejectIf (i.buildId ≠ a.buildId ∨ i.sender ≠ a.source ∨ i.receiver ≠ a.target ∨
      i.epoch ≠ a.currentConfiguration.epoch ∨
      i.currentConfigurationId ≠ a.currentConfiguration.configurationId ∨
      i.replicationBoundaryLsn ≠ a.replicationBoundaryLsn)
    (.authorityMismatch "copy item does not match durable build authority")
  rejectIf (i.finalItem ≠ i.catchUpBoundaryLsn.isSome ∨
      (i.finalItem = true ∧ i.committedLsn ≠ a.replicationBoundaryLsn) ∨
      ∃ boundary ∈ i.catchUpBoundaryLsn, boundary < a.replicationBoundaryLsn)
    (.authorityMismatch "copy item has invalid post-enumeration catch-up authority")

end

/-! ## The durable progress of a build -/

/-- The tables of the store that concern builds; a closed build is retired or abandoned. -/
structure BuildStore where
  authorities : AssocMap OperationId BuildAuthority
  progress : AssocMap OperationId BuildProgress
  closed : List OperationId

/-- The progress of a build that has none recorded. -/
def BuildProgress.initial (a : BuildAuthority) : BuildProgress := ⟨a, 0, 0, false, none⟩

namespace BuildStore

def loadBuild (s : BuildStore) (buildId : OperationId) : Option BuildAuthority :=
  if buildId ∈ s.closed then none else s.authorities.get? buildId

/-- The recorded progress of a build. -/
def progressOf (s : BuildStore) (a : BuildAuthority) : BuildProgress :=
  (s.progress.get? a.buildId).getD (.initial a)

def admitBuild [Sha256] (s : BuildStore) (a : BuildAuthority) : Result BuildStore := do
  mismatch a.validate
  rejectIf (a.buildId ∈ s.closed)
    (.authorityMismatch "retired build authority cannot be admitted again")
  rejectIf (∃ existing ∈ s.authorities.get? a.buildId, existing ≠ a)
    (.authorityMismatch "build ID was reused with different authority")
  .ok { s with authorities := s.authorities.upsert a.buildId a id }

/-- Less progress than what is recorded already. -/
def Regresses (progress existing : BuildProgress) : Prop :=
  progress.lastSequence < existing.lastSequence ∨ progress.durableLsn < existing.durableLsn ∨
    (existing.completed = true ∧ progress.completed = false) ∨
    (existing.catchUpBoundaryLsn ≠ none ∧
      progress.catchUpBoundaryLsn ≠ existing.catchUpBoundaryLsn)

instance (progress existing : BuildProgress) : Decidable (Regresses progress existing) := by
  unfold Regresses
  infer_instance

/-- `record_build_progress_inner`, without a selection. -/
def recordBuildProgress (s : BuildStore) (progress : BuildProgress) : Result BuildStore := do
  let buildId := progress.authority.buildId
  rejectIf (buildId ∈ s.closed)
    (.authorityMismatch "retired or abandoned build cannot publish progress")
  rejectIf (s.authorities.get? buildId ≠ some progress.authority)
    (.authorityMismatch "build progress lacks matching durable authorization")
  rejectIf (∃ existing ∈ s.progress.get? buildId, Regresses progress existing)
    (.authorityMismatch "build progress regressed")
  .ok { s with progress := s.progress.insert buildId progress }

end BuildStore

/-! ## The target -/

/-- The part of an engine that a copy touches, with what it keeps on disk. -/
structure BuildTarget (σ : Type) where
  -- durable
  storage : σ
  store : BuildStore
  -- of the process
  closed : Bool
  isOpen : Bool
  role : ReplicaRole
  builds : AssocMap OperationId BuildProgress
  inboundBuildGenerations : AssocMap OperationId Nat
  fenceGeneration : Nat
  replicatorEpoch : Epoch
  currentProgress : Int
  committedLsn : Int

/-- Where a call can stop after its first effect: it is dropped, the process ends, or the delivery
is fenced. -/
inductive DropPoint
  | afterStorage
  | afterRecord
  deriving DecidableEq

def fenced : RuntimeError := .authorityMismatch "delivery was fenced before acknowledgement"

/-- The phase of the build does not take items of this kind. -/
def WrongPhase (progress : BuildProgress) (i : CopyItem) : Prop :=
  progress.lastSequence < i.sequence ∧
    ((progress.completed = false ∧ i.snapshotChunk = false ∧ i.finalItem = false) ∨
      (progress.completed = true ∧ (i.snapshotChunk = true ∨ i.finalItem = true)))

instance (progress : BuildProgress) (i : CopyItem) : Decidable (WrongPhase progress i) := by
  unfold WrongPhase
  infer_instance

namespace BuildTarget

variable {σ : Type}

section

variable [Sha256]

/-- Everything that is checked before an item is looked at, and the progress that it continues. -/
def copyProgress (t : BuildTarget σ) (i : CopyItem) : Result BuildProgress := do
  rejectIf (t.closed = true) RuntimeError.closed
  rejectIf (t.isOpen = false) .notOpen
  rejectIf (t.role ≠ .idleSecondary) (.authorityMismatch "copy target must be an Idle Secondary")
  let progress ← demand (t.builds.get? i.buildId) .authorityNotAdmitted
  let generation ← demand (t.inboundBuildGenerations.get? i.buildId) .authorityNotAdmitted
  rejectIf (generation ≠ t.fenceGeneration)
    (.authorityMismatch "copy item belongs to a fenced build generation")
  let authority ← demand (t.store.loadBuild i.buildId) .authorityNotAdmitted
  rejectIf (authority ≠ progress.authority)
    (.authorityMismatch "durable build authority differs from runtime authority")
  mismatch authority.validate
  validateBuildEnvelope authority i
  rejectIf (t.replicatorEpoch ≠ default ∧ t.replicatorEpoch ≠ i.epoch)
    (.authorityMismatch "copy item belongs to a fenced epoch")
  rejectIf (WrongPhase progress i)
    (.invalidReplication "copy item kind does not match the current build phase")
  rejectIf (progress.lastSequence + 1 < i.sequence) (.invalidReplication "copy sequence gap")
  .ok progress

end

variable [DurableState σ] [CopyState σ]

/-- An item that has been processed is compared with what it left. -/
def receiveDuplicate (t : BuildTarget σ) (progress : BuildProgress) (i : CopyItem) : Result Int :=
  if i.snapshotChunk then do
    rejectIf (verifyCopyChunk t.storage i.buildId i.sequence i.data = false)
      (.invalidReplication "duplicate snapshot chunk has conflicting durable contents")
    .ok 0
  else if i.finalItem then do
    rejectIf (progress.completed = false)
      (.invalidReplication "duplicate final copy marker preceded completion")
    rejectIf (progress.catchUpBoundaryLsn ≠ i.catchUpBoundaryLsn)
      (.authorityMismatch "duplicate final marker changed the catch-up boundary")
    .ok i.replicationBoundaryLsn
  else do
    rejectIf (verifyApplied t.storage i.operation = false)
      (.invalidReplication "duplicate copy item has conflicting durable contents")
    .ok progress.durableLsn

/-- Record the progress that an item has made, and publish it in memory. -/
def publish (t : BuildTarget σ) (i : CopyItem) (updated : BuildProgress)
    (durable : DurableApplicationProgress) (drop : Option DropPoint) :
    Result Unit × BuildTarget σ :=
  if drop = some .afterStorage then (.error fenced, t)
  else match t.store.recordBuildProgress updated with
  | .error e => (.error e, t)
  | .ok store =>
    let recorded := { t with store }
    if drop = some .afterRecord then (.error fenced, recorded)
    else (.ok (), { recorded with
      builds := t.builds.insert i.buildId updated
      currentProgress := max t.currentProgress durable.appliedLsn
      committedLsn := max t.committedLsn durable.committedLsn })

def receiveChunk (t : BuildTarget σ) (progress : BuildProgress) (i : CopyItem)
    (drop : Option DropPoint) : Result Int × BuildTarget σ :=
  match applyCopyChunk t.storage i.buildId i.sequence i.data with
  | (.error e, storage) => (.error e, { t with storage })
  | (.ok (), storage) =>
    let updated := { progress with lastSequence := i.sequence, completed := false }
    match publish { t with storage } i updated ⟨t.currentProgress, t.committedLsn⟩ drop with
    | (.error e, t') => (.error e, t')
    | (.ok (), t') => (.ok progress.durableLsn, t')

def receiveFinal (t : BuildTarget σ) (progress : BuildProgress) (i : CopyItem)
    (drop : Option DropPoint) : Result Int × BuildTarget σ :=
  match i.catchUpBoundaryLsn with
  | none => (.error (.authorityMismatch "final copy marker omitted the catch-up boundary"), t)
  | some boundary =>
    if ∃ existing ∈ progress.catchUpBoundaryLsn, existing ≠ boundary then
      (.error (.authorityMismatch "final copy marker changed the catch-up boundary"), t)
    else match finishCopy t.storage i.buildId i.replicationBoundaryLsn i.committedLsn with
    | (.error e, storage) => (.error e, { t with storage })
    | (.ok durable, storage) =>
      if durable.appliedLsn < i.replicationBoundaryLsn ∨ durable.committedLsn < i.committedLsn ∨
          durable.appliedLsn < durable.committedLsn then
        (.error (.application "application lost the durable copy boundary"), { t with storage })
      else
        let updated : BuildProgress :=
          ⟨progress.authority, i.sequence, i.replicationBoundaryLsn, true, i.catchUpBoundaryLsn⟩
        match publish { t with storage } i updated durable drop with
        | (.error e, t') => (.error e, t')
        | (.ok (), t') => (.ok i.replicationBoundaryLsn, t')

def receiveOperation (t : BuildTarget σ) (progress : BuildProgress) (i : CopyItem)
    (drop : Option DropPoint) : Result Int × BuildTarget σ :=
  if progress.completed = false then
    (.error (.invalidReplication "live build replication arrived before snapshot completion"), t)
  else if progress.catchUpBoundaryLsn = none then
    (.error (.authorityMismatch "live build replication lacks a frozen catch-up boundary"), t)
  else if i.lsn ≠ progress.durableLsn + 1 then
    (.error (.invalidReplication ("copy LSN gap: expected " ++ toString (progress.durableLsn + 1) ++
      ", observed " ++ toString i.lsn)), t)
  else
    let before := durableProgress t.storage
    let updated := { progress with lastSequence := i.sequence, durableLsn := i.lsn }
    let finish := fun (t' : BuildTarget σ) (durable : DurableApplicationProgress) =>
      match t'.publish i updated durable drop with
      | (.error e, t'') => ((.error e : Result Int), t'')
      | (.ok (), t'') => (.ok i.lsn, t'')
    if i.lsn ≤ before.appliedLsn then
      if verifyApplied t.storage i.operation = false then
        (.error (.invalidReplication "copy item conflicts with durable application state"), t)
      else finish t before
    else if before.appliedLsn + 1 ≠ i.lsn then
      (.error (.invalidReplication ("copy application gap: expected LSN " ++
        toString (before.appliedLsn + 1) ++ ", observed " ++ toString i.lsn)), t)
    else match apply t.storage i.operation with
    | (.error e, storage) => (.error e, { t with storage })
    | (.ok durable, storage) => match validateDurableAck i.lsn i.committedLsn durable with
      | .error e => (.error e, { t with storage })
      | .ok () => finish { t with storage } durable

def receiveCopyItem [Sha256] (t : BuildTarget σ) (i : CopyItem) (drop : Option DropPoint) :
    Result CopyAck × BuildTarget σ :=
  match t.copyProgress i with
  | .error e => (.error e, t)
  | .ok progress =>
    let received :=
      if i.sequence ≤ progress.lastSequence then (t.receiveDuplicate progress i, t)
      else if i.snapshotChunk then t.receiveChunk progress i drop
      else if i.finalItem then t.receiveFinal progress i drop
      else t.receiveOperation progress i drop
    match received with
    | (.error e, t') => (.error e, t')
    | (.ok durableLsn, t') => (.ok (i.ack durableLsn), t')

/-- `admit_build_authority_instruction` at the target. -/
def admitBuildAuthority [Sha256] (t : BuildTarget σ) (a : BuildAuthority) :
    Result Unit × BuildTarget σ :=
  let bind := fun t' : BuildTarget σ =>
    if (t'.store.progressOf a).authority ≠ a then
      ((.error (.authorityMismatch "build progress belongs to different authority") :
        Result Unit), t')
    else
      (.ok (), { t' with
        replicatorEpoch :=
          if a.kind = .provisioning then a.currentConfiguration.epoch else t'.replicatorEpoch
        builds := t'.builds.insert a.buildId (t'.store.progressOf a)
        inboundBuildGenerations :=
          t'.inboundBuildGenerations.insert a.buildId t'.fenceGeneration })
  match mismatch a.validate with
  | .error e => (.error e, t)
  | .ok () => match t.store.loadBuild a.buildId with
    | some existing =>
      if existing ≠ a then
        (.error (.authorityMismatch "build ID is already bound to different authority"), t)
      else bind t
    | none => match t.store.admitBuild a with
      | .error e => (.error e, t)
      | .ok store => bind { t with store }

end BuildTarget

/-! ## The source -/

/-- What is recorded of an emitted item. -/
def CopyItem.emitted (i : CopyItem) : EmittedBuildItem := ⟨i.lsn, i.finalItem, i.snapshotChunk⟩

namespace OutboundBuild

/-- A build that has emitted nothing. -/
def start (progress : BuildProgress) (generation : Nat) : OutboundBuild where
  progress := progress
  finalSequence := none
  nextSequence := 1
  emitted := ∅
  pendingOperations := ∅
  catchingUp := true
  streaming := true
  generation := generation

variable (build : OutboundBuild)

def recordEmittedCopyItem (item : CopyItem) : OutboundBuild :=
  { build with
    nextSequence := max build.nextSequence (item.sequence + 1)
    emitted := build.emitted.insert item.sequence item.emitted }

/-- The final item is recorded. -/
def recordFinalItem (item : CopyItem) : OutboundBuild :=
  { build with
    finalSequence := some item.sequence
    nextSequence := item.sequence + 1
    emitted := build.emitted.insert item.sequence item.emitted }

/-- `emit_copy_operation` for an operation that has not been emitted, up to the send. -/
def recordOperation (item : CopyItem) : OutboundBuild :=
  { build with
    nextSequence := build.nextSequence + 1
    emitted := build.emitted.insert build.nextSequence item.emitted }

/-- The catch-up boundary that the final item will carry is recorded. -/
def freeze (boundary : Int) : OutboundBuild :=
  { build with progress := { build.progress with catchUpBoundaryLsn := some boundary } }

/-- The highest LSN of the emitted items. -/
def maxEmittedLsn : Int := ((build.emitted.values.map (·.lsn)).max?).getD 0

end OutboundBuild

/-- The part of the engine of the primary that the acknowledgements of a copy touch. -/
structure BuildSource where
  store : BuildStore
  outboundBuilds : AssocMap OperationId OutboundBuild
  fenceGeneration : Nat
  replicatorEpoch : Epoch

/-- Everything that an acknowledgement is checked for against the build that it belongs to. -/
def OutboundBuild.checkAcknowledgement (b : OutboundBuild) (ack : CopyAck) : Result Unit := do
  let a := b.progress.authority
  rejectIf (ack.sender ≠ a.source ∨ ack.receiver ≠ a.target ∨
      ack.epoch ≠ a.currentConfiguration.epoch ∨
      ack.currentConfigurationId ≠ a.currentConfiguration.configurationId ∨
      ack.replicationBoundaryLsn ≠ a.replicationBoundaryLsn)
    (RuntimeError.authorityMismatch "copy acknowledgement does not match the active build")
  rejectIf (ack.finalItem ≠ ack.catchUpBoundaryLsn.isSome ∨
      ack.catchUpBoundaryLsn ≠ if ack.finalItem then b.progress.catchUpBoundaryLsn else none)
    (.authorityMismatch "copy acknowledgement has different catch-up authority")
  let emitted ← demand (b.emitted.get? ack.sequence)
    (.invalidReplication "copy acknowledgement does not match an emitted item")
  rejectIf (ack.finalItem ≠ emitted.finalItem ∨ ack.snapshotChunk ≠ emitted.snapshotChunk ∨
      ack.finalItem ≠ decide (b.finalSequence = some ack.sequence))
    (.invalidReplication "copy acknowledgement does not match an emitted item")
  rejectIf ((ack.finalItem = false ∧ ack.durableLsn < emitted.lsn) ∨
      b.maxEmittedLsn < ack.durableLsn)
    (.invalidReplication "copy acknowledgement exceeds emitted durable progress")

/-- The progress that an acknowledgement proves. -/
def BuildProgress.acknowledged (p : BuildProgress) (ack : CopyAck) : BuildProgress :=
  { p with
    lastSequence := max p.lastSequence ack.sequence
    durableLsn := max p.durableLsn ack.durableLsn
    completed := p.completed || ack.finalItem }

namespace BuildSource

def acceptCopyAcknowledgement (s : BuildSource) (ack : CopyAck) (drop : Option DropPoint) :
    Result Unit × BuildSource :=
  match s.outboundBuilds.get? ack.buildId with
  | none => (.error .authorityNotAdmitted, s)
  | some build =>
    if build.generation ≠ s.fenceGeneration then
      (.error (.authorityMismatch "build acknowledgement belongs to a fenced generation"), s)
    else if s.replicatorEpoch ≠ default ∧
        s.replicatorEpoch ≠ build.progress.authority.currentConfiguration.epoch then
      (.error (.authorityMismatch "build acknowledgement belongs to a fenced epoch"), s)
    else match build.checkAcknowledgement ack with
    | .error e => (.error e, s)
    | .ok () =>
      let progress := build.progress.acknowledged ack
      match s.store.recordBuildProgress progress with
      | .error e => (.error e, s)
      | .ok store =>
        let recorded := { s with store }
        if drop = some .afterRecord then (.error fenced, recorded)
        else (.ok (), { recorded with
          outboundBuilds := s.outboundBuilds.insert ack.buildId { build with progress } })

/-- A new attempt of a build continues the recorded progress and emits from the start. -/
def beginCopy (s : BuildSource) (a : BuildAuthority) : BuildSource :=
  if (s.store.progressOf a).authority ≠ a ∨ s.outboundBuilds.contains a.buildId then s
  else { s with
    outboundBuilds := s.outboundBuilds.insert a.buildId
      (.start (s.store.progressOf a) s.fenceGeneration) }

/-- The producer records an item of a build as emitted. -/
def recordEmitted (s : BuildSource) (i : CopyItem) : BuildSource :=
  match s.outboundBuilds.get? i.buildId with
  | none => s
  | some build => { s with
      outboundBuilds := s.outboundBuilds.insert i.buildId
        (if i.finalItem then build.recordFinalItem i
        else if i.snapshotChunk then build.recordEmittedCopyItem i
        else build.recordOperation i) }

/-- `freeze_build_catch_up_boundary`: the boundary is recorded durably and then in memory. -/
def freezeCatchUpBoundary (s : BuildSource) (a : BuildAuthority) (boundary : Int)
    (drop : Option DropPoint) : BuildSource :=
  match s.outboundBuilds.get? a.buildId with
  | none => s
  | some build =>
    if build.progress.authority ≠ a ∨
        (∃ existing ∈ build.progress.catchUpBoundaryLsn, existing ≠ boundary) then s
    else
      match s.store.recordBuildProgress (build.freeze boundary).progress with
      | .error _ => s
      | .ok store =>
        let recorded := { s with store }
        if drop = some .afterRecord then recorded
        else { recorded with
          outboundBuilds := s.outboundBuilds.insert a.buildId (build.freeze boundary) }

end BuildSource

/-! ## The ends of a build in an engine -/

section

variable {σ : Type} (e : Engine σ)

/-- What the engine has on disk of its builds. -/
def Engine.storedBuilds : BuildStore := ⟨e.buildAuthorities, e.buildStore, []⟩

def Engine.buildTarget : BuildTarget σ where
  storage := e.storage
  store := e.storedBuilds
  closed := e.aborted
  isOpen := e.isOpen
  role := e.role
  builds := e.builds
  inboundBuildGenerations := e.inboundBuildGenerations
  fenceGeneration := e.fenceGeneration
  replicatorEpoch := e.log.epoch
  currentProgress := e.currentProgress
  committedLsn := e.committedLsn

/-- The engine after its target has received an item. -/
def Engine.withTarget (t : BuildTarget σ) : Engine σ :=
  { e with
    storage := t.storage
    buildStore := t.store.progress
    builds := t.builds
    currentProgress := t.currentProgress
    committedLsn := t.committedLsn }

def Engine.buildSource : BuildSource where
  store := e.storedBuilds
  outboundBuilds := e.outboundBuilds
  fenceGeneration := e.fenceGeneration
  replicatorEpoch := e.log.epoch

/-- The engine after a step of its source. -/
def Engine.withSource (source : BuildSource) : Engine σ :=
  { e with buildStore := source.store.progress, outboundBuilds := source.outboundBuilds }

end

end Kuberic
