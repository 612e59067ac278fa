import Kuberic.Runtime.Copy
import Kuberic.Runtime.Write

/-!
# The producer of a copy stream

The primary sends a build the chunks of a snapshot, one final item and then the live operations above
the boundary of the snapshot.  An operation reaches the stream by one of three routes: it was in the
history when the build was registered, it was queued by a write while the producer catches up, or the
write sends it itself afterwards.

The producer and the writes take turns at the state of the build.  Items are recorded as emitted and
sent in two steps, and a write is passed to the builds after it is registered, so that either side
can run in between.  The channel of the build can close at any point; the producer then ends with an
error and removes the build, as it does when it is cancelled.
-/

namespace Kuberic

open Effect DurableState

/-! ## The state of a build -/

namespace OutboundBuild

variable (build : OutboundBuild)

/-- A live operation with this LSN has been emitted. -/
def hasEmitted (lsn : Int) : Bool :=
  build.emitted.values.any fun item => !item.snapshotChunk && !item.finalItem && item.lsn == lsn

/-- The item that a write records for the build itself. -/
def directItem (operation : Operation) : Option CopyItem :=
  if operation.lsn ≤ build.progress.authority.replicationBoundaryLsn then none
  else if build.hasEmitted operation.lsn then none
  else if build.finalSequence.isNone ∨ build.catchingUp then none
  else some (copyOperationItem build.progress.authority build.nextSequence operation)

/-- The item that a write sends to the build itself. -/
def liveItem (operation : Operation) : Option CopyItem :=
  if build.streaming then build.directItem operation else none

end OutboundBuild

/-! ## The producer -/

inductive ProducerStage
  /-- The producer reads the snapshot, and its next item gets this number. -/
  | snapshot (sequence : Nat)
  /-- The catch-up boundary is recorded, and the final item is next. -/
  | frozen (sequence : Nat) (catchUpBoundaryLsn : Int)
  /-- The producer emits the operations in its hands. -/
  | emitting (held : List Operation)
  | finished
  | failed

structure CopyProducer where
  authority : BuildAuthority
  initialOperations : AssocMap Int Operation
  stage : ProducerStage
  /-- An item that is recorded as emitted and waits for the channel. -/
  outgoing : Option CopyItem

/-- The operations that the producer has taken and not emitted. -/
def CopyProducer.held (p : CopyProducer) : List Operation := match p.stage with
  | .emitting held => held
  | _ => []

/-- A write that holds the effect lock. -/
inductive WriteStage
  /-- It has not been passed to the builds. -/
  | registered (write : RegisteredWrite)
  /-- It is recorded in the builds, and these items wait for their channels. -/
  | sending (lsn : Int) (items : List (OperationId × CopyItem))

/-- The primary with one build that is being produced. -/
structure BuildStream (σ : Type) where
  engine : Engine σ
  producer : CopyProducer
  writing : Option WriteStage
  /-- The items of the build that are recorded as emitted. -/
  recorded : List CopyItem
  /-- What the channel of the build has taken. -/
  sent : List CopyItem
  /-- The receiver of the channel is gone. -/
  closed : Bool
  /-- The LSNs that the writes since the registration of the build have been answered with. -/
  answered : List Int

def insertCopyOperation (operations : AssocMap Int Operation) (operation : Operation) :
    Result (AssocMap Int Operation) :=
  if operation.lsn ≤ 0 then
    .error (.invalidReplication "copy operation LSN must be positive")
  else match operations.get? operation.lsn with
    | some existing =>
      if existing.data ≠ operation.data then
        .error (.invalidReplication "copy and retained streams disagree at the same LSN")
      else .ok (operations.insert operation.lsn
        { existing with committedLsn := max existing.committedLsn operation.committedLsn })
    | none => .ok (operations.insert operation.lsn operation)

/-- The operations of the history above the boundary, up to the highest LSN. -/
def collectOperations (boundary highest : Int) (operations : AssocMap Int Operation) :
    List Operation → Result (AssocMap Int Operation)
  | [] => .ok operations
  | operation :: rest =>
    if boundary < operation.lsn ∧ operation.lsn ≤ highest then
      match insertCopyOperation operations operation with
      | .error e => .error e
      | .ok operations => collectOperations boundary highest operations rest
    else collectOperations boundary highest operations rest

inductive ProducerAction
  /-- The snapshot has another chunk. -/
  | chunk (data : Bytes)
  /-- The snapshot has ended; recording the boundary may fail. -/
  | freeze (fault : Option RuntimeError)
  | final
  | emit
  | drain
  | send
  | cancel

namespace BuildStream

variable {σ : Type} (s : BuildStream σ)

abbrev authority : BuildAuthority := s.producer.authority

abbrev boundary : Int := s.authority.replicationBoundaryLsn

/-- The build, as long as it is registered. -/
def build? : Option OutboundBuild := s.engine.outboundBuilds.get? s.authority.buildId

/-- The producer goes on with this build and stage. -/
def enter (build : OutboundBuild) (stage : ProducerStage) : BuildStream σ :=
  { s with
    engine := { s.engine with
      outboundBuilds := s.engine.outboundBuilds.insert s.authority.buildId build }
    producer := { s.producer with stage := stage } }

/-- The producer has recorded an item. -/
def emit (build : OutboundBuild) (stage : ProducerStage) (item : CopyItem) : BuildStream σ :=
  { s.enter build stage with
    producer := { s.producer with stage := stage, outgoing := some item }
    recorded := s.recorded ++ [item] }

/-- The error path of `produce_copy_stream`. -/
def fail : BuildStream σ :=
  { s with
    engine := { s.engine with
      outboundBuilds := s.engine.outboundBuilds.erase s.authority.buildId }
    producer := { s.producer with stage := .failed, outgoing := none } }

/-- The boundary that `freeze_build_catch_up_boundary` records. -/
def catchUpBoundary (build : OutboundBuild) : Int :=
  build.progress.catchUpBoundaryLsn.getD
    (max (max s.engine.currentProgress s.boundary) (s.producer.initialOperations.keys.max?.getD 0))

/-- Every operation up to the catch-up boundary is at hand. -/
def closesCatchUp (build : OutboundBuild) : Bool :=
  (List.range (s.catchUpBoundary build - s.boundary).toNat).all fun i =>
    s.producer.initialOperations.contains (s.boundary + 1 + i) ||
      build.pendingOperations.contains (s.boundary + 1 + i)

/-- `freeze_build_catch_up_boundary`, which needs the effect lock. -/
def freezeBuildCatchUpBoundary (build : OutboundBuild) (sequence : Nat)
    (fault : Option RuntimeError) : BuildStream σ :=
  if s.writing.isSome then s
  else if build.progress.authority ≠ s.authority ∨ !s.closesCatchUp build then s.fail
  else match fault with
    | some _ => s.fail
    | none =>
      let frozen := build.freeze (s.catchUpBoundary build)
      match s.engine.storedBuilds.recordBuildProgress frozen.progress with
      | .error _ => s.fail
      | .ok store =>
        BuildStream.enter { s with engine := { s.engine with buildStore := store.progress } } frozen
          (.frozen sequence (s.catchUpBoundary build))

/-- `emit_copy_operation` up to the send. -/
def emitCopyOperation (build : OutboundBuild) (operation : Operation) (rest : List Operation) :
    BuildStream σ :=
  if build.hasEmitted operation.lsn then s.enter build (.emitting rest)
  else
    let item := copyOperationItem s.authority build.nextSequence operation
    s.emit (build.recordOperation item) (.emitting rest) item

/-- A step of `produce_copy_stream_inner`; it waits where the action does not fit its stage. -/
def produce (action : ProducerAction) : BuildStream σ :=
  match s.build? with
  | none => s
  | some build => match s.producer.outgoing, action with
    | _, .cancel => s.fail
    | some item, .send =>
      if s.closed then s.fail
      else { s with
        producer := { s.producer with outgoing := none }
        sent := s.sent ++ [item] }
    | some _, _ => s
    | none, action => match s.producer.stage, action with
      | .snapshot sequence, .chunk data =>
        let item := copySnapshotItem s.authority sequence data
        s.emit (build.recordEmittedCopyItem item) (.snapshot (sequence + 1)) item
      | .snapshot sequence, .freeze fault => s.freezeBuildCatchUpBoundary build sequence fault
      | .frozen sequence catchUp, .final =>
        let item := copyFinalItem s.authority sequence catchUp
        s.emit (build.recordFinalItem item) (.emitting s.producer.initialOperations.sortedValues) item
      | .emitting (operation :: rest), .emit => s.emitCopyOperation build operation rest
      | .emitting [], .drain =>
        if build.pendingOperations.isEmpty then s.enter { build with catchingUp := false } .finished
        else s.enter { build with pendingOperations := ∅ }
          (.emitting build.pendingOperations.sortedValues)
      | _, _ => s

/-- Every operation between the boundary and the highest LSN is at hand. -/
def closesGap (boundary highest : Int) (operations : AssocMap Int Operation) : Bool :=
  (List.range (highest - boundary).toNat).all fun i => operations.contains (boundary + 1 + i)

/-- `prepare_copy` of a build with the authority `a`, where the storage and the replication log
return `history` for it.  The build is registered before the history is read, and its producer starts
afterwards. -/
def prepareCopy [DurableState σ] (e : Engine σ) (a : BuildAuthority) (history : List Operation) :
    Result (BuildStream σ) := do
  Check.rejectIf (e.isOpen = false) RuntimeError.notOpen
  Check.rejectIf (e.role ≠ .primary) .notPrimary
  Check.rejectIf (e.buildAuthorities.get? a.buildId = none) .authorityNotAdmitted
  let highest := max e.log.quorum.highestLsn (appliedLsn e.storage)
  Check.rejectIf (highest < a.replicationBoundaryLsn ∨
      committedLsn e.storage < a.replicationBoundaryLsn)
    (.application "copy boundary is not durably committed by the application")
  Check.rejectIf (e.buildAuthorities.get? a.buildId ≠ some a)
    (.authorityMismatch "build ID is bound to different immutable authority")
  let progress := (e.buildStore.get? a.buildId).getD ⟨a, 0, 0, false, none⟩
  Check.rejectIf (progress.authority ≠ a)
    (.authorityMismatch "build progress belongs to different authority")
  Check.rejectIf (e.outboundBuilds.contains a.buildId = true) .reconfigurationPending
  let operations ← collectOperations a.replicationBoundaryLsn highest ∅ history
  Check.rejectIf (closesGap a.replicationBoundaryLsn highest operations = false)
    (.invalidReplication "retained operations do not close the post-snapshot gap")
  .ok {
    engine := { e with
      outboundBuilds := e.outboundBuilds.insert a.buildId (.start progress e.fenceGeneration) }
    producer := ⟨a, operations, .snapshot 1, none⟩
    writing := none
    recorded := []
    sent := []
    closed := false
    answered := [] }

/-- The operation at this LSN is among the initial, the pending or the emitted operations of the
build.  What the producer has taken from the pending ones and not yet emitted still counts. -/
def Has (lsn : Int) : Prop :=
  s.producer.initialOperations.contains lsn = true ∨ (∃ op ∈ s.producer.held, op.lsn = lsn) ∨
    ∃ build, s.build? = some build ∧
      (build.hasEmitted lsn = true ∨ build.pendingOperations.contains lsn = true)

end BuildStream

/-! ## The source that the producer works on -/

/-- A step of the producer of a build, as the acknowledgements of the build see it. -/
inductive BuildSource.Produces (a : BuildAuthority) (source : BuildSource) : BuildSource → Prop
  | stay : source.Produces a source
  | emit (item : CopyItem) : Produces a source (source.recordEmitted item)
  | freeze (boundary : Int) : Produces a source (source.freezeCatchUpBoundary a boundary none)
  /-- Operations are taken from the queue of the build. -/
  | take {build : OutboundBuild} (h : source.outboundBuilds.get? a.buildId = some build)
      (pending : AssocMap Int Operation) (catchingUp : Bool) :
      Produces a source { source with
        outboundBuilds := source.outboundBuilds.insert a.buildId
          { build with pendingOperations := pending, catchingUp := catchingUp } }
  | cancel :
      Produces a source { source with outboundBuilds := source.outboundBuilds.erase a.buildId }

namespace BuildStream

variable {σ : Type} {s : BuildStream σ} {build : OutboundBuild}

theorem emit_source (hbuild : s.build? = some build) {item : CopyItem} {recorded : OutboundBuild}
    (stage : ProducerStage) (hitem : item.buildId = s.authority.buildId)
    (hrecorded : recorded = if item.finalItem then build.recordFinalItem item
      else if item.snapshotChunk then build.recordEmittedCopyItem item
      else build.recordOperation item) :
    (s.emit recorded stage item).engine =
      s.engine.withSource (s.engine.buildSource.recordEmitted item) := by
  subst hrecorded
  have hget : s.engine.buildSource.outboundBuilds.get? s.authority.buildId = some build := hbuild
  simp only [BuildSource.recordEmitted, hitem, hget]
  rfl

theorem freeze_source (hbuild : s.build? = some build)
    (hauthority : build.progress.authority = s.authority) {store : BuildStore}
    (hrecord : s.engine.storedBuilds.recordBuildProgress
      (build.freeze (s.catchUpBoundary build)).progress = .ok store) (stage : ProducerStage) :
    (BuildStream.enter { s with engine := { s.engine with buildStore := store.progress } }
      (build.freeze (s.catchUpBoundary build)) stage).engine = s.engine.withSource
        (s.engine.buildSource.freezeCatchUpBoundary s.authority (s.catchUpBoundary build) none) := by
  have hget : s.engine.buildSource.outboundBuilds.get? s.authority.buildId = some build := hbuild
  have hsame : ¬(build.progress.authority ≠ s.authority ∨
      ∃ existing ∈ build.progress.catchUpBoundaryLsn, existing ≠ s.catchUpBoundary build) := by
    rintro (h | ⟨existing, hexisting, h⟩)
    · exact h hauthority
    · rw [catchUpBoundary, Option.mem_def.1 hexisting] at h
      exact h rfl
  simp only [BuildSource.freezeCatchUpBoundary, hget, if_neg hsame,
    show s.engine.buildSource.store = s.engine.storedBuilds from rfl, hrecord]
  rfl

/-- The producer does to the source of the build what the acknowledgements take it to do. -/
theorem produce_source (action : ProducerAction) : ∃ source,
    s.engine.buildSource.Produces s.authority source ∧
      (s.produce action).engine = s.engine.withSource source ∧
      (s.produce action).writing = s.writing ∧ (s.produce action).answered = s.answered ∧
      (s.produce action).authority = s.authority := by
  unfold produce
  split
  · exact ⟨_, .stay, rfl, rfl, rfl, rfl⟩
  next build hbuild =>
  have hget : s.engine.buildSource.outboundBuilds.get? s.authority.buildId = some build := hbuild
  split
  · exact ⟨_, .cancel, rfl, rfl, rfl, rfl⟩
  · split
    · exact ⟨_, .cancel, rfl, rfl, rfl, rfl⟩
    · exact ⟨_, .stay, rfl, rfl, rfl, rfl⟩
  · exact ⟨_, .stay, rfl, rfl, rfl, rfl⟩
  · split
    · exact ⟨_, .emit _, emit_source hbuild _ (by rfl) (by rfl), rfl, rfl, rfl⟩
    · unfold freezeBuildCatchUpBoundary
      split
      · exact ⟨_, .stay, rfl, rfl, rfl, rfl⟩
      split
      · exact ⟨_, .cancel, rfl, rfl, rfl, rfl⟩
      next hready =>
      split
      · exact ⟨_, .cancel, rfl, rfl, rfl, rfl⟩
      dsimp only
      split
      · exact ⟨_, .cancel, rfl, rfl, rfl, rfl⟩
      · next hrecord =>
        rw [not_or, not_not] at hready
        exact ⟨_, .freeze _, freeze_source hbuild hready.1 hrecord _, rfl, rfl, rfl⟩
    · exact ⟨_, .emit _, emit_source hbuild _ (by rfl) (by rfl), rfl, rfl, rfl⟩
    · unfold emitCopyOperation
      split
      · exact ⟨_, .take hget build.pendingOperations build.catchingUp, rfl, rfl, rfl, rfl⟩
      · exact ⟨_, .emit _, emit_source hbuild _ (by rfl) (by rfl), rfl, rfl, rfl⟩
    · split
      · exact ⟨_, .take hget build.pendingOperations false, rfl, rfl, rfl, rfl⟩
      · exact ⟨_, .take hget ∅ build.catchingUp, rfl, rfl, rfl, rfl⟩
    · exact ⟨_, .stay, rfl, rfl, rfl, rfl⟩

end BuildStream

/-! ## The order of a stream -/

/-- The stream of a build above the boundary `b`: the chunks alone, or all chunks, the final item and
the given number of live operations. -/
inductive Streamed (b : Int) : Option Nat → List CopyItem → Prop
  | start : Streamed b none []
  | chunk {items : List CopyItem} {i : CopyItem} (h : Streamed b none items)
      (hseq : i.sequence = items.length + 1) (hchunk : i.snapshotChunk = true)
      (hfinal : i.finalItem = false) : Streamed b none (items ++ [i])
  | final {items : List CopyItem} {i : CopyItem} (h : Streamed b none items)
      (hseq : i.sequence = items.length + 1) (hchunk : i.snapshotChunk = false)
      (hfinal : i.finalItem = true) : Streamed b (some 0) (items ++ [i])
  | live {items : List CopyItem} {i : CopyItem} {n : Nat} (h : Streamed b (some n) items)
      (hseq : i.sequence = items.length + 1) (hchunk : i.snapshotChunk = false)
      (hfinal : i.finalItem = false) (hlsn : i.lsn = b + n + 1) :
      Streamed b (some (n + 1)) (items ++ [i])

/-- Numbered from 1, first chunks, then at most one final item, and after it live operations with the
LSNs `b + 1`, `b + 2` and so on. -/
structure StreamOrder (b : Int) (items : List CopyItem) : Prop where
  numbered : items.map (·.sequence) = (List.range items.length).map (· + 1)
  shaped : ∃ chunks final live, items = chunks ++ final ++ live ∧
    (∀ i ∈ chunks, i.snapshotChunk = true ∧ i.finalItem = false) ∧
    ((final = [] ∧ live = []) ∨
      ∃ i, final = [i] ∧ i.finalItem = true ∧ i.snapshotChunk = false) ∧
    (∀ i ∈ live, i.snapshotChunk = false ∧ i.finalItem = false) ∧
    live.map (·.lsn) = (List.range live.length).map fun k : Nat => b + k + 1

variable {items : List CopyItem}

theorem StreamOrder.live {b : Int} (h : StreamOrder b items) :
    let live := items.filter fun i => !i.snapshotChunk && !i.finalItem
    live.map (·.lsn) = (List.range live.length).map fun k : Nat => b + k + 1 := by
  obtain ⟨chunks, final, live, rfl, hchunks, hfinal, hlive, hlsns⟩ := h.shaped
  have hc : chunks.filter (fun i => !i.snapshotChunk && !i.finalItem) = [] :=
    List.filter_eq_nil_iff.2 fun i hi => by simp [hchunks i hi]
  have hf : final.filter (fun i => !i.snapshotChunk && !i.finalItem) = [] := by
    obtain ⟨rfl, -⟩ | ⟨i, rfl, hi, -⟩ := hfinal
    · rfl
    · simp [hi]
  have hl : live.filter (fun i => !i.snapshotChunk && !i.finalItem) = live :=
    List.filter_eq_self.2 fun i hi => by simp [hlive i hi]
  simp only [List.filter_append, hc, hf, hl, List.nil_append]
  exact hlsns

namespace Streamed

variable {b : Int} {p : Option Nat} {items : List CopyItem}

theorem numbered (h : Streamed b p items) :
    items.map (·.sequence) = (List.range items.length).map (· + 1) := by
  induction h with
  | start => rfl
  | chunk _ hseq _ _ ih | final _ hseq _ _ ih | live _ hseq _ _ _ ih =>
    simp [List.range_succ, ih, hseq]

theorem sequence_le (h : Streamed b p items) {i : CopyItem} (hi : i ∈ items) :
    i.sequence ≤ items.length := by
  have hmem : i.sequence ∈ items.map (·.sequence) := List.mem_map_of_mem hi
  rw [h.numbered, List.mem_map] at hmem
  obtain ⟨k, hk, heq⟩ := hmem
  have hlt := List.mem_range.1 hk
  omega

theorem of_isPrefix {l : List CopyItem} (h : Streamed b p items) (hl : l <+: items) :
    ∃ p', Streamed b p' l := by
  induction h with
  | start => exact ⟨none, List.prefix_nil.1 hl ▸ .start⟩
  | chunk h hseq hchunk hfinal ih =>
    obtain rfl | hl := List.prefix_concat_iff.1 hl
    · exact ⟨_, h.chunk hseq hchunk hfinal⟩
    · exact ih hl
  | final h hseq hchunk hfinal ih =>
    obtain rfl | hl := List.prefix_concat_iff.1 hl
    · exact ⟨_, h.final hseq hchunk hfinal⟩
    · exact ih hl
  | live h hseq hchunk hfinal hlsn ih =>
    obtain rfl | hl := List.prefix_concat_iff.1 hl
    · exact ⟨_, h.live hseq hchunk hfinal hlsn⟩
    · exact ih hl

theorem chunks_only (h : Streamed b none items) :
    ∀ i ∈ items, i.snapshotChunk = true ∧ i.finalItem = false := by
  generalize hp : (none : Option Nat) = p at h
  induction h with
  | start => exact fun _ h => absurd h List.not_mem_nil
  | chunk _ _ hchunk hfinal ih =>
    intro i hi
    obtain hi | hi := List.mem_append.1 hi
    · exact ih rfl i hi
    · obtain rfl := List.mem_singleton.1 hi
      exact ⟨hchunk, hfinal⟩
  | final | live => cases hp

theorem split {n : Nat} (h : Streamed b (some n) items) :
    ∃ chunks i live, items = chunks ++ [i] ++ live ∧
      (∀ i ∈ chunks, i.snapshotChunk = true ∧ i.finalItem = false) ∧
      i.finalItem = true ∧ i.snapshotChunk = false ∧
      (∀ i ∈ live, i.snapshotChunk = false ∧ i.finalItem = false) ∧
      live.map (·.lsn) = (List.range n).map fun k : Nat => b + k + 1 := by
  generalize hp : some n = p at h
  induction h generalizing n with
  | start | chunk => cases hp
  | @final items i h _ hchunk hfinal =>
    cases hp
    exact ⟨items, i, [], by simp, h.chunks_only, hfinal, hchunk, by simp, rfl⟩
  | @live items i n' h _ hchunk hfinal hlsn ih =>
    cases hp
    obtain ⟨chunks, f, live, rfl, hchunks, hf, hfc, hlive, hlsns⟩ := ih rfl
    refine ⟨chunks, f, live ++ [i], by simp, hchunks, hf, hfc, ?_, ?_⟩
    · intro j hj
      obtain hj | hj := List.mem_append.1 hj
      · exact hlive j hj
      · obtain rfl := List.mem_singleton.1 hj
        exact ⟨hchunk, hfinal⟩
    · rw [List.map_append, hlsns, List.range_succ, List.map_append, List.map_singleton,
        List.map_singleton, hlsn]

theorem streamOrder (h : Streamed b p items) : StreamOrder b items := by
  refine ⟨h.numbered, ?_⟩
  cases p with
  | none => exact ⟨items, [], [], by simp, h.chunks_only, .inl ⟨rfl, rfl⟩, by simp, rfl⟩
  | some n =>
    obtain ⟨chunks, i, live, hitems, hchunks, hf, hfc, hlive, hlsns⟩ := h.split
    have hlen : live.length = n := by simpa using congrArg List.length hlsns
    exact ⟨chunks, [i], live, hitems, hchunks, .inr ⟨i, rfl, hf, hfc⟩, hlive, hlen ▸ hlsns⟩

theorem exists_live_iff (h : Streamed b p items) (lsn : Int) :
    (∃ i ∈ items, i.snapshotChunk = false ∧ i.finalItem = false ∧ i.lsn = lsn) ↔
      b < lsn ∧ lsn ≤ b + p.getD 0 := by
  induction h with
  | start =>
    simp only [List.not_mem_nil, false_and, exists_false, Option.getD_none, false_iff]
    omega
  | chunk _ _ hchunk _ ih =>
    rw [← ih]
    simp [hchunk, or_and_right, exists_or]
  | final _ _ _ hfinal ih =>
    rw [show ((some 0 : Option Nat).getD 0) = (none : Option Nat).getD 0 from rfl, ← ih]
    simp [hfinal, or_and_right, exists_or]
  | @live items i n _ _ hchunk hfinal hlsn ih =>
    have hsplit : (∃ j ∈ items ++ [i], j.snapshotChunk = false ∧ j.finalItem = false ∧
        j.lsn = lsn) ↔ (b < lsn ∧ lsn ≤ b + n) ∨ i.lsn = lsn := by
      rw [← show _ ↔ (b < lsn ∧ lsn ≤ b + n) from ih]
      simp [hchunk, hfinal, or_and_right, exists_or]
    rw [hsplit, hlsn]
    simp only [Option.getD_some]
    omega

end Streamed

/-! ## What is still to be emitted -/

section Sorted

variable {κ β : Type} [LinearOrder κ] {m : AssocMap κ β}

theorem AssocMap.mem_sortedValues_iff {v : β} : v ∈ m.sortedValues ↔ ∃ k, m.get? k = some v := by
  constructor
  · intro h
    obtain ⟨k, -, hk⟩ := List.mem_filterMap.1 h
    exact ⟨k, hk⟩
  · rintro ⟨k, hk⟩
    exact AssocMap.mem_sortedValues_of_get? hk

theorem AssocMap.pairwise_sortedValues {r : β → β → Prop}
    (h : ∀ {k k' v v'}, m.get? k = some v → m.get? k' = some v' → k < k' → r v v') :
    m.sortedValues.Pairwise r := by
  have hnodup : m.sortedKeys.Nodup := (List.perm_insertionSort _ _).nodup_iff.2 m.nodup
  have hsorted : m.sortedKeys.Pairwise (· ≤ ·) := List.pairwise_insertionSort _ _
  refine List.pairwise_filterMap.2 ((hsorted.and hnodup).imp ?_)
  rintro k k' ⟨hle, hne⟩ v hv v' hv'
  exact h hv hv' (lt_of_le_of_ne hle hne)

end Sorted

/-- The operations in the hands of the producer and the queue of the build continue a stream of `n`
live operations up to the LSN `m`. -/
structure Feeds (b : Int) (n : Nat) (m : Int) (held : List Operation)
    (pending : AssocMap Int Operation) : Prop where
  ascending : held.Pairwise fun x y => x.lsn < y.lsn
  bounded : ∀ op ∈ held, b < op.lsn ∧ op.lsn ≤ m
  /-- The producer holds no operation without those before it. -/
  closed : ∀ op ∈ held, ∀ y, b + n < y → y < op.lsn → ∃ op' ∈ held, op'.lsn = y
  complete : ∀ y, b + n < y → y ≤ m → (∃ op ∈ held, op.lsn = y) ∨ pending.contains y = true
  queued : ∀ y op, pending.get? y = some op → op.lsn = y ∧ b < y ∧ y ≤ m
  reached : b + n ≤ m

variable {operations : AssocMap Int Operation}

namespace Feeds

variable {b m : Int} {n : Nat} {op : Operation} {held rest : List Operation}
  {pending : AssocMap Int Operation}

theorem skip (h : Feeds b n m (op :: rest) pending) (hop : op.lsn ≤ b + n) :
    Feeds b n m rest pending := by
  have htail : ∀ {y}, b + n < y → (∃ op' ∈ op :: rest, op'.lsn = y) → ∃ op' ∈ rest, op'.lsn = y := by
    rintro y hy ⟨op', hmem, rfl⟩
    obtain rfl | hmem := List.mem_cons.1 hmem
    · omega
    · exact ⟨op', hmem, rfl⟩
  refine ⟨(List.pairwise_cons.1 h.ascending).2, fun x hx => h.bounded x (List.mem_cons_of_mem _ hx),
    fun x hx y hy hlt => htail hy (h.closed x (List.mem_cons_of_mem _ hx) y hy hlt),
    fun y hy hm => (h.complete y hy hm).imp_left (htail hy), h.queued, h.reached⟩

theorem next (h : Feeds b n m (op :: rest) pending) (hop : ¬ op.lsn ≤ b + n) :
    op.lsn = b + n + 1 := by
  by_contra hne
  obtain ⟨op', hmem, hlsn⟩ := h.closed op List.mem_cons_self (b + n + 1) (by omega) (by omega)
  obtain rfl | hmem := List.mem_cons.1 hmem
  · exact hne hlsn
  · have hlt := (List.pairwise_cons.1 h.ascending).1 op' hmem
    omega

theorem emit (h : Feeds b n m (op :: rest) pending) (hop : op.lsn = b + n + 1) :
    Feeds b (n + 1) m rest pending := by
  have hm := (h.bounded op List.mem_cons_self).2
  have hwide : Feeds b (n + 1) m (op :: rest) pending :=
    ⟨h.ascending, h.bounded, fun x hx y hy hlt => h.closed x hx y (by omega) hlt,
      fun y hy hle => h.complete y (by omega) hle, h.queued, by omega⟩
  exact hwide.skip (by omega)

theorem drain (h : Feeds b n m [] pending) : Feeds b n m pending.sortedValues ∅ := by
  have hqueued : ∀ y, b + n < y → y ≤ m → ∃ op ∈ pending.sortedValues, op.lsn = y := by
    intro y hy hm
    obtain ⟨op, hmem, -⟩ | hpending := h.complete y hy hm
    · exact absurd hmem List.not_mem_nil
    · obtain ⟨op, hop⟩ := Option.isSome_iff_exists.1 hpending
      exact ⟨op, AssocMap.mem_sortedValues_of_get? hop, (h.queued y op hop).1⟩
  have hbounded : ∀ op ∈ pending.sortedValues, b < op.lsn ∧ op.lsn ≤ m := by
    intro op hop
    obtain ⟨k, hk⟩ := AssocMap.mem_sortedValues_iff.1 hop
    obtain ⟨rfl, hrange⟩ := h.queued k op hk
    exact hrange
  refine ⟨AssocMap.pairwise_sortedValues fun hv hv' hlt => ?_, hbounded, fun op hop y hy hlt => ?_,
    fun y hy hm => .inl (hqueued y hy hm), (fun _ _ hop => by cases hop), h.reached⟩
  · rw [(h.queued _ _ hv).1, (h.queued _ _ hv').1]
    exact hlt
  · exact hqueued y hy (hlt.le.trans (hbounded op hop).2)

theorem push (h : Feeds b n m held pending) (hb : b < op.lsn) (hop : op.lsn ≤ m + 1) :
    Feeds b n (max m op.lsn) held (pending.insert op.lsn op) := by
  refine ⟨h.ascending, fun x hx => (h.bounded x hx).imp_right fun hle => hle.trans (le_max_left _ _), h.closed,
    fun y hy hm => ?_, fun y x hx => ?_, h.reached.trans (le_max_left _ _)⟩
  · rw [AssocMap.contains, AssocMap.get?_insert]
    split_ifs with hne
    · exact .inr rfl
    · exact h.complete y hy (by omega)
  · rw [AssocMap.get?_insert] at hx
    split_ifs at hx with heq
    · obtain rfl := Option.some.inj hx
      exact ⟨heq.symm, by omega, by omega⟩
    · obtain ⟨hkey, hlow, hhigh⟩ := h.queued y x hx
      exact ⟨hkey, hlow, hhigh.trans (le_max_left _ _)⟩

theorem done (h : Feeds b n m [] ∅) : b + n = m := by
  by_contra hne
  have hlt := h.reached
  obtain ⟨op, hmem, -⟩ | hpending := h.complete (b + n + 1) (by omega) (by omega)
  · exact absurd hmem List.not_mem_nil
  · cases hpending

theorem initial (hkeyed : ∀ y op, operations.get? y = some op → op.lsn = y)
    (hexact : ∀ y, operations.contains y = true ↔ b < y ∧ y ≤ m) (hb : b ≤ m) :
    Feeds b 0 m operations.sortedValues ∅ := by
  refine drain ⟨List.Pairwise.nil, (fun _ h => absurd h List.not_mem_nil),
    (fun _ h => absurd h List.not_mem_nil), fun y hy hm => .inr ?_, fun y op hop => ⟨hkeyed y op hop, ?_⟩,
    by omega⟩
  · exact (hexact y).2 ⟨by omega, hm⟩
  · exact (hexact y).1 (by rw [AssocMap.contains, hop]; rfl)

end Feeds

/-! ## The producer keeps the order -/

/-- The build has recorded exactly these items. -/
def Records (emitted : AssocMap Nat EmittedBuildItem) (items : List CopyItem) : Prop :=
  ∀ k item, emitted.get? k = some item ↔ ∃ i ∈ items, i.sequence = k ∧ i.emitted = item

theorem Records.append {emitted : AssocMap Nat EmittedBuildItem} {i : CopyItem}
    (h : Records emitted items) (hnew : ∀ j ∈ items, j.sequence < i.sequence) :
    Records (emitted.insert i.sequence i.emitted) (items ++ [i]) := by
  intro k item
  rw [AssocMap.get?_insert]
  split_ifs with hk
  · subst hk
    constructor
    · intro heq
      exact ⟨i, by simp, rfl, Option.some.inj heq⟩
    · rintro ⟨j, hj, hseq, rfl⟩
      obtain hj | hj := List.mem_append.1 hj
      · have hlt := hnew j hj
        omega
      · rw [List.mem_singleton.1 hj]
  · rw [h k item]
    constructor
    · rintro ⟨j, hj, hrest⟩
      exact ⟨j, List.mem_append_left _ hj, hrest⟩
    · rintro ⟨j, hj, hseq, rfl⟩
      obtain hj | hj := List.mem_append.1 hj
      · exact ⟨j, hj, hseq, rfl⟩
      · rw [List.mem_singleton.1 hj] at hseq
        exact absurd hseq.symm hk

theorem Records.hasEmitted_iff {build : OutboundBuild} {b : Int} {p : Option Nat}
    (h : Records build.emitted items) (hs : Streamed b p items) (lsn : Int) :
    build.hasEmitted lsn = true ↔ b < lsn ∧ lsn ≤ b + p.getD 0 := by
  rw [← hs.exists_live_iff lsn, OutboundBuild.hasEmitted, List.any_eq_true]
  constructor
  · rintro ⟨item, hmem, hlive⟩
    obtain ⟨k, hk⟩ := (AssocMap.mem_values_iff _ _).1 hmem
    obtain ⟨i, hi, -, rfl⟩ := (h k item).1 hk
    simp only [CopyItem.emitted, Bool.and_eq_true, Bool.not_eq_true', beq_iff_eq] at hlive
    exact ⟨i, hi, hlive.1.1, hlive.1.2, hlive.2⟩
  · rintro ⟨i, hi, hchunk, hfinal, hlsn⟩
    have hget := (h i.sequence i.emitted).2 ⟨i, hi, rfl, rfl⟩
    refine ⟨i.emitted, (AssocMap.mem_values_iff _ _).2 ⟨_, hget⟩, ?_⟩
    simp [CopyItem.emitted, hchunk, hfinal, hlsn]

namespace ProducerStage

/-- The operations that the producer will emit without asking the queue. -/
def upcoming (initial : AssocMap Int Operation) : ProducerStage → List Operation
  | .snapshot _ | .frozen .. => initial.sortedValues
  | .emitting held => held
  | .finished | .failed => []

/-- What the stage of the producer says about a build with `n` recorded items. -/
def Holds (build : OutboundBuild) (n : Nat) (outgoing : Option CopyItem) (p : Option Nat) :
    ProducerStage → Prop
  | .snapshot sequence | .frozen sequence _ =>
    p = none ∧ sequence = n + 1 ∧ build.finalSequence = none ∧ build.catchingUp = true
  | .emitting _ => p ≠ none ∧ build.finalSequence ≠ none ∧ build.catchingUp = true
  | .finished => p ≠ none ∧ build.finalSequence ≠ none ∧ build.catchingUp = false ∧
      outgoing = none ∧ build.pendingOperations = ∅
  | .failed => False

end ProducerStage

namespace BuildStream

variable {σ : Type}

/-- The build has everything up to the LSN `m`, and its stream is in order. -/
structure Producing (s : BuildStream σ) (build : OutboundBuild) (m : Int) (p : Option Nat) :
    Prop where
  authority : build.progress.authority = s.authority
  streamed : Streamed s.boundary p s.recorded
  next : build.nextSequence = s.recorded.length + 1
  records : Records build.emitted s.recorded
  feeds : Feeds s.boundary (p.getD 0) m (s.producer.stage.upcoming s.producer.initialOperations)
    build.pendingOperations
  stage : s.producer.stage.Holds build s.recorded.length s.producer.outgoing p

structure StreamInv (s : BuildStream σ) (m : Int) : Prop where
  initial : ∀ y op, s.producer.initialOperations.get? y = some op → op.lsn = y ∧ y ≤ m
  producing : ∀ build, s.build? = some build → ∃ p, s.Producing build m p
  order : ∃ p, Streamed s.boundary p s.recorded

section Step

variable {s : BuildStream σ} {build : OutboundBuild} {m : Int} {p : Option Nat}

@[simp] theorem build?_enter (stage : ProducerStage) : (s.enter build stage).build? = some build :=
  AssocMap.get?_insert_self _ _ _

@[simp] theorem build?_emit (stage : ProducerStage) (item : CopyItem) :
    (s.emit build stage item).build? = some build := AssocMap.get?_insert_self _ _ _

theorem build?_fail : s.fail.build? = none := AssocMap.get?_erase_self _ _

theorem Producing.hasEmitted_iff (h : s.Producing build m p) (lsn : Int) :
    build.hasEmitted lsn = true ↔ s.boundary < lsn ∧ lsn ≤ s.boundary + p.getD 0 :=
  h.records.hasEmitted_iff h.streamed lsn

theorem Producing.sequence_lt (h : s.Producing build m p) :
    ∀ j ∈ s.recorded, j.sequence < s.recorded.length + 1 :=
  fun _ hj => Nat.lt_succ_of_le (h.streamed.sequence_le hj)

theorem Producing.transfer {s' : BuildStream σ} (h : s.Producing build m p)
    (hproducer : s'.producer = s.producer) (hrecorded : s'.recorded = s.recorded) :
    s'.Producing build m p := by
  cases s
  cases s'
  subst hproducer hrecorded
  exact ⟨h.authority, h.streamed, h.next, h.records, h.feeds, h.stage⟩

theorem StreamInv.fail (h : s.StreamInv m) : s.fail.StreamInv m :=
  ⟨h.initial, (fun _ hb => by rw [build?_fail] at hb; cases hb), h.order⟩

theorem StreamInv.of_producing {s' : BuildStream σ} {m' : Int} (h : s.StreamInv m) (hm : m ≤ m')
    (hinit : s'.producer.initialOperations = s.producer.initialOperations)
    (hbuild : s'.build? = some build) (hp : s'.Producing build m' p) : s'.StreamInv m' := by
  refine ⟨fun y op hop => ?_, fun build' hb => ?_, p, hp.streamed⟩
  · rw [hinit] at hop
    exact (h.initial y op hop).imp_right fun hle => hle.trans hm
  · obtain rfl := Option.some.inj (hbuild.symm.trans hb)
    exact ⟨p, hp⟩

/-- The build has every operation above the boundary up to `m`. -/
theorem StreamInv.has_of_le (h : s.StreamInv m) (hbuild : s.build? = some build) {lsn : Int}
    (hlow : s.boundary < lsn) (hle : lsn ≤ m) : s.Has lsn := by
  obtain ⟨p, hp⟩ := h.producing build hbuild
  by_cases hemitted : lsn ≤ s.boundary + p.getD 0
  · exact .inr (.inr ⟨build, hbuild, .inl ((hp.hasEmitted_iff lsn).2 ⟨hlow, hemitted⟩)⟩)
  obtain ⟨op, hop, rfl⟩ | hpending := hp.feeds.complete lsn (by omega) hle
  · have hinitial : op ∈ s.producer.initialOperations.sortedValues → s.Has op.lsn := by
      intro hop
      obtain ⟨k, hk⟩ := AssocMap.mem_sortedValues_iff.1 hop
      obtain ⟨rfl, -⟩ := h.initial k op hk
      exact .inl (by rw [AssocMap.contains, hk]; rfl)
    cases hstage : s.producer.stage with
    | snapshot | frozen =>
      rw [hstage] at hop
      exact hinitial hop
    | emitting held =>
      rw [hstage] at hop
      exact .inr (.inl ⟨op, by rw [CopyProducer.held, hstage]; exact hop, rfl⟩)
    | finished | failed =>
      rw [hstage] at hop
      exact absurd hop List.not_mem_nil
  · exact .inr (.inr ⟨build, hbuild, .inr hpending⟩)

theorem StreamInv.le_of_has (h : s.StreamInv m) (hbuild : s.build? = some build) {lsn : Int}
    (hhas : s.Has lsn) : lsn ≤ m := by
  obtain ⟨p, hp⟩ := h.producing build hbuild
  obtain hinitial | ⟨op, hop, rfl⟩ | ⟨build', hb, hemitted | hpending⟩ := hhas
  · obtain ⟨op, hop⟩ := Option.isSome_iff_exists.1 hinitial
    exact (h.initial lsn op hop).2
  · refine (hp.feeds.bounded op ?_).2
    unfold CopyProducer.held at hop
    split at hop
    · next hstage =>
      rw [hstage]
      exact hop
    · exact absurd hop List.not_mem_nil
  · obtain rfl := Option.some.inj (hbuild.symm.trans hb)
    exact ((hp.hasEmitted_iff lsn).1 hemitted).2.trans hp.feeds.reached
  · obtain rfl := Option.some.inj (hbuild.symm.trans hb)
    obtain ⟨op, hop⟩ := Option.isSome_iff_exists.1 hpending
    exact (hp.feeds.queued lsn op hop).2.2

theorem Producing.of_stage (h : s.Producing build m p) {stage : ProducerStage}
    (hstage : s.producer.stage = stage) :
    Feeds s.boundary (p.getD 0) m (stage.upcoming s.producer.initialOperations)
        build.pendingOperations ∧
      stage.Holds build s.recorded.length s.producer.outgoing p :=
  hstage ▸ ⟨h.feeds, h.stage⟩

theorem Producing.chunk (h : s.Producing build m p) {sequence : Nat}
    (hstage : s.producer.stage = .snapshot sequence) (data : Bytes) :
    let item := copySnapshotItem s.authority sequence data
    (s.emit (build.recordEmittedCopyItem item) (.snapshot (sequence + 1)) item).Producing
      (build.recordEmittedCopyItem item) m none := by
  obtain ⟨hfeeds, rfl, rfl, hfinal, hcatching⟩ := h.of_stage hstage
  intro item
  have hlength : (s.recorded ++ [item]).length = s.recorded.length + 1 := List.length_append
  refine ⟨h.authority, h.streamed.chunk rfl rfl rfl, ?_, h.records.append h.sequence_lt, hfeeds, rfl,
    congrArg (· + 1) hlength.symm, hfinal, hcatching⟩
  exact (congrArg (max · _) h.next).trans
    ((max_eq_right (Nat.le_succ _)).trans (congrArg (· + 1) hlength.symm))

theorem Producing.final (h : s.Producing build m p) {sequence : Nat} {catchUp : Int}
    (hstage : s.producer.stage = .frozen sequence catchUp) :
    let item := copyFinalItem s.authority sequence catchUp
    (s.emit (build.recordFinalItem item) (.emitting s.producer.initialOperations.sortedValues)
      item).Producing (build.recordFinalItem item) m (some 0) := by
  obtain ⟨hfeeds, rfl, rfl, -, hcatching⟩ := h.of_stage hstage
  intro item
  have hlength : (s.recorded ++ [item]).length = s.recorded.length + 1 := List.length_append
  exact ⟨h.authority, h.streamed.final rfl rfl rfl, congrArg (· + 1) hlength.symm,
    h.records.append h.sequence_lt, hfeeds, Option.some_ne_none _, Option.some_ne_none _, hcatching⟩

theorem Producing.freeze (h : s.Producing build m p) {sequence : Nat}
    (hstage : s.producer.stage = .snapshot sequence) (catchUp : Int) :
    (s.enter (build.freeze catchUp) (.frozen sequence catchUp)).Producing (build.freeze catchUp) m
      p := by
  obtain ⟨hfeeds, hst⟩ := h.of_stage hstage
  exact ⟨h.authority, h.streamed, h.next, h.records, hfeeds, hst⟩

theorem Producing.skip (h : s.Producing build m p) {operation : Operation} {rest : List Operation}
    (hstage : s.producer.stage = .emitting (operation :: rest))
    (hemitted : build.hasEmitted operation.lsn = true) :
    (s.enter build (.emitting rest)).Producing build m p := by
  obtain ⟨hfeeds, hst⟩ := h.of_stage hstage
  exact ⟨h.authority, h.streamed, h.next, h.records,
    hfeeds.skip ((h.hasEmitted_iff _).1 hemitted).2, hst⟩

theorem Producing.emit (h : s.Producing build m p) {operation : Operation} {rest : List Operation}
    (hstage : s.producer.stage = .emitting (operation :: rest))
    (hemitted : ¬ build.hasEmitted operation.lsn = true) :
    let item := copyOperationItem s.authority build.nextSequence operation
    (s.emit (build.recordOperation item) (.emitting rest) item).Producing
      (build.recordOperation item) m (p.map (· + 1)) := by
  obtain ⟨hfeeds, hp, hfinal, hcatching⟩ := h.of_stage hstage
  obtain ⟨n, rfl⟩ := Option.ne_none_iff_exists'.1 hp
  have hlsn : operation.lsn = s.boundary + n + 1 := by
    refine hfeeds.next fun hle => hemitted ((h.hasEmitted_iff _).2 ⟨?_, hle⟩)
    exact (hfeeds.bounded operation List.mem_cons_self).1
  intro item
  refine ⟨h.authority, h.streamed.live h.next rfl rfl hlsn, ?_, ?_, hfeeds.emit hlsn,
    Option.some_ne_none _, hfinal, hcatching⟩
  · have hlength : (s.recorded ++ [item]).length = s.recorded.length + 1 := List.length_append
    exact congrArg (· + 1) (h.next.trans hlength.symm)
  · exact h.records.append (i := item) fun j hj => lt_of_lt_of_eq (h.sequence_lt j hj) h.next.symm

/-- The queue is empty, so that the writes send their operations themselves from now on. -/
theorem Producing.finish (h : s.Producing build m p) (hout : s.producer.outgoing = none)
    (hstage : s.producer.stage = .emitting []) (hempty : build.pendingOperations.isEmpty = true) :
    (s.enter { build with catchingUp := false } .finished).Producing
      { build with catchingUp := false } m p := by
  obtain ⟨hfeeds, hp, hfinal, -⟩ := h.of_stage hstage
  exact ⟨h.authority, h.streamed, h.next, h.records, hfeeds, hp, hfinal, rfl, hout,
    AssocMap.eq_empty_of_isEmpty hempty⟩

theorem Producing.drain (h : s.Producing build m p) (hstage : s.producer.stage = .emitting []) :
    (s.enter { build with pendingOperations := ∅ }
      (.emitting build.pendingOperations.sortedValues)).Producing
      { build with pendingOperations := ∅ } m p := by
  obtain ⟨hfeeds, hst⟩ := h.of_stage hstage
  exact ⟨h.authority, h.streamed, h.next, h.records, hfeeds.drain, hst⟩

theorem Producing.send (h : s.Producing build m p) (sent : List CopyItem) :
    BuildStream.Producing
      { s with producer := { s.producer with outgoing := none }, sent := sent } build m p := by
  refine ⟨h.authority, h.streamed, h.next, h.records, h.feeds, ?_⟩
  have hst := h.stage
  show s.producer.stage.Holds build s.recorded.length none p
  cases hstage : s.producer.stage with
  | snapshot | frozen | emitting | failed => rwa [hstage] at hst
  | finished =>
    rw [hstage] at hst
    exact ⟨hst.1, hst.2.1, hst.2.2.1, rfl, hst.2.2.2.2⟩

theorem StreamInv.produce (h : s.StreamInv m) (action : ProducerAction) :
    (s.produce action).StreamInv m := by
  unfold BuildStream.produce
  cases hbuild : s.build? with
  | none => exact h
  | some build =>
    obtain ⟨p, hp⟩ := h.producing build hbuild
    simp only
    split
    · exact h.fail
    · split
      · exact h.fail
      · exact h.of_producing le_rfl rfl hbuild (hp.send _)
    · exact h
    · next hout hcancel =>
      clear hcancel
      split
      · next hstage => exact h.of_producing le_rfl rfl (build?_emit _ _) (hp.chunk hstage _)
      · next hstage =>
        unfold freezeBuildCatchUpBoundary
        split
        · exact h
        · split
          · exact h.fail
          · split
            · exact h.fail
            · dsimp only
              split
              · exact h.fail
              · exact h.of_producing le_rfl rfl (build?_enter _)
                  ((hp.freeze hstage _).transfer rfl rfl)
      · next hstage => exact h.of_producing le_rfl rfl (build?_emit _ _) (hp.final hstage)
      · next hstage =>
        unfold emitCopyOperation
        split
        · next hemitted =>
          exact h.of_producing le_rfl rfl (build?_enter _) (hp.skip hstage hemitted)
        · next hemitted =>
          exact h.of_producing le_rfl rfl (build?_emit _ _) (hp.emit hstage hemitted)
      · next hstage =>
        split
        · next hempty =>
          exact h.of_producing le_rfl rfl (build?_enter _) (hp.finish hout hstage hempty)
        · exact h.of_producing le_rfl rfl (build?_enter _) (hp.drain hstage)
      · exact h

end Step

/-! ## The start of a build -/

section Start

variable {b highest : Int}

/-- The collected operations are kept under their LSNs, which are in the range. -/
def Collected (b highest : Int) (operations : AssocMap Int Operation) : Prop :=
  ∀ y op, operations.get? y = some op → op.lsn = y ∧ b < y ∧ y ≤ highest

theorem Collected.insert {operations' : AssocMap Int Operation} {op : Operation}
    (h : Collected b highest operations) (hlow : b < op.lsn) (hhigh : op.lsn ≤ highest)
    (hok : insertCopyOperation operations op = .ok operations') :
    Collected b highest operations' := by
  unfold insertCopyOperation at hok
  split_ifs at hok
  split at hok
  · next existing hexisting =>
    split_ifs at hok
    obtain rfl := Except.ok.inj hok
    intro y x hx
    rw [AssocMap.get?_insert] at hx
    split_ifs at hx with hy
    · obtain rfl := Option.some.inj hx
      exact ⟨(h _ existing hexisting).1.trans hy.symm, by omega, by omega⟩
    · exact h y x hx
  · obtain rfl := Except.ok.inj hok
    intro y x hx
    rw [AssocMap.get?_insert] at hx
    split_ifs at hx with hy
    · obtain rfl := Option.some.inj hx
      exact ⟨hy.symm, by omega, by omega⟩
    · exact h y x hx

variable {history : List Operation}

theorem collected_of_collectOperations :
    ∀ {operations operations' : AssocMap Int Operation}, Collected b highest operations →
      collectOperations b highest operations history = .ok operations' →
      Collected b highest operations' := by
  induction history with
  | nil =>
    intro operations operations' h hok
    exact Except.ok.inj hok ▸ h
  | cons op rest ih =>
    intro operations operations' h hok
    unfold collectOperations at hok
    split_ifs at hok with hrange
    · split at hok
      · cases hok
      · next hinsert => exact ih (h.insert hrange.1 hrange.2 hinsert) hok
    · exact ih h hok

theorem contains_of_closesGap (h : closesGap b highest operations = true) {y : Int} (hlow : b < y)
    (hhigh : y ≤ highest) : operations.contains y = true := by
  have hget := List.all_eq_true.1 h (y - b - 1).toNat (List.mem_range.2 (by omega))
  rwa [show b + 1 + ((y - b - 1).toNat : Int) = y by omega] at hget

variable {σ : Type} [DurableState σ]

theorem prepareCopy_source {e : Engine σ} {a : BuildAuthority} {s : BuildStream σ}
    (h : prepareCopy e a history = .ok s) :
    s.engine = e.withSource (e.buildSource.beginCopy a) := by
  simp only [prepareCopy, Check.then_eq_ok, Check.rejectIf_eq_ok] at h
  obtain ⟨-, -, -, -, -, hauthority, hnew, h⟩ := h
  obtain ⟨operations, -, h⟩ := Check.bind_eq_ok.1 h
  rw [Check.then_eq_ok] at h
  cases h.2
  have hstart : ¬((e.buildSource.store.progressOf a).authority ≠ a ∨
      e.buildSource.outboundBuilds.contains a.buildId = true) := not_or.2 ⟨hauthority, hnew⟩
  rw [BuildSource.beginCopy, if_neg hstart]
  rfl

/-- A build starts with the operations up to the highest LSN of the primary. -/
theorem streamInv_of_prepareCopy {e : Engine σ} {a : BuildAuthority} {s : BuildStream σ}
    (h : prepareCopy e a history = .ok s) :
    s.StreamInv (max e.log.quorum.highestLsn (appliedLsn e.storage)) := by
  simp only [prepareCopy, Check.then_eq_ok, Check.rejectIf_eq_ok] at h
  obtain ⟨-, -, -, hhighest, -, hauthority, -, h⟩ := h
  obtain ⟨operations, hcollect, h⟩ := Check.bind_eq_ok.1 h
  simp only [Check.then_eq_ok, Check.rejectIf_eq_ok] at h
  obtain ⟨hgap, hs⟩ := h
  obtain rfl := Except.ok.inj hs
  have hcollected : Collected a.replicationBoundaryLsn _ operations :=
    collected_of_collectOperations (fun _ _ hop => by cases hop) hcollect
  refine ⟨fun y op hop => ?_, fun build hbuild => ⟨none, ?_⟩, none, .start⟩
  · obtain ⟨hkey, -, hle⟩ := hcollected y op hop
    exact ⟨hkey, hle⟩
  · obtain rfl : OutboundBuild.start _ _ = build :=
      Option.some.inj ((AssocMap.get?_insert_self _ _ _).symm.trans hbuild)
    refine ⟨not_not.1 hauthority, .start, rfl, fun k item => ?_, ?_, rfl, rfl, rfl, rfl⟩
    · constructor
      · intro hget
        cases hget
      · rintro ⟨i, hi, -⟩
        exact absurd hi List.not_mem_nil
    · refine Feeds.initial (fun y op hop => (hcollected y op hop).1) (fun y => ?_) ?_
      · constructor
        · intro hcontains
          obtain ⟨op, hop⟩ := Option.isSome_iff_exists.1 hcontains
          exact (hcollected y op hop).2
        · rintro ⟨hlow, hhigh⟩
          exact contains_of_closesGap (Bool.not_eq_false _ ▸ hgap) hlow hhigh
      · rw [not_or] at hhighest
        exact not_lt.1 hhighest.1

end Start

end BuildStream

end Kuberic
