import Kuberic.Runtime.Copy

/-!
# The reliable sender

The primary keeps what it has sent to a peer until the peer acknowledges it.  A window numbers its
messages in the order in which they are queued; an acknowledgement names an LSN, and is turned into
the last sequence number that carries an LSN up to it.  The two orders agree as long as the LSNs of a
peer are queued in order.  A repair queues older LSNs again behind newer writes, and the
acknowledgement of a repaired LSN then releases the newer ones too.

Sequence numbers are natural numbers: a window would have to number `2 ^ 64` messages to wrap.
-/

namespace Kuberic

structure RetainedMessage (α : Type) where
  sequence : Nat
  payload : α

/-- The messages to a peer that are not acknowledged yet, by sequence number. -/
structure ReliableWindow (α : Type) where
  capacity : Nat
  nextSequence : Nat
  acknowledgedSequence : Nat
  retained : AssocMap Nat α
  cancelled : Bool
  acknowledged_lt_next : acknowledgedSequence < nextSequence
  bounds : ∀ sequence ∈ retained.keys, acknowledgedSequence < sequence ∧ sequence < nextSequence

namespace ReliableWindow

variable {α κ : Type}

def new (capacity : Nat) : Result (ReliableWindow α) :=
  if capacity = 0 then .error (.application "reliable send window capacity must be positive")
  else .ok {
    capacity := capacity
    nextSequence := 1
    acknowledgedSequence := 0
    retained := ∅
    cancelled := false
    acknowledged_lt_next := Nat.one_pos
    bounds := fun _ h => absurd h List.not_mem_nil }

/-- The window with `payload` under the next sequence number. -/
def push (w : ReliableWindow α) (payload : α) : ReliableWindow α where
  capacity := w.capacity
  nextSequence := w.nextSequence + 1
  acknowledgedSequence := w.acknowledgedSequence
  retained := w.retained.insert w.nextSequence payload
  cancelled := w.cancelled
  acknowledged_lt_next := w.acknowledged_lt_next.trans (Nat.lt_succ_self _)
  bounds := by
    intro sequence hmem
    rcases List.mem_cons.1 hmem with rfl | hmem
    · exact ⟨w.acknowledged_lt_next, Nat.lt_succ_self _⟩
    · obtain ⟨hlt, hnext⟩ := w.bounds sequence ((List.filter_sublist.map _).subset hmem)
      exact ⟨hlt, hnext.trans (Nat.lt_succ_self _)⟩

def enqueue (w : ReliableWindow α) (payload : α) : Result (RetainedMessage α) × ReliableWindow α :=
  if w.cancelled then (.error .operationCancelled, w)
  else if w.capacity ≤ w.retained.entries.length then (.error .queueFull, w)
  else (.ok ⟨w.nextSequence, payload⟩, w.push payload)

/-- The window without the messages up to `sequence`. -/
def dropThrough (w : ReliableWindow α) (sequence : Nat) (hnext : sequence < w.nextSequence) :
    ReliableWindow α where
  capacity := w.capacity
  nextSequence := w.nextSequence
  acknowledgedSequence := sequence
  retained := w.retained.retain fun retained _ => sequence < retained
  cancelled := w.cancelled
  acknowledged_lt_next := hnext
  bounds := by
    intro sequence' hmem
    obtain ⟨e, he, rfl⟩ := List.mem_map.1 hmem
    obtain ⟨hmem, hlt⟩ := List.mem_filter.1 he
    exact ⟨of_decide_eq_true hlt, (w.bounds e.1 (List.mem_map_of_mem hmem)).2⟩

def acknowledgeThrough (w : ReliableWindow α) (sequence : Nat) : Result Unit × ReliableWindow α :=
  if h : sequence < w.acknowledgedSequence ∨ w.nextSequence ≤ sequence then
    (.error (.invalidReplication "acknowledgement is outside the retained send window"), w)
  else (.ok (), w.dropThrough sequence (Nat.lt_of_not_le fun hle => h (.inr hle)))

/-- Acknowledge through the last message whose `position` is at most `applied`. -/
def acknowledgeApplied [LinearOrder κ] (w : ReliableWindow α) (position : α → κ) (applied : κ) :
    Result Unit × ReliableWindow α :=
  match ((w.retained.entries.filter fun e => position e.2 ≤ applied).map Prod.fst).max? with
  | some sequence => w.acknowledgeThrough sequence
  | none => (.ok (), w)

theorem mem_enqueue {w : ReliableWindow α} {payload : α} {e : Nat × α}
    (he : e ∈ (w.enqueue payload).2.retained.entries) :
    e ∈ w.retained.entries ∨
      (e.2 = payload ∧ ∀ e' ∈ w.retained.entries, e'.1 < e.1) := by
  unfold enqueue at he
  split_ifs at he
  · exact .inl he
  · exact .inl he
  · rcases List.mem_cons.1 he with rfl | hmem
    · exact .inr ⟨rfl, fun e' he' => (w.bounds e'.1 (List.mem_map_of_mem he')).2⟩
    · exact .inl (List.mem_filter.1 hmem).1

section Acknowledge

variable [LinearOrder κ] (w : ReliableWindow α) (position : α → κ) (applied : κ)

/-- Nothing above `applied` was queued before something up to `applied`. -/
def Separated : Prop :=
  ∀ e ∈ w.retained.entries, ∀ e' ∈ w.retained.entries,
    position e.2 ≤ applied → applied < position e'.2 → e.1 < e'.1

theorem acknowledgeApplied_cases :
    ((∀ e ∈ w.retained.entries, applied < position e.2) ∧
        w.acknowledgeApplied position applied = (.ok (), w)) ∨
      ∃ last ∈ w.retained.entries, position last.2 ≤ applied ∧
        (∀ e ∈ w.retained.entries, position e.2 ≤ applied → e.1 ≤ last.1) ∧
        ∃ hnext, w.acknowledgeApplied position applied = (.ok (), w.dropThrough last.1 hnext) := by
  unfold acknowledgeApplied
  cases hmax : ((w.retained.entries.filter fun e => position e.2 ≤ applied).map Prod.fst).max? with
  | none =>
    rw [List.max?_eq_none_iff, List.map_eq_nil_iff, List.filter_eq_nil_iff] at hmax
    exact .inl ⟨fun e he => by simpa using hmax e he, rfl⟩
  | some sequence =>
    obtain ⟨last, hlast, rfl⟩ := List.mem_map.1 (List.max?_mem hmax)
    obtain ⟨hmem, hle⟩ := List.mem_filter.1 hlast
    obtain ⟨hlt, hnext⟩ := w.bounds last.1 (List.mem_map_of_mem hmem)
    refine .inr ⟨last, hmem, of_decide_eq_true hle, fun e he happlied => ?_, hnext, ?_⟩
    · exact (List.max?_le_iff hmax).1 le_rfl e.1
        (List.mem_map_of_mem (List.mem_filter.2 ⟨he, decide_eq_true happlied⟩))
    · have hinside : ¬(last.1 < w.acknowledgedSequence ∨ w.nextSequence ≤ last.1) := by omega
      exact dif_neg hinside

/-- An acknowledgement is always accepted, and releases what it covers exactly when nothing newer
was queued in between. -/
theorem acknowledgeApplied_exact_iff :
    (w.acknowledgeApplied position applied).1 = .ok () ∧
      ((w.acknowledgeApplied position applied).2.retained =
          (w.retained.retain fun _ payload => applied < position payload) ↔
        w.Separated position applied) := by
  rcases w.acknowledgeApplied_cases position applied with
    ⟨hnone, heq⟩ | ⟨last, hmem, hle, hlast, hnext, heq⟩
  · rw [heq]
    refine ⟨rfl, iff_of_true ?_ fun e he _ _ happlied => ?_⟩
    · have hall := AssocMap.retain_eq_retain_iff (m := w.retained) (p := fun _ _ => true)
        (q := fun _ payload => applied < position payload)
      rw [AssocMap.retain_true] at hall
      exact hall.2 fun e he => (decide_eq_true (hnone e he)).symm
    · exact absurd happlied (not_le.2 (hnone e he))
  · rw [heq]
    refine ⟨rfl, ?_⟩
    rw [dropThrough, AssocMap.retain_eq_retain_iff]
    constructor
    · intro hexact e he e' he' happlied hnewer
      have hkept : last.1 < e'.1 := by simpa [hnewer] using hexact e' he'
      exact (hlast e he happlied).trans_lt hkept
    · intro hseparated e he
      rw [decide_eq_decide]
      constructor
      · intro hkept
        exact not_le.1 fun happlied => (hlast e he happlied).not_gt hkept
      · exact hseparated last hmem e he hle

theorem mem_acknowledgeApplied {e : Nat × α}
    (he : e ∈ (w.acknowledgeApplied position applied).2.retained.entries) :
    e ∈ w.retained.entries := by
  rcases w.acknowledgeApplied_cases position applied with ⟨-, heq⟩ | ⟨last, -, -, -, hnext, heq⟩
  · rwa [heq] at he
  · rw [heq] at he
    exact (List.mem_filter.1 he).1

end Acknowledge

end ReliableWindow

structure PeerWindows where
  session : ProcessSessionId
  replication : ReliableWindow ReplicationItem
  copy : ReliableWindow CopyItem

def PeerWindows.new (session : ProcessSessionId) (capacity : Nat) : Result PeerWindows := do
  let replication ← ReliableWindow.new capacity
  let copy ← ReliableWindow.new capacity
  pure ⟨session, replication, copy⟩

theorem PeerWindows.retained_new {session : ProcessSessionId} {capacity : Nat} {peer : PeerWindows}
    (h : PeerWindows.new session capacity = .ok peer) : peer.replication.retained = ∅ := by
  simp only [PeerWindows.new, ReliableWindow.new] at h
  split_ifs at h
  · cases h
  · cases h
    rfl

structure ReplicaEndpoint where
  buildId : OperationId
  identity : ReplicaIdentity
  replicationAddress : String

inductive OutboundOperation
  | replication (item : ReplicationItem)
  | copy (item : CopyItem)
  | build (endpoint : ReplicaEndpoint)
  | remove (replicaId : ReplicaId)
  | evict (identity : ReplicaIdentity)

inductive SenderOutbound
  | replication (receiver : ReplicaIdentity) (senderSession receiverSession : ProcessSessionId)
      (message : RetainedMessage ReplicationItem)
  | copy (receiver : ReplicaIdentity) (senderSession receiverSession : ProcessSessionId)
      (message : RetainedMessage CopyItem)
  | build (endpoint : ReplicaEndpoint)
  | remove (replicaId : ReplicaId)
  | evict (identity : ReplicaIdentity)

structure ReliableSender where
  localSession : ProcessSessionId
  capacity : Nat
  peers : AssocMap ReplicaIdentity PeerWindows
  evicted : List ReplicaIdentity

namespace ReliableSender

def new (localSession : ProcessSessionId) (capacity : Nat) : Result ReliableSender := do
  let _ ← (ReliableWindow.new capacity : Result (ReliableWindow ReplicationItem))
  pure ⟨localSession, capacity, ∅, []⟩

def setPeer (s : ReliableSender) (identity : ReplicaIdentity) (peer : PeerWindows) :
    ReliableSender :=
  { s with peers := s.peers.insert identity peer }

def admitPeer (s : ReliableSender) (identity : ReplicaIdentity) (session : ProcessSessionId) :
    Result Unit × ReliableSender :=
  if identity ∈ s.evicted then (.error .operationCancelled, s)
  else match s.peers.get? identity with
    | some peer => (.ok (), s.setPeer identity { peer with session := session })
    | none => match PeerWindows.new session s.capacity with
      | .ok peer => (.ok (), s.setPeer identity peer)
      | .error error => (.error error, s)

/-- The windows of the peer are cancelled, and dropped with it. -/
def retirePeer (s : ReliableSender) (receiver : ReplicaIdentity) : ReliableSender :=
  { s with peers := s.peers.erase receiver }

def evictPeer (s : ReliableSender) (receiver : ReplicaIdentity) : ReliableSender :=
  { s.retirePeer receiver with evicted := receiver :: s.evicted }

def queue (s : ReliableSender) : OutboundOperation → Result SenderOutbound × ReliableSender
  | .replication item =>
    match s.peers.get? item.receiver with
    | none => (.error .reconfigurationPending, s)
    | some peer =>
      let (message, window) := peer.replication.enqueue item
      (message.map (.replication item.receiver s.localSession peer.session),
        s.setPeer item.receiver { peer with replication := window })
  | .copy item =>
    match s.peers.get? item.receiver with
    | none => (.error .reconfigurationPending, s)
    | some peer =>
      let (message, window) := peer.copy.enqueue item
      (message.map (.copy item.receiver s.localSession peer.session),
        s.setPeer item.receiver { peer with copy := window })
  | .build endpoint => (.ok (.build endpoint), s)
  | .remove replicaId => (.ok (.remove replicaId), s)
  | .evict identity => (.ok (.evict identity), s.evictPeer identity)

def acknowledgeReplication (s : ReliableSender) (receiver : ReplicaIdentity) (appliedLsn : Int) :
    Result Unit × ReliableSender :=
  match s.peers.get? receiver with
  | none => (.error .reconfigurationPending, s)
  | some peer =>
    let (result, window) := peer.replication.acknowledgeApplied ReplicationItem.lsn appliedLsn
    (result, s.setPeer receiver { peer with replication := window })

def acknowledgeCopy (s : ReliableSender) (receiver : ReplicaIdentity) (itemSequence : Nat) :
    Result Unit × ReliableSender :=
  match s.peers.get? receiver with
  | none => (.error .reconfigurationPending, s)
  | some peer =>
    let (result, window) := peer.copy.acknowledgeApplied CopyItem.sequence itemSequence
    (result, s.setPeer receiver { peer with copy := window })

variable {s : ReliableSender} {receiver : ReplicaIdentity}

theorem get?_setPeer (s : ReliableSender) (identity : ReplicaIdentity) (peer : PeerWindows) :
    (s.setPeer identity peer).peers.get? receiver =
      if receiver = identity then some peer else s.peers.get? receiver :=
  AssocMap.get?_insert _ _ _ _

/-- The items for `receiver` that are not released, by sequence number. -/
def window (s : ReliableSender) (receiver : ReplicaIdentity) : AssocMap Nat ReplicationItem :=
  ((s.peers.get? receiver).map fun peer => peer.replication.retained).getD ∅

/-! ## Runs -/

inductive SenderOp
  | admitPeer (identity : ReplicaIdentity) (session : ProcessSessionId)
  | queue (outbound : OutboundOperation)
  | acknowledgeReplication (receiver : ReplicaIdentity) (appliedLsn : Int)
  | acknowledgeCopy (receiver : ReplicaIdentity) (itemSequence : Nat)
  | retirePeer (receiver : ReplicaIdentity)
  | evictPeer (receiver : ReplicaIdentity)

/-- The sender after an operation, whether it succeeds or not. -/
def apply (s : ReliableSender) : SenderOp → ReliableSender
  | .admitPeer identity session => (s.admitPeer identity session).2
  | .queue outbound => (s.queue outbound).2
  | .acknowledgeReplication receiver appliedLsn => (s.acknowledgeReplication receiver appliedLsn).2
  | .acknowledgeCopy receiver itemSequence => (s.acknowledgeCopy receiver itemSequence).2
  | .retirePeer receiver => s.retirePeer receiver
  | .evictPeer receiver => s.evictPeer receiver

/-- The LSN that an operation queues for `receiver`. -/
def SenderOp.lsnFor? (receiver : ReplicaIdentity) : SenderOp → Option Int
  | .queue (.replication item) => if item.receiver = receiver then some item.lsn else none
  | _ => none

/-- What is retained after an operation was retained before, or was queued behind it. -/
def Appends (s : ReliableSender) (receiver : ReplicaIdentity) (lsn : Option Int)
    (s' : ReliableSender) : Prop :=
  ∀ e ∈ (s'.window receiver).entries, e ∈ (s.window receiver).entries ∨
    (lsn = some e.2.lsn ∧ ∀ e' ∈ (s.window receiver).entries, e'.1 < e.1)

theorem Appends.of_subset {lsn : Option Int} {s' : ReliableSender}
    (h : (s'.window receiver).entries ⊆ (s.window receiver).entries) :
    s.Appends receiver lsn s' :=
  fun _ he => .inl (h he)

theorem Appends.setPeer {lsn : Option Int} {identity : ReplicaIdentity} {peer peer' : PeerWindows}
    (hpeer : s.peers.get? identity = some peer)
    (h : receiver = identity → ∀ e ∈ peer'.replication.retained.entries,
      e ∈ peer.replication.retained.entries ∨
        (lsn = some e.2.lsn ∧ ∀ e' ∈ peer.replication.retained.entries, e'.1 < e.1)) :
    s.Appends receiver lsn (s.setPeer identity peer') := by
  intro e he
  by_cases heq : receiver = identity
  · simp only [window, get?_setPeer, heq, if_true, hpeer, Option.map_some, Option.getD_some] at he ⊢
    exact h heq e he
  · simp only [window, get?_setPeer, heq, if_false] at he ⊢
    exact .inl he

theorem window_retirePeer_subset (s : ReliableSender) (receiver identity : ReplicaIdentity) :
    ((s.retirePeer identity).window receiver).entries ⊆ (s.window receiver).entries := by
  intro e he
  by_cases heq : receiver = identity
  · simp only [window, retirePeer, heq, AssocMap.get?_erase_self, Option.map_none,
      Option.getD_none] at he
    exact absurd he List.not_mem_nil
  · simpa only [window, retirePeer, AssocMap.get?_erase_of_ne _ heq] using he

theorem appends_admitPeer (s : ReliableSender) (receiver identity : ReplicaIdentity)
    (session : ProcessSessionId) : s.Appends receiver none (s.admitPeer identity session).2 := by
  unfold admitPeer
  split_ifs
  · exact .of_subset (List.Subset.refl _)
  · split
    next peer hpeer => exact .setPeer hpeer fun _ e he => .inl he
    next hnone =>
      split
      next peer hnew =>
        intro e he
        by_cases heq : receiver = identity
        · simp only [window, get?_setPeer, heq, if_true, Option.map_some, Option.getD_some,
            PeerWindows.retained_new hnew] at he
          exact absurd he List.not_mem_nil
        · simp only [window, get?_setPeer, heq, if_false] at he ⊢
          exact .inl he
      · exact .of_subset (List.Subset.refl _)

theorem appends_queue (s : ReliableSender) (receiver : ReplicaIdentity)
    (outbound : OutboundOperation) :
    s.Appends receiver (SenderOp.lsnFor? receiver (.queue outbound)) (s.queue outbound).2 := by
  cases outbound with
  | replication item =>
    simp only [queue]
    split
    · exact .of_subset (List.Subset.refl _)
    next peer hpeer =>
      refine .setPeer hpeer fun heq e he => ?_
      rcases ReliableWindow.mem_enqueue he with hold | ⟨hitem, hlast⟩
      · exact .inl hold
      · exact .inr ⟨by rw [SenderOp.lsnFor?, if_pos heq.symm, hitem], hlast⟩
  | copy item =>
    simp only [queue]
    split
    · exact .of_subset (List.Subset.refl _)
    next peer hpeer => exact .setPeer hpeer fun _ e he => .inl he
  | build | remove => exact .of_subset (List.Subset.refl _)
  | evict identity => exact .of_subset (window_retirePeer_subset s receiver identity)

theorem appends_apply (s : ReliableSender) (receiver : ReplicaIdentity) (op : SenderOp) :
    s.Appends receiver (op.lsnFor? receiver) (s.apply op) := by
  cases op with
  | admitPeer identity session => exact s.appends_admitPeer receiver identity session
  | queue outbound => exact s.appends_queue receiver outbound
  | acknowledgeReplication identity appliedLsn =>
    simp only [apply, acknowledgeReplication]
    split
    · exact .of_subset (List.Subset.refl _)
    next peer hpeer =>
      exact .setPeer hpeer fun _ e he => .inl (ReliableWindow.mem_acknowledgeApplied _ _ _ he)
  | acknowledgeCopy identity itemSequence =>
    simp only [apply, acknowledgeCopy]
    split
    · exact .of_subset (List.Subset.refl _)
    next peer hpeer => exact .setPeer hpeer fun _ e he => .inl he
  | retirePeer identity => exact .of_subset (window_retirePeer_subset s receiver identity)
  | evictPeer identity => exact .of_subset (window_retirePeer_subset s receiver identity)

/-- The items for `receiver` are retained in the order of their LSNs. -/
def InOrder (s : ReliableSender) (receiver : ReplicaIdentity) : Prop :=
  ∀ e ∈ (s.window receiver).entries, ∀ e' ∈ (s.window receiver).entries,
    e.1 < e'.1 → e.2.lsn ≤ e'.2.lsn

/-- Queueing the LSNs of a receiver in order keeps its window in order.  Every retained LSN is at
most the LSNs that are still to come. -/
theorem inOrder_foldl_apply {ops : List SenderOp} (hs : s.InOrder receiver)
    (hops : (ops.filterMap (SenderOp.lsnFor? receiver)).Pairwise (· ≤ ·))
    (hlater : ∀ e ∈ (s.window receiver).entries,
      ∀ lsn ∈ ops.filterMap (SenderOp.lsnFor? receiver), e.2.lsn ≤ lsn) :
    (ops.foldl apply s).InOrder receiver := by
  induction ops generalizing s with
  | nil => exact hs
  | cons op ops ih =>
    have happends := s.appends_apply receiver op
    rw [List.foldl_cons]
    cases hlsn : op.lsnFor? receiver with
    | none =>
      rw [List.filterMap_cons_none hlsn] at hops hlater
      have hkept : ∀ e ∈ ((s.apply op).window receiver).entries, e ∈ (s.window receiver).entries := by
        intro e he
        rcases happends e he with hold | ⟨hnew, -⟩
        · exact hold
        · cases hlsn.symm.trans hnew
      exact ih (fun e he e' he' => hs e (hkept e he) e' (hkept e' he')) hops
        fun e he => hlater e (hkept e he)
    | some lsn =>
      rw [List.filterMap_cons_some hlsn] at hops hlater
      obtain ⟨hfirst, hrest⟩ := List.pairwise_cons.1 hops
      have hcases : ∀ e ∈ ((s.apply op).window receiver).entries,
          e ∈ (s.window receiver).entries ∨
            (e.2.lsn = lsn ∧ ∀ e' ∈ (s.window receiver).entries, e'.1 < e.1) := by
        intro e he
        rcases happends e he with hold | ⟨hnew, hlast⟩
        · exact .inl hold
        · exact .inr ⟨Option.some.inj (hnew.symm.trans hlsn), hlast⟩
      refine ih (fun e he e' he' hlt => ?_) hrest fun e he lsn' hlsn' => ?_
      · rcases hcases e he with hold | ⟨hnew, hlast⟩ <;>
          rcases hcases e' he' with hold' | ⟨hnew', hlast'⟩
        · exact hs e hold e' hold' hlt
        · rw [hnew']
          exact hlater e hold lsn List.mem_cons_self
        · exact absurd (hlast e' hold') (by omega)
        · rw [hnew, hnew']
      · rcases hcases e he with hold | ⟨hnew, -⟩
        · exact hlater e hold lsn' (List.mem_cons_of_mem _ hlsn')
        · rw [hnew]
          exact hfirst lsn' hlsn'

/-! ## What an acknowledgement releases -/

/-- The acknowledgement of `appliedLsn` releases what it covers, and nothing else. -/
def ReleasesExactly (s : ReliableSender) (receiver : ReplicaIdentity) (appliedLsn : Int) : Prop :=
  (s.acknowledgeReplication receiver appliedLsn).2.window receiver =
    (s.window receiver).retain fun _ item => appliedLsn < item.lsn

theorem window_eq {peer : PeerWindows} (hpeer : s.peers.get? receiver = some peer) :
    s.window receiver = peer.replication.retained := by
  simp [window, hpeer]

/-- After any operations, the acknowledgement of an admitted receiver is accepted.  It releases
exactly what it covers if and only if no newer item was queued before one that it covers, and
always does if the LSNs of the receiver were queued in order. -/
theorem acknowledgeReplication_exact_iff {session : ProcessSessionId} {capacity : Nat}
    {s₀ : ReliableSender} (hnew : new session capacity = .ok s₀) (ops : List SenderOp)
    {peer : PeerWindows} (hpeer : (ops.foldl apply s₀).peers.get? receiver = some peer)
    (appliedLsn : Int) :
    ((ops.foldl apply s₀).acknowledgeReplication receiver appliedLsn).1 = .ok () ∧
    ((ops.foldl apply s₀).ReleasesExactly receiver appliedLsn ↔
      ∀ e ∈ ((ops.foldl apply s₀).window receiver).entries,
        ∀ e' ∈ ((ops.foldl apply s₀).window receiver).entries,
          e.2.lsn ≤ appliedLsn → appliedLsn < e'.2.lsn → e.1 < e'.1) ∧
    ((ops.filterMap (SenderOp.lsnFor? receiver)).Pairwise (· ≤ ·) →
      (ops.foldl apply s₀).ReleasesExactly receiver appliedLsn) := by
  have hexact := peer.replication.acknowledgeApplied_exact_iff ReplicationItem.lsn appliedLsn
  have hiff : (ops.foldl apply s₀).ReleasesExactly receiver appliedLsn ↔
      peer.replication.Separated ReplicationItem.lsn appliedLsn := by
    rw [← hexact.2, ReleasesExactly, window_eq hpeer]
    simp only [acknowledgeReplication, hpeer, window, get?_setPeer, if_true, Option.map_some,
      Option.getD_some]
  refine ⟨?_, ?_, fun hordered => ?_⟩
  · simpa only [acknowledgeReplication, hpeer] using hexact.1
  · rw [window_eq hpeer]
    exact hiff
  · have hempty : (s₀.window receiver).entries = [] := by
      simp only [new, ReliableWindow.new] at hnew
      split_ifs at hnew
      · cases hnew
      · cases hnew
        rfl
    have hinOrder : (ops.foldl apply s₀).InOrder receiver :=
      inOrder_foldl_apply (by simp [InOrder, hempty]) hordered (by simp [hempty])
    rw [InOrder, window_eq hpeer] at hinOrder
    refine hiff.2 fun e he e' he' hcovered hnewer => ?_
    by_contra hnot
    rcases Nat.lt_or_eq_of_le (Nat.le_of_not_lt hnot) with hlt | heq
    · have hle := hinOrder e' he' e he hlt
      omega
    · -- Entries with the same sequence number are the same.
      have hsame : some e.2 = some e'.2 := by
        rw [← (AssocMap.get?_eq_some_iff _ e.1 e.2).2 he, ← heq]
        exact (AssocMap.get?_eq_some_iff _ e'.1 e'.2).2 he'
      rw [Option.some.inj hsame] at hcovered
      omega

namespace MixedRepair

def identity (replicaId : Int) : ReplicaIdentity := ⟨replicaId, "instance", "agent"⟩

def item (lsn : Int) : SenderOp :=
  .queue (.replication ⟨identity 1, identity 2, ⟨0, 1⟩, none, "current", lsn, lsn, []⟩)

/-- Four writes for a peer that has applied the first one.  Its repair was started when the third one
was the last, and queues the second and the third one again. -/
def ops : List SenderOp :=
  [.admitPeer (identity 2) "peer", item 1, item 2, item 3, item 4, item 2, item 3]

def sender : ReliableSender := ops.foldl apply ⟨"primary", 16, ∅, []⟩

def lsns (s : ReliableSender) : List Int := (s.window (identity 2)).entries.map fun e => e.2.lsn

/-- The peer acknowledges the second write, and the window no longer retains the fourth one. -/
theorem newer_write_dropped : new "primary" 16 = .ok ⟨"primary", 16, ∅, []⟩ ∧
    lsns sender = [3, 2, 4, 3, 2, 1] ∧
    lsns (sender.acknowledgeReplication (identity 2) 2).2 = [3] ∧
    ¬sender.ReleasesExactly (identity 2) 2 := by
  refine ⟨rfl, by decide, by decide, fun hexact => ?_⟩
  have hlsns := congrArg (fun m : AssocMap Nat ReplicationItem => m.entries.map fun e => e.2.lsn) hexact
  exact absurd hlsns (by decide)

theorem acknowledgeReplication_exact_iff_without_repair :
    (([.admitPeer (identity 2) "peer", item 1, item 2, item 3] : List SenderOp).foldl apply
      ⟨"primary", 16, ∅, []⟩).ReleasesExactly (identity 2) 2 := by
  have hnew : new "primary" 16 = .ok ⟨"primary", 16, ∅, []⟩ := rfl
  exact (acknowledgeReplication_exact_iff hnew
    [.admitPeer (identity 2) "peer", item 1, item 2, item 3] rfl 2).2.2 (by decide)

end MixedRepair

end ReliableSender

end Kuberic
