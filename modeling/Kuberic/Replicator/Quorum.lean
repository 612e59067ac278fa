import Kuberic.Lib.AssocMap
import Kuberic.Replicator.Configuration

/-!
# The quorum tracker

The primary's record of what its peers hold: a progress map, the writes that wait for a quorum, and
the boundary that a configuration change has to catch up to.

A oneshot channel is a number; `Channels` records how many have been created and, in order, what
has been sent on them.  A map of the source is an `AssocMap`: the only place where its order is
visible is the completion of the waiting writes up to an LSN, which walks the keys in ascending
order.  The witnesses of a secondary removal are kept by the tracker but play no part in the
completion of writes; they are in `Kuberic.Replicator.Removal`.
-/

namespace Kuberic

/-- The sending and the receiving end of a oneshot channel. -/
abbrev CompletionId := Nat

/-- The oneshot channels created so far and the values sent on them, oldest first. -/
structure Channels where
  created : Nat
  sent : List (CompletionId × Result Int)
  deriving Inhabited

namespace Channels

def empty : Channels := ⟨0, []⟩

/-- `oneshot::channel()`. -/
def channel (c : Channels) : CompletionId × Channels := (c.created, { c with created := c.created + 1 })

def send (c : Channels) (values : List (CompletionId × Result Int)) : Channels :=
  { c with sent := c.sent ++ values }

end Channels

/-- Members of `c` whose progress is at least `lsn`. -/
def ConfigurationDescriptor.holders (c : ConfigurationDescriptor)
    (progress : ReplicaIdentity → Int) (lsn : Int) : List ConfigurationMember :=
  c.members.filter fun m => lsn ≤ progress m.identity

/-- The progress that a map records for an identity; an absent entry counts as `0`. -/
def progressOf (progress : AssocMap ReplicaIdentity Int) (identity : ReplicaIdentity) : Int :=
  (progress.get? identity).getD 0

def hasQuorum (c : ConfigurationDescriptor) (progress : AssocMap ReplicaIdentity Int) (lsn : Int) :
    Bool :=
  c.writeQuorum ≤ (c.holders (progressOf progress) lsn).length

def clientCommitReady (a : ManagedReplicaConfiguration) (progress : AssocMap ReplicaIdentity Int)
    (lsn : Int) : Bool :=
  hasQuorum a.currentConfiguration progress lsn &&
    a.previousConfiguration.all fun previous => hasQuorum previous progress lsn

def quorumProgress (c : ConfigurationDescriptor) (progress : AssocMap ReplicaIdentity Int) : Int :=
  ((c.members.map fun m => progressOf progress m.identity).insertionSort (· ≥ ·)).getD
    (c.writeQuorum - 1) 0

def deriveMustCatchUp (a : ManagedReplicaConfiguration) : List ReplicaIdentity :=
  let required := (a.scaleUp.map fun evidence => evidence.intent.target).toList
  match a.previousConfiguration, a.currentConfiguration.primaryMember with
  | some previous, some currentPrimary =>
    if previous.members.any fun m => m.identity == currentPrimary.identity && m.role == .primary
    then required
    else required ++ [currentPrimary.identity]
  | _, _ => required

structure QuorumTracker where
  authority : Option ManagedReplicaConfiguration
  progress : AssocMap ReplicaIdentity Int
  pending : AssocMap Int (List CompletionId)
  channels : Channels
  highestLsn : Int
  committedLsn : Int
  catchUpBoundary : Option Int
  mustCatchUp : List ReplicaIdentity
  sessions : AssocMap ReplicaIdentity ProcessSessionId
  obsoleteSessions : List (ReplicaIdentity × ProcessSessionId)
  verified : AssocMap ReplicaIdentity (Nat × Int)
  witnesses : AssocMap ReplicaIdentity SecondaryRemovalWitness
  liveCommits : AssocMap ReplicaIdentity SecondaryScaleDownCleanup

namespace QuorumTracker

def empty : QuorumTracker where
  authority := none
  progress := ∅
  pending := ∅
  channels := .empty
  highestLsn := 0
  committedLsn := 0
  catchUpBoundary := none
  mustCatchUp := []
  sessions := ∅
  obsoleteSessions := []
  verified := ∅
  witnesses := ∅
  liveCommits := ∅

/-- The senders that wait at `lsn`. -/
def waitingAt (t : QuorumTracker) (lsn : Int) : List CompletionId := (t.pending.get? lsn).getD []

/-- Take the senders that wait at the LSNs `lsns` and send each of them `value` of its LSN. -/
def release (t : QuorumTracker) (lsns : List Int) (value : Int → Result Int) : QuorumTracker :=
  { t with
    pending := t.pending.retain fun lsn _ => lsn ∉ lsns
    channels := t.channels.send (lsns.flatMap fun lsn =>
      (t.waitingAt lsn).map fun id => (id, value lsn)) }

/-- Take every waiting sender and send it `error`. -/
def drainPending (t : QuorumTracker) (error : RuntimeError) : QuorumTracker :=
  t.release t.pending.sortedKeys fun _ => .error error

def failPending (t : QuorumTracker) : QuorumTracker :=
  t.drainPending (.writeClosed .reconfigurationPending)

/-- Raise the progress of `identity` to at least `lsn`. -/
def raiseProgress (t : QuorumTracker) (identity : ReplicaIdentity) (lsn : Int) : QuorumTracker :=
  { t with progress := t.progress.upsert identity lsn fun progress => max progress lsn }

/-- The boundary that an authority has to catch up to, given the highest known LSN. -/
def boundaryOf (a : ManagedReplicaConfiguration) (highestLsn : Int) : Option Int :=
  (a.scaleUp.map fun evidence => evidence.intent.catchUpBoundaryLsn).or <|
    (a.secondaryRemoval.map fun evidence => evidence.preparation.boundaryLsn).or <|
      a.previousConfiguration.map fun _ => (a.switchoverHandoff.map (·.handoffLsn)).getD highestLsn

/-- Drop what belongs to another authority: the waiting writes, and the recorded progress unless
`a` completes a membership increase that is already tracked. -/
def supersede (t : QuorumTracker) (a : ManagedReplicaConfiguration) : QuorumTracker :=
  if t.authority.isSome ∧ t.authority ≠ some a then
    let drained := t.drainPending
      (.authorityMismatch "authority changed before the write committed")
    if t.authority.any fun existing => a.scaleUp.isSome && a.isCurrentOnlyCompletionOf existing then
      drained
    else { drained with progress := ∅, verified := ∅, witnesses := ∅, liveCommits := ∅ }
  else t

def configurePrevalidated (t : QuorumTracker) (a : ManagedReplicaConfiguration)
    (localProgress : Int) : QuorumTracker :=
  let kept := t.supersede a
  let highestLsn := max t.highestLsn localProgress
  { kept with
    authority := some a
    sessions := kept.sessions.retain fun identity _ => identity ∈ a.members
    progress := (kept.progress.retain fun identity _ => identity ∈ a.members).upsert
      a.localIdentity localProgress fun progress => max progress localProgress
    highestLsn := highestLsn
    catchUpBoundary :=
      if t.authority = some a then t.catchUpBoundary else boundaryOf a highestLsn
    mustCatchUp := if t.authority = some a then t.mustCatchUp else deriveMustCatchUp a }

/-- The other sessions of `identity` that the evidence of a removal has recorded. -/
def historicalSessions (a : ManagedReplicaConfiguration) (identity : ReplicaIdentity)
    (session : ProcessSessionId) : List (ReplicaIdentity × ProcessSessionId) :=
  ((a.secondaryRemoval.map fun evidence =>
    evidence.previousReadQuorum ++ evidence.reducedWriteQuorum).getD []).filterMap fun w =>
      if w.identity = identity ∧ w.processSessionId ≠ session then
        some (identity, w.processSessionId)
      else none

def registerPeerSession (t : QuorumTracker) (identity : ReplicaIdentity)
    (session : ProcessSessionId) : Result Unit × QuorumTracker :=
  match t.authority with
  | none => (.error .authorityNotAdmitted, t)
  | some a =>
    if session.isEmpty ∨ identity = a.localIdentity ∨ ¬ a.containsMember identity ∨
        (identity, session) ∈ t.obsoleteSessions then
      (.error (.authorityMismatch "invalid peer session identity"), t)
    else if t.sessions.get? identity = some session then (.ok (), t)
    else
      (.ok (), { t with
        obsoleteSessions := t.obsoleteSessions ++ historicalSessions a identity session ++
          ((t.sessions.get? identity).map fun previous => (identity, previous)).toList
        progress := t.progress.erase identity
        verified := t.verified.erase identity
        witnesses := t.witnesses.erase identity
        liveCommits := t.liveCommits.erase identity
        sessions := t.sessions.insert identity session })

def recordVerifiedLocalProgress (t : QuorumTracker) (lsn : Int) : QuorumTracker :=
  match t.authority with
  | none => t
  | some a => { t with verified := t.verified.insert a.localIdentity (0, lsn) }

def registerWrite (t : QuorumTracker) (lsn : Int) : Result CompletionId × QuorumTracker :=
  match t.authority with
  | none => (.error .authorityNotAdmitted, t)
  | some _ =>
    let (completion, channels) := t.channels.channel
    (.ok completion, { t with
      highestLsn := max t.highestLsn lsn
      channels := channels
      pending := t.pending.upsert lsn [completion] fun senders => senders ++ [completion] })

def recordLocalProgress (t : QuorumTracker) (lsn : Int) : Result Unit × QuorumTracker :=
  match t.authority with
  | none => (.error .authorityNotAdmitted, t)
  | some a => (.ok (), { t.raiseProgress a.localIdentity lsn with
      highestLsn := max t.highestLsn lsn })

def recordPreparedBuildHandoffProgress (t : QuorumTracker) (identity : ReplicaIdentity)
    (lsn : Int) : QuorumTracker :=
  { t.raiseProgress identity lsn with highestLsn := max t.highestLsn lsn }

def acknowledge (t : QuorumTracker) (ack : ReplicationAck) : Result Unit × QuorumTracker :=
  match t.authority with
  | none => (.error .authorityNotAdmitted, t)
  | some a =>
    match a.validateAcknowledgement ack with
    | .error e => (.error e, t)
    | .ok () => (.ok (), t.raiseProgress ack.receiver ack.appliedLsn)

def acknowledgeInSession (t : QuorumTracker) (ack : ReplicationAck) (session : ProcessSessionId) :
    Result Unit × QuorumTracker :=
  if t.sessions.get? ack.receiver ≠ some session then
    (.error (.authorityMismatch "acknowledgement belongs to an obsolete peer session"), t)
  else t.acknowledge ack

def currentConfigurationQuorumProgress (t : QuorumTracker) : Int :=
  (t.authority.map fun a => quorumProgress a.currentConfiguration t.progress).getD 0

def catchUpComplete (t : QuorumTracker) : Bool :=
  match t.authority.bind fun a => a.secondaryRemoval.map fun evidence => (a, evidence) with
  | some (a, evidence) =>
    let boundary := evidence.preparation.boundaryLsn
    let caughtUp := fun identity => (t.verified.get? identity).any fun v => boundary ≤ v.2
    a.primaryIdentity.any caughtUp && a.currentConfiguration.writeQuorum ≤
      (a.currentConfiguration.members.filter fun m => caughtUp m.identity).length
  | none =>
    match t.catchUpBoundary with
    | none => true
    | some boundary =>
      let quorumProgress := t.currentConfigurationQuorumProgress
      boundary ≤ quorumProgress && t.mustCatchUp.all fun identity =>
        (t.progress.get? identity).any fun progress => quorumProgress ≤ progress

/-- The highest waiting LSN that has a quorum in both configurations. -/
def readyCommitLsn (t : QuorumTracker) : Option Int :=
  t.authority.bind fun a => (t.pending.keys.filter (clientCommitReady a t.progress)).max?

/-- Complete the writes that wait at or below `committedLsn`, each with its own LSN. -/
def completeThrough (t : QuorumTracker) (committedLsn : Int) : QuorumTracker :=
  t.release (t.pending.sortedKeys.takeWhile (· ≤ committedLsn)) .ok

def finalizeCommit (t : QuorumTracker) (committedLsn : Int) : Result Unit × QuorumTracker :=
  match t.readyCommitLsn with
  | none => (.error (.application "no quorum-ready write can be finalized"), t)
  | some ready =>
    if committedLsn > ready then
      (.error (.application "application commit exceeds quorum-ready progress"), t)
    else
      (.ok (), { t.completeThrough committedLsn with
        committedLsn := max t.committedLsn committedLsn })

def restoreCommittedLsn (t : QuorumTracker) (committedLsn : Int) : QuorumTracker :=
  { t.completeThrough committedLsn with
    highestLsn := max t.highestLsn committedLsn
    committedLsn := max t.committedLsn committedLsn }

def resetProgressAfterDataLoss (t : QuorumTracker) (localIdentity : ReplicaIdentity)
    (currentProgress committedLsn : Int) : QuorumTracker :=
  { t.failPending with
    progress := (∅ : AssocMap ReplicaIdentity Int).insert localIdentity currentProgress
    highestLsn := currentProgress
    committedLsn := committedLsn
    catchUpBoundary := none
    mustCatchUp := []
    sessions := ∅
    verified := ∅
    witnesses := ∅ }

/-! ## Readiness -/

theorem hasQuorum_of_le {c : ConfigurationDescriptor} {progress : AssocMap ReplicaIdentity Int}
    {lsn lsn' : Int} (h : hasQuorum c progress lsn' = true) (hle : lsn ≤ lsn') :
    hasQuorum c progress lsn = true := by
  simp only [hasQuorum, decide_eq_true_eq] at h ⊢
  refine h.trans (List.Sublist.length_le (List.monotone_filter_right _ fun m hm => ?_))
  exact decide_eq_true (hle.trans (of_decide_eq_true hm))

theorem clientCommitReady_of_le {a : ManagedReplicaConfiguration}
    {progress : AssocMap ReplicaIdentity Int} {lsn lsn' : Int}
    (h : clientCommitReady a progress lsn' = true) (hle : lsn ≤ lsn') :
    clientCommitReady a progress lsn = true := by
  simp only [clientCommitReady, Bool.and_eq_true] at h ⊢
  refine ⟨hasQuorum_of_le h.1 hle, ?_⟩
  cases hp : a.previousConfiguration with
  | none => rfl
  | some previous =>
    rw [hp] at h
    exact hasQuorum_of_le h.2 hle

/-- What is ready to commit has a quorum in both configurations, and so has everything below. -/
theorem clientCommitReady_of_le_ready {t : QuorumTracker} {ready lsn : Int}
    (h : t.readyCommitLsn = some ready) (hle : lsn ≤ ready) :
    ∃ a, t.authority = some a ∧ clientCommitReady a t.progress lsn = true := by
  obtain ⟨a, ha, hmax⟩ := Option.bind_eq_some_iff.1 h
  have hready := (List.mem_filter.1 (List.max?_mem hmax)).2
  exact ⟨a, ha, clientCommitReady_of_le hready hle⟩

end QuorumTracker

end Kuberic
