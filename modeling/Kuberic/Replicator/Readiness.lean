import Kuberic.Replicator.CatchUp
import Kuberic.Replicator.Channels

/-!
# Readiness of waiting writes

The tracker has two quorum tests.  Catch-up takes the progress that the last member of a write quorum
has reached; the completion of a write counts the members that hold its LSN.  The two agree, and
within one authority a write that is ready stays ready, with every write before it.
-/

namespace Kuberic

/-- The operations that record progress of an admitted authority, or a new write. -/
def TrackerOp.Advances : TrackerOp → Prop
  | recordVerifiedLocalProgress _ | registerWrite _ | recordLocalProgress _
  | recordPreparedBuildHandoffProgress .. | acknowledge _ | acknowledgeInSession .. => True
  | _ => False

namespace QuorumTracker

variable {t t' : QuorumTracker} {a : ManagedReplicaConfiguration} {lsn : Int}

/-- The authority is the same, no waiting write is gone, and what the members hold has grown. -/
structure Grows (t t' : QuorumTracker) : Prop where
  authority : t'.authority = t.authority
  pending : ∀ lsn ∈ t.pending.keys, lsn ∈ t'.pending.keys
  progress : ∀ identity lsn, 1 ≤ lsn → lsn ≤ progressOf t.progress identity →
    lsn ≤ progressOf t'.progress identity

theorem Grows.refl (t : QuorumTracker) : Grows t t :=
  ⟨rfl, fun _ h => h, fun _ _ _ h => h⟩

theorem Grows.trans {t'' : QuorumTracker} (h : Grows t t') (h' : Grows t' t'') : Grows t t'' :=
  ⟨h'.authority.trans h.authority, fun lsn hlsn => h'.pending lsn (h.pending lsn hlsn),
    fun identity lsn hpos hle => h'.progress identity lsn hpos (h.progress identity lsn hpos hle)⟩

/-- An absent entry counts as zero, so that recording even a negative LSN takes nothing away. -/
theorem progressOf_raiseProgress (t : QuorumTracker) (identity identity' : ReplicaIdentity)
    (lsn lsn' : Int) (hpos : 1 ≤ lsn') (hle : lsn' ≤ progressOf t.progress identity') :
    lsn' ≤ progressOf (t.raiseProgress identity lsn).progress identity' := by
  simp only [progressOf, raiseProgress, AssocMap.get?_upsert] at hle ⊢
  split_ifs with heq
  · subst heq
    cases hget : t.progress.get? identity' with
    | none =>
      simp only [hget, Option.getD_none] at hle
      omega
    | some progress =>
      simp only [hget, Option.getD_some] at hle
      exact hle.trans (le_max_left progress lsn)
  · exact hle

theorem grows_raiseProgress (t : QuorumTracker) (identity : ReplicaIdentity) (lsn : Int) :
    Grows t (t.raiseProgress identity lsn) :=
  ⟨rfl, fun _ h => h, fun identity' => t.progressOf_raiseProgress identity identity' lsn⟩

theorem grows_acknowledge (t : QuorumTracker) (ack : ReplicationAck) :
    Grows t (t.acknowledge ack).2 := by
  unfold acknowledge
  split
  · exact .refl t
  · split
    · exact .refl t
    · exact t.grows_raiseProgress ack.receiver ack.appliedLsn

theorem grows_registerWrite (t : QuorumTracker) (lsn : Int) : Grows t (t.registerWrite lsn).2 := by
  unfold registerWrite
  split
  · exact .refl t
  · refine ⟨rfl, fun lsn' hlsn' => ?_, fun _ _ _ h => h⟩
    rw [AssocMap.mem_keys_iff] at hlsn' ⊢
    simp only [AssocMap.get?_upsert]
    split_ifs
    · exact ⟨_, rfl⟩
    · exact hlsn'

section

variable [Sha256]

theorem grows_apply {op : TrackerOp} (hop : op.Advances) (t : QuorumTracker) :
    Grows t (t.apply op) := by
  cases op with
  | recordVerifiedLocalProgress lsn =>
    simp only [apply, recordVerifiedLocalProgress]
    split
    · exact .refl t
    · exact ⟨rfl, fun _ h => h, fun _ _ _ h => h⟩
  | registerWrite lsn => exact t.grows_registerWrite lsn
  | recordLocalProgress lsn =>
    simp only [apply, recordLocalProgress]
    split
    · exact .refl t
    next a _ =>
      have hraise := t.grows_raiseProgress a.localIdentity lsn
      exact ⟨hraise.authority, hraise.pending, hraise.progress⟩
  | recordPreparedBuildHandoffProgress identity lsn =>
    have hraise := t.grows_raiseProgress identity lsn
    exact ⟨hraise.authority, hraise.pending, hraise.progress⟩
  | acknowledge ack => exact t.grows_acknowledge ack
  | acknowledgeInSession ack session =>
    simp only [apply, acknowledgeInSession]
    split
    · exact .refl t
    · exact t.grows_acknowledge ack
  | _ => cases hop

theorem grows_foldl_apply {ops : List TrackerOp} (hops : ∀ op ∈ ops, op.Advances)
    (t : QuorumTracker) : Grows t (ops.foldl apply t) := by
  induction ops generalizing t with
  | nil => exact .refl t
  | cons op ops ih =>
    obtain ⟨hop, hrest⟩ := List.forall_mem_cons.1 hops
    exact (grows_apply hop t).trans (ih hrest (t.apply op))

end

theorem Grows.hasQuorum (h : Grows t t') (hpos : 1 ≤ lsn) {c : ConfigurationDescriptor}
    (hquorum : hasQuorum c t.progress lsn = true) : Kuberic.hasQuorum c t'.progress lsn = true := by
  simp only [Kuberic.hasQuorum, decide_eq_true_eq] at hquorum ⊢
  refine hquorum.trans (List.Sublist.length_le (List.monotone_filter_right _ fun m hm => ?_))
  exact decide_eq_true (h.progress m.identity lsn hpos (of_decide_eq_true hm))

theorem Grows.clientCommitReady (h : Grows t t') (hpos : 1 ≤ lsn)
    (hready : clientCommitReady a t.progress lsn = true) :
    Kuberic.clientCommitReady a t'.progress lsn = true := by
  simp only [Kuberic.clientCommitReady, Bool.and_eq_true, Option.all_eq_true] at hready ⊢
  exact ⟨h.hasQuorum hpos hready.1, fun previous hp => h.hasQuorum hpos (hready.2 previous hp)⟩

theorem ready_of_mem_sent {ready : Int} (hauthority : t.authority = some a)
    (hready : t.readyCommitLsn = some ready) {id : CompletionId} {value : Result Int}
    (hsent : (id, value) ∈ (t.finalizeCommit ready).2.channels.sent) :
    (id, value) ∈ t.channels.sent ∨ ∃ lsn, value = .ok lsn ∧ id ∈ t.waitingAt lsn ∧
      clientCommitReady a t.progress lsn = true := by
  have hfinal : (t.finalizeCommit ready).2.channels = (t.completeThrough ready).channels := by
    simp [finalizeCommit, hready]
  rw [hfinal, completeThrough, mem_sent_release] at hsent
  rcases hsent with hsent | ⟨lsn, hlsn, hwaiting, hvalue⟩
  · exact .inl hsent
  · have hle : lsn ≤ ready := ((AssocMap.mem_takeWhile_sortedKeys _ _ _).1 hlsn).2
    obtain ⟨a', ha', hcommit⟩ := clientCommitReady_of_le_ready hready hle
    obtain rfl : a = a' := Option.some.inj (hauthority.symm.trans ha')
    exact .inr ⟨lsn, hvalue, hwaiting, hcommit⟩

/-- The two quorum tests agree.  In one authority a waiting write that is ready has only ready writes
before it, and they all stay ready while progress is recorded; a commit at the ready LSN completes
no write without its quorums. -/
theorem quorumTests_agree [Sha256] :
    (∀ (c : ConfigurationDescriptor) (progress : AssocMap ReplicaIdentity Int) (lsn : Int),
      1 ≤ c.writeQuorum → c.writeQuorum ≤ c.members.length →
        (lsn ≤ quorumProgress c progress ↔ hasQuorum c progress lsn = true)) ∧
    (∀ (t : QuorumTracker) (a : ManagedReplicaConfiguration) (ready : Int),
      t.authority = some a → clientCommitReady a t.progress ready = true →
      ∀ lsn ∈ t.pending.keys, lsn ≤ ready →
        clientCommitReady a t.progress lsn = true ∧
        ∀ ops : List TrackerOp, (∀ op ∈ ops, op.Advances) → 1 ≤ lsn →
          (ops.foldl apply t).authority = some a ∧ lsn ∈ (ops.foldl apply t).pending.keys ∧
            clientCommitReady a (ops.foldl apply t).progress lsn = true) ∧
    ∀ (t : QuorumTracker) (ready : Int), t.readyCommitLsn = some ready →
      (t.finalizeCommit ready).1 = .ok () ∧ ∃ a, t.authority = some a ∧
        ∀ id value, (id, value) ∈ (t.finalizeCommit ready).2.channels.sent →
          (id, value) ∈ t.channels.sent ∨ ∃ lsn, value = .ok lsn ∧ id ∈ t.waitingAt lsn ∧
            clientCommitReady a t.progress lsn = true := by
  refine ⟨?_, ?_, ?_⟩
  · intro c progress lsn hpos hle
    rw [hasQuorum, decide_eq_true_eq]
    exact le_quorumProgress_iff progress hpos hle lsn
  · intro t a ready hauthority hready lsn hlsn hle
    have hnow := clientCommitReady_of_le hready hle
    refine ⟨hnow, fun ops hops hpos => ?_⟩
    have hgrows := grows_foldl_apply hops t
    exact ⟨hgrows.authority.trans hauthority, hgrows.pending lsn hlsn,
      hgrows.clientCommitReady hpos hnow⟩
  · intro t ready hready
    obtain ⟨a, hauthority, -⟩ := clientCommitReady_of_le_ready hready le_rfl
    refine ⟨by simp [finalizeCommit, hready], a, hauthority, fun id value hsent => ?_⟩
    exact ready_of_mem_sent hauthority hready hsent

end QuorumTracker

namespace QuorumTracker.ResetDuringIncrease

attribute [local instance] checksum

open ThreeToFour

/-- Three members of the increase hold a write that waits. -/
def waiting : QuorumTracker :=
  QuorumTracker.run (configured ++ [.registerWrite 7, .acknowledge (ack 1), .acknowledge (ack 3)])

theorem quorumTests_agree_increase :
    hasQuorum intent.currentConfiguration waiting.progress 7 = true ∧
    clientCommitReady authority.managed ([.acknowledge (ack 4)].foldl apply waiting).progress 7 =
      true ∧
    (waiting.finalizeCommit 7).1 = .ok () := by
  obtain ⟨hagree, hstays, hcommit⟩ := quorumTests_agree
  refine ⟨(hagree intent.currentConfiguration waiting.progress 7 (by decide +kernel)
    (by decide +kernel)).1 (by decide +kernel), ?_, (hcommit waiting 7 (by decide +kernel)).1⟩
  have hready := (hstays waiting authority.managed 7 (by decide +kernel) (by decide +kernel) 7
    (by decide +kernel) le_rfl).2 [.acknowledge (ack 4)]
  exact (hready (by simp [TrackerOp.Advances]) (by decide)).2.2

end QuorumTracker.ResetDuringIncrease

end Kuberic
