import Kuberic.Replicator.LogOps

/-!
# Registration of a local write

`ensureLocalWriteRegistered` fails and changes nothing, or hands out one fresh completion.
`Registration` states all it does in the second case: the completion waits at its LSN, or is
resolved at once when that LSN is already committed.
-/

namespace Kuberic

open QuorumTracker

/-- What a successful registration of `operation` does to the log. -/
structure Registration (log log' : ReplicationLog) (operation : Operation)
    (prepared : PreparedWrite) (a : ManagedReplicaConfiguration) : Prop where
  authority : log.authority = some a
  epoch : a.currentConfiguration.epoch = log.epoch
  role : log.role = .primary
  lsn : prepared.lsn = operation.lsn
  completion : prepared.completion = log.quorum.channels.created
  items : log.replicationItems operation = .ok prepared.items
  localIdentity_after : log'.localIdentity = log.localIdentity
  progress_after : log'.quorum.progress =
    (log.quorum.raiseProgress a.localIdentity operation.lsn).progress
  authority_after : log'.authority = log.authority
  quorumAuthority_after : log'.quorum.authority = log.quorum.authority
  epoch_after : log'.epoch = log.epoch
  role_after : log'.role = log.role
  committedLsn_after : log'.quorum.committedLsn = log.quorum.committedLsn
  created_after : log'.quorum.channels.created = log.quorum.channels.created + 1
  channels : (operation.lsn ≤ log.quorum.committedLsn ∧
      log'.quorum.pending = log.quorum.pending ∧
      log'.quorum.channels.sent =
        log.quorum.channels.sent ++ [(log.quorum.channels.created, .ok operation.lsn)]) ∨
    (log.quorum.committedLsn < operation.lsn ∧
      log'.quorum.pending = log.quorum.pending.upsert operation.lsn [log.quorum.channels.created]
        (fun senders => senders ++ [log.quorum.channels.created]) ∧
      log'.quorum.channels.sent = log.quorum.channels.sent)

theorem ensureLocalWriteRegistered_cases (log : ReplicationLog) (operation : Operation)
    (hq : log.quorum.authority = log.authority) :
    (∃ e, log.ensureLocalWriteRegistered operation = (.error e, log)) ∨
      ∃ prepared log' a, log.ensureLocalWriteRegistered operation = (.ok prepared, log') ∧
        Registration log log' operation prepared a := by
  unfold ReplicationLog.ensureLocalWriteRegistered
  split_ifs with h₁ h₂ h₃
  · exact .inl ⟨_, rfl⟩
  · exact .inl ⟨_, rfl⟩
  · exact .inl ⟨_, rfl⟩
  · right
    simp only [not_or, not_not, Bool.not_eq_true', Bool.not_eq_false] at h₁ h₂
    obtain ⟨a, ha, he⟩ := Option.map_eq_some_iff.1 h₂
    rw [ha] at hq
    simp only [QuorumTracker.recordLocalProgress, hq, ReplicationLog.completionFor,
      QuorumTracker.registerWrite, raiseProgress, Channels.channel, Channels.send,
      ReplicationLog.replicationItems, ha]
    by_cases hc : operation.lsn ≤ log.quorum.committedLsn
    · simp only [hc, if_true]
      exact ⟨_, _, a, rfl, ha, he, h₁.2, rfl, rfl, by simp only [ReplicationLog.replicationItems, ha],
        rfl, rfl, ha.symm, hq.symm, rfl, rfl, rfl, rfl,
        .inl ⟨hc, rfl, rfl⟩⟩
    · simp only [hc, if_false]
      exact ⟨_, _, a, rfl, ha, he, h₁.2, rfl, rfl, by simp only [ReplicationLog.replicationItems, ha],
        rfl, rfl, ha.symm, hq.symm, rfl, rfl, rfl, rfl,
        .inr ⟨not_le.1 hc, rfl, rfl⟩⟩

namespace Registration

variable {log log' : ReplicationLog} {operation : Operation} {prepared : PreparedWrite}
  {a : ManagedReplicaConfiguration}

theorem waitingAt (reg : Registration log log' operation prepared a) (l : Int) :
    log'.quorum.waitingAt l =
      if l = operation.lsn ∧ log.quorum.committedLsn < operation.lsn then
        log.quorum.waitingAt l ++ [log.quorum.channels.created]
      else log.quorum.waitingAt l := by
  obtain ⟨hle, hp, -⟩ | ⟨hlt, hp, -⟩ := reg.channels
  · simp [QuorumTracker.waitingAt, hp, not_lt.2 hle]
  · simp only [QuorumTracker.waitingAt, hp, AssocMap.get?_upsert, hlt, and_true]
    split_ifs with h
    · subst h
      cases log.quorum.pending.get? operation.lsn <;> rfl
    · rfl

/-- The senders that wait after a registration: those that waited, and the new one if its LSN is
not committed yet. -/
theorem mem_waitingAt (reg : Registration log log' operation prepared a) {id : CompletionId}
    {l : Int} : id ∈ log'.quorum.waitingAt l ↔ id ∈ log.quorum.waitingAt l ∨
      (id = log.quorum.channels.created ∧ l = operation.lsn ∧
        log.quorum.committedLsn < operation.lsn) := by
  rw [reg.waitingAt]
  split_ifs with h <;> simp [h]

theorem mem_items (reg : Registration log log' operation prepared a) {item : ReplicationItem}
    (h : item ∈ prepared.items) : item.lsn = operation.lsn ∧ item.data = operation.data := by
  have hitems := reg.items
  simp only [ReplicationLog.replicationItems, reg.authority] at hitems
  rw [← Except.ok.inj hitems] at h
  obtain ⟨receiver, -, rfl⟩ := List.mem_map.1 h
  exact ⟨rfl, rfl⟩

theorem mem_sent (reg : Registration log log' operation prepared a)
    {p : CompletionId × Result Int} : p ∈ log'.quorum.channels.sent ↔
      p ∈ log.quorum.channels.sent ∨ (p = (log.quorum.channels.created, .ok operation.lsn) ∧
        operation.lsn ≤ log.quorum.committedLsn) := by
  obtain ⟨hle, -, hs⟩ | ⟨hlt, -, hs⟩ := reg.channels
  · simp [hs, hle]
  · simp [hs, not_le.2 hlt]

theorem mem_sentIds (reg : Registration log log' operation prepared a) {id : CompletionId} :
    id ∈ log'.quorum.sentIds ↔ id ∈ log.quorum.sentIds ∨
      (id = log.quorum.channels.created ∧ operation.lsn ≤ log.quorum.committedLsn) := by
  obtain ⟨hle, -, hs⟩ | ⟨hlt, -, hs⟩ := reg.channels
  · simp [sentIds, hs, hle]
  · simp [sentIds, hs, not_le.2 hlt]

theorem channelInv (reg : Registration log log' operation prepared a)
    (inv : ChannelInv log.quorum) : ChannelInv log'.quorum := by
  have hfresh : ∀ {l}, log.quorum.channels.created ∉ log.quorum.waitingAt l :=
    fun h => (inv.waiting_created h).false
  have hunsent : log.quorum.channels.created ∉ log.quorum.sentIds :=
    fun h => (inv.sent_created h).false
  constructor
  · intro l
    rw [reg.waitingAt]
    split_ifs
    · exact (inv.waiting_nodup l).append (List.nodup_singleton _)
        (List.disjoint_singleton.2 hfresh)
    · exact inv.waiting_nodup l
  · intro id l l' h h'
    obtain h | ⟨rfl, rfl, -⟩ := reg.mem_waitingAt.1 h
    · obtain h' | ⟨rfl, -⟩ := reg.mem_waitingAt.1 h'
      · exact inv.waiting_unique h h'
      · exact absurd h hfresh
    · obtain h' | ⟨-, rfl, -⟩ := reg.mem_waitingAt.1 h'
      · exact absurd h' hfresh
      · rfl
  · intro id l h hs
    obtain h | ⟨rfl, rfl, hlt⟩ := reg.mem_waitingAt.1 h
    · obtain hs | ⟨rfl, -⟩ := reg.mem_sentIds.1 hs
      · exact inv.waiting_unsent h hs
      · exact hfresh h
    · obtain hs | ⟨-, hle⟩ := reg.mem_sentIds.1 hs
      · exact hunsent hs
      · exact absurd hlt (not_lt.2 hle)
  · intro id l h
    rw [reg.created_after]
    obtain h | ⟨rfl, -⟩ := reg.mem_waitingAt.1 h
    · exact (inv.waiting_created h).trans (Nat.lt_succ_self _)
    · exact Nat.lt_succ_self _
  · intro id h
    rw [reg.created_after]
    obtain h | ⟨rfl, -⟩ := reg.mem_sentIds.1 h
    · exact (inv.sent_created h).trans (Nat.lt_succ_self _)
    · exact Nat.lt_succ_self _
  · obtain ⟨-, -, hs⟩ | ⟨-, -, hs⟩ := reg.channels
    · rw [sentIds, hs, List.map_append]
      exact inv.sent_nodup.append (List.nodup_singleton _) (List.disjoint_singleton.2 hunsent)
    · rw [sentIds, hs]
      exact inv.sent_nodup

end Registration

end Kuberic
