import Kuberic.Replicator.Log

/-!
# The channels of the quorum tracker

What each tracker operation does to the waiting senders.  Every operation leaves them alone, or
takes the senders that wait at some LSNs and sends each of them one value (`release`), or adds one
fresh sender; `ChannelInv` (no sender waits twice, a waiting sender has sent nothing, nothing is
sent twice) survives all three.
-/

namespace Kuberic

namespace QuorumTracker

variable {t t' : QuorumTracker}

/-- The identifiers on which a value has been sent. -/
def sentIds (t : QuorumTracker) : List CompletionId := t.channels.sent.map Prod.fst

/-- The waiting senders and the channels are those of `t`. -/
def SameChannels (t t' : QuorumTracker) : Prop := t'.pending = t.pending ∧ t'.channels = t.channels

theorem SameChannels.waitingAt (h : SameChannels t t') (lsn : Int) :
    t'.waitingAt lsn = t.waitingAt lsn := by
  rw [QuorumTracker.waitingAt, h.1]
  rfl

/-! ## Releasing senders -/

theorem waitingAt_release (t : QuorumTracker) (lsns : List Int) (value : Int → Result Int)
    (lsn : Int) :
    (t.release lsns value).waitingAt lsn = if lsn ∈ lsns then [] else t.waitingAt lsn := by
  simp only [QuorumTracker.waitingAt, release, AssocMap.get?_retain]
  split_ifs with h <;> cases t.pending.get? lsn <;> simp [Option.filter, h]

theorem mem_sent_release {lsns : List Int} {value : Int → Result Int}
    {p : CompletionId × Result Int} :
    p ∈ (t.release lsns value).channels.sent ↔
      p ∈ t.channels.sent ∨ ∃ lsn ∈ lsns, p.1 ∈ t.waitingAt lsn ∧ p.2 = value lsn := by
  obtain ⟨id, r⟩ := p
  simp only [release, Channels.send, List.mem_append, List.mem_flatMap, List.mem_map,
    Prod.mk.injEq]
  refine or_congr_right (exists_congr fun lsn => and_congr_right fun _ => ?_)
  constructor
  · rintro ⟨a, ha, rfl, rfl⟩
    exact ⟨ha, rfl⟩
  · rintro ⟨ha, rfl⟩
    exact ⟨id, ha, rfl, rfl⟩

theorem release_nil (t : QuorumTracker) (value : Int → Result Int) :
    SameChannels t (t.release [] value) := by
  constructor <;> simp [release, Channels.send]

theorem mem_keys_of_mem_waitingAt {id : CompletionId} {lsn : Int} (h : id ∈ t.waitingAt lsn) :
    lsn ∈ t.pending.keys := by
  rw [AssocMap.mem_keys_iff]
  unfold QuorumTracker.waitingAt at h
  cases hg : t.pending.get? lsn with
  | none => simp [hg] at h
  | some senders => exact ⟨senders, rfl⟩

theorem sortedKeys_nodup (t : QuorumTracker) : t.pending.sortedKeys.Nodup :=
  (List.perm_insertionSort _ _).nodup_iff.2 t.pending.nodup

/-! ## The channel discipline -/

structure ChannelInv (t : QuorumTracker) : Prop where
  waiting_nodup : ∀ lsn, (t.waitingAt lsn).Nodup
  waiting_unique : ∀ {id lsn lsn'}, id ∈ t.waitingAt lsn → id ∈ t.waitingAt lsn' → lsn = lsn'
  waiting_unsent : ∀ {id lsn}, id ∈ t.waitingAt lsn → id ∉ t.sentIds
  waiting_created : ∀ {id lsn}, id ∈ t.waitingAt lsn → id < t.channels.created
  sent_created : ∀ {id}, id ∈ t.sentIds → id < t.channels.created
  sent_nodup : t.sentIds.Nodup

theorem channelInv_empty : ChannelInv empty where
  waiting_nodup _ := List.nodup_nil
  waiting_unique h := absurd h List.not_mem_nil
  waiting_unsent h := absurd h List.not_mem_nil
  waiting_created h := absurd h List.not_mem_nil
  sent_created h := absurd h List.not_mem_nil
  sent_nodup := List.nodup_nil

theorem ChannelInv.congr (inv : ChannelInv t) (h : SameChannels t t') : ChannelInv t' := by
  have hs : t'.sentIds = t.sentIds := by rw [sentIds, h.2, sentIds]
  constructor
  · intro lsn
    rw [h.waitingAt]
    exact inv.waiting_nodup lsn
  · intro id lsn lsn' h₁ h₂
    rw [h.waitingAt] at h₁ h₂
    exact inv.waiting_unique h₁ h₂
  · intro id lsn h₁
    rw [h.waitingAt] at h₁
    rw [hs]
    exact inv.waiting_unsent h₁
  · intro id lsn h₁
    rw [h.waitingAt] at h₁
    rw [h.2]
    exact inv.waiting_created h₁
  · intro id h₁
    rw [hs] at h₁
    rw [h.2]
    exact inv.sent_created h₁
  · rw [hs]
    exact inv.sent_nodup

theorem sentIds_release (t : QuorumTracker) (lsns : List Int) (value : Int → Result Int) :
    (t.release lsns value).sentIds = t.sentIds ++ lsns.flatMap t.waitingAt := by
  simp [sentIds, release, Channels.send, List.map_flatMap, Function.comp_def]

theorem ChannelInv.release (inv : ChannelInv t) {lsns : List Int} (hl : lsns.Nodup)
    (value : Int → Result Int) : ChannelInv (t.release lsns value) := by
  have hwait : ∀ {id lsn}, id ∈ (t.release lsns value).waitingAt lsn →
      id ∈ t.waitingAt lsn ∧ lsn ∉ lsns := by
    intro id lsn h
    rw [waitingAt_release] at h
    split_ifs at h with hm
    · exact absurd h List.not_mem_nil
    · exact ⟨h, hm⟩
  constructor
  · intro lsn
    rw [waitingAt_release]
    split_ifs
    · exact List.nodup_nil
    · exact inv.waiting_nodup lsn
  · intro id lsn lsn' h₁ h₂
    exact inv.waiting_unique (hwait h₁).1 (hwait h₂).1
  · intro id lsn h
    obtain ⟨hid, hn⟩ := hwait h
    rw [sentIds_release, List.mem_append, List.mem_flatMap]
    rintro (hs | ⟨lsn', hl', hid'⟩)
    · exact inv.waiting_unsent hid hs
    · exact hn (inv.waiting_unique hid hid' ▸ hl')
  · intro id lsn h
    exact inv.waiting_created (hwait h).1
  · intro id h
    rw [sentIds_release, List.mem_append, List.mem_flatMap] at h
    obtain hs | ⟨lsn', -, hid⟩ := h
    · exact inv.sent_created hs
    · exact inv.waiting_created hid
  · rw [sentIds_release, List.nodup_append']
    refine ⟨inv.sent_nodup, ?_, ?_⟩
    · rw [List.nodup_flatMap]
      refine ⟨fun lsn _ => inv.waiting_nodup lsn, hl.imp fun {a b} hab => ?_⟩
      intro id ha hb
      exact hab (inv.waiting_unique ha hb)
    · intro id hs hr
      obtain ⟨lsn, -, hid⟩ := List.mem_flatMap.1 hr
      exact inv.waiting_unsent hid hs

end QuorumTracker

end Kuberic
