import Kuberic.Protocol.RemovalCertificate
import Kuberic.Runtime.Copy

/-!
# Runs of a build

The source and the target of one build with the network between them: items are lost, repeated and
reordered and come from any number of attempts, and so do their acknowledgements; either side is
fenced, restarted or stopped inside a call.  All attempts stream the same snapshot, which is what the
contract of the copied application asks for.

The durable progress of the target is what its storage holds, it only grows, and what the source
records never exceeds it.
-/

namespace Kuberic

open DurableState CopyState

/-- What the attempts of one build stream: the same chunks, and operations of one log. -/
structure CopyStream where
  authority : BuildAuthority
  chunks : List Bytes
  log : Int → Bytes

variable {i : CopyItem} {store : BuildStore}

namespace CopyStream

variable (c : CopyStream)

abbrev buildId : OperationId := c.authority.buildId

abbrev boundary : Int := c.authority.replicationBoundaryLsn

/-- The items that an attempt can send. -/
def Sends (i : CopyItem) : Prop :=
  (∃ k data, c.chunks[k]? = some data ∧ i = copySnapshotItem c.authority (k + 1) data) ∨
    (∃ catchUp, i = copyFinalItem c.authority (c.chunks.length + 1) catchUp) ∨
    ∃ sequence operation, operation.data = c.log operation.lsn ∧
      i = copyOperationItem c.authority sequence operation

variable {c} in
theorem Sends.buildId (hi : c.Sends i) : i.buildId = c.buildId := by
  rcases hi with ⟨k, data, -, rfl⟩ | ⟨catchUp, rfl⟩ | ⟨sequence, operation, -, rfl⟩ <;> rfl

section

variable [Sha256]

theorem validate_boundary {a : BuildAuthority} (h : a.validate = .ok ()) :
    0 ≤ a.replicationBoundaryLsn := by
  unfold BuildAuthority.validate at h
  cases hkind : a.kind <;>
    · simp only [hkind, Check.then_eq_ok, Check.rejectIf_eq_ok, not_lt] at h
      exact h.2.2.2

theorem copyProgress_eq_ok {σ : Type} {t : BuildTarget σ} {m : BuildProgress}
    (h : t.copyProgress i = .ok m) :
    t.builds.get? i.buildId = some m ∧ 0 ≤ m.authority.replicationBoundaryLsn ∧
      ¬WrongPhase m i ∧ i.sequence ≤ m.lastSequence + 1 := by
  simp only [BuildTarget.copyProgress, Check.then_eq_ok, Check.rejectIf_eq_ok,
    Check.demand_bind_eq_ok, not_not, not_lt] at h
  obtain ⟨-, -, -, m', hm, _, -, -, a, -, ha, hvalid, -, -, hphase, hgap, hm'⟩ := h
  cases hm'
  exact ⟨hm, ha ▸ validate_boundary (mismatch_eq_ok.mp hvalid), hphase, hgap⟩

end

/-! ## The durable progress of the target -/

/-- The progress of the target: so many chunks, or the whole snapshot and so many operations. -/
structure Reached (p : BuildProgress) : Prop where
  authority : p.authority = c.authority
  phase : (p.completed = false ∧ p.durableLsn = 0 ∧ p.catchUpBoundaryLsn = none ∧
      p.lastSequence ≤ c.chunks.length) ∨
    (p.completed = true ∧ p.catchUpBoundaryLsn.isSome ∧ 0 ≤ c.boundary ∧
      ∃ n : Nat, p.lastSequence = c.chunks.length + 1 + n ∧ p.durableLsn = c.boundary + n)

variable {σ : Type} [DurableState σ] [LawfulDurableState σ] [CopyState σ] [LawfulCopyState σ]

/-- The storage holds what the progress says, and installs nothing before the last chunk. -/
structure Stored (s : σ) (p : BuildProgress) : Prop where
  chunk : ∀ k data, c.chunks[k]? = some data → k < p.lastSequence →
    copied s c.buildId (k + 1) = some data
  only : ∀ n data, copied s c.buildId n = some data → ∃ k, n = k + 1 ∧ c.chunks[k]? = some data
  early : installed s c.buildId → c.chunks.length ≤ p.lastSequence
  snapshot : p.completed = true → installed s c.buildId
  operations : p.completed = true → ∀ lsn, c.boundary < lsn → lsn ≤ p.durableLsn →
    operationAt s lsn = some (c.log lsn)
  applied : p.completed = true → p.durableLsn ≤ appliedLsn s

variable {c} {p q : BuildProgress} {s : σ}

theorem Reached.initial : c.Reached (.initial c.authority) :=
  ⟨rfl, .inl ⟨rfl, rfl, rfl, Nat.zero_le _⟩⟩

theorem Reached.mono (hp : c.Reached p) (hq : c.Reached q) (h : p.lastSequence ≤ q.lastSequence) :
    p.durableLsn ≤ q.durableLsn ∧ (p.completed = true → q.completed = true) := by
  rcases hp.phase with ⟨hp, hpd, -, -⟩ | ⟨hp, -, hb, n, hpl, hpd⟩ <;>
    rcases hq.phase with ⟨hq, hqd, -, hql⟩ | ⟨hq, -, hb, m, hql, hqd⟩
  · exact ⟨by omega, by simp [hp]⟩
  · exact ⟨by omega, fun _ => hq⟩
  · omega
  · exact ⟨by omega, fun _ => hq⟩

theorem Reached.durableLsn_nonneg (hp : c.Reached p) : 0 ≤ p.durableLsn := by
  rcases hp.phase with ⟨-, hpd, -, -⟩ | ⟨-, -, hb, n, -, hpd⟩ <;> omega

theorem Reached.boundary_le (hp : c.Reached p) (h : p.completed = true) :
    c.boundary ≤ p.durableLsn := by
  rcases hp.phase with ⟨hp, -⟩ | ⟨-, -, -, n, -, hpd⟩
  · simp [hp] at h
  · omega

theorem Reached.completed_iff (hp : c.Reached p) :
    p.completed = true ↔ c.chunks.length < p.lastSequence := by
  rcases hp.phase with ⟨hp, -, -, hpl⟩ | ⟨hp, -, -, n, hpl, -⟩
  · simp only [hp, Bool.false_eq_true, false_iff]
    omega
  · simp only [hp, true_iff]
    omega

theorem Reached.eq_of_lastSequence (hp : c.Reached p) (hq : c.Reached q)
    (h : p.lastSequence = q.lastSequence)
    (hcatchUp : p.catchUpBoundaryLsn.isSome → q.catchUpBoundaryLsn = p.catchUpBoundaryLsn) :
    q = p := by
  obtain ⟨hle, himp⟩ := hp.mono hq h.le
  obtain ⟨hge, himp'⟩ := hq.mono hp h.ge
  have hcompleted : q.completed = p.completed := by
    rw [Bool.eq_iff_iff]
    exact ⟨himp', himp⟩
  have hboundary : q.catchUpBoundaryLsn = p.catchUpBoundaryLsn := by
    rcases hp.phase with ⟨hp, -, hpn, -⟩ | ⟨hp, hps, -⟩
    · rcases hq.phase with ⟨-, -, hqn, -⟩ | ⟨hq, -⟩
      · rw [hpn, hqn]
      · rw [hcompleted, hp] at hq
        cases hq
    · exact hcatchUp hps
  cases p
  cases q
  simp only [BuildProgress.mk.injEq]
  exact ⟨hq.authority.trans hp.authority.symm, h.symm, le_antisymm hge hle, hcompleted, hboundary⟩

/-! ## The effect of an item on the storage -/

theorem Stored.applyCopyChunk {k : Nat} {data : Bytes} (h : c.Stored s p)
    (hdata : c.chunks[k]? = some data) (hp : p.completed = false) :
    c.Stored (applyCopyChunk s c.buildId (k + 1) data).2 p := by
  obtain ⟨hinstalled, hothers, hown⟩ :=
    LawfulCopyState.applyCopyChunk_stages s c.buildId (k + 1) data
  refine ⟨?_, ?_, fun hi => h.early (hinstalled.mp hi), by simp [hp], by simp [hp], by simp [hp]⟩
  · intro j d hj hlt
    by_cases hjk : j = k
    · subst hjk
      cases hdata.symm.trans hj
      exact hown.elim (·.trans (h.chunk j data hj hlt)) id
    · exact (hothers (j + 1) (by omega)).trans (h.chunk j d hj hlt)
  · intro n d hd
    by_cases hn : n = k + 1
    · subst hn
      rcases hown with hown | hown
      · exact h.only _ d (hown ▸ hd)
      · cases hown.symm.trans hd
        exact ⟨k, rfl, hdata⟩
    · exact h.only n d (hothers n hn ▸ hd)

theorem Stored.finishCopy {upTo committed : Int} (h : c.Stored s p) (hp : p.completed = false)
    (hall : c.chunks.length ≤ p.lastSequence) :
    c.Stored (finishCopy s c.buildId upTo committed).2 p := by
  have hcopied := (LawfulCopyState.finishCopy_keeps s c.buildId upTo committed).1
  refine ⟨?_, ?_, fun _ => hall, by simp [hp], by simp [hp], by simp [hp]⟩
  · rw [hcopied]
    exact h.chunk
  · rw [hcopied]
    exact h.only

theorem Stored.apply (operation : Operation) (h : c.Stored s p) :
    c.Stored (apply s operation).2 p := by
  obtain ⟨hcopied, hinstalled⟩ := LawfulCopyState.apply_copied s operation
  have hgrows := grows_apply s operation
  refine ⟨?_, ?_, ?_, ?_, ?_, fun hp => (h.applied hp).trans hgrows.applied⟩
  · rw [hcopied]
    exact h.chunk
  · rw [hcopied]
    exact h.only
  · rw [hinstalled]
    exact h.early
  · rw [hinstalled]
    exact h.snapshot
  · intro hp lsn hlsn hle
    rw [hgrows.operations lsn (hle.trans (h.applied hp))]
    exact h.operations hp lsn hlsn hle

theorem Stored.extend (h : c.Stored s p) (hp : c.Reached p) (hq : c.Reached q)
    (hdone : p.completed = true) (hdone' : q.completed = true)
    (hnext : q.durableLsn ≤ p.durableLsn + 1)
    (hoperation : Kuberic.Stored s q.durableLsn (c.log q.durableLsn)) : c.Stored s q := by
  refine ⟨?_, h.only, fun _ => (hq.completed_iff.mp hdone').le, fun _ => h.snapshot hdone, ?_,
    fun _ => hoperation.1⟩
  · intro k data hk _
    have hlt := (List.getElem?_eq_some_iff.mp hk).1
    exact h.chunk k data hk (hlt.trans (hp.completed_iff.mp hdone))
  · intro _ lsn hlsn hle
    rcases hle.lt_or_eq with hlt | rfl
    · exact h.operations hdone lsn hlsn (by omega)
    · exact hoperation.2

/-! ## The target along its deliveries -/

/-- The process is at most one item behind the recorded progress `p`; if that is the final item, it
has left a storage that a retry does not change. -/
structure Ahead (c : CopyStream) (s : σ) (p m : BuildProgress) : Prop where
  reached : c.Reached m
  le : m.lastSequence ≤ p.lastSequence
  ge : p.lastSequence ≤ m.lastSequence + 1
  early : installed s c.buildId → c.chunks.length ≤ m.lastSequence
  settled : m.completed = false → p.completed = true →
    (finishCopy s c.buildId c.boundary c.boundary).2 = s

theorem Ahead.refl (hp : c.Reached p) (hs : c.Stored s p) : c.Ahead s p p :=
  ⟨hp, le_rfl, Nat.le_succ _, hs.early, fun h h' => by simp [h] at h'⟩

/-- The recorded progress is stored, and the process is at most one item behind it. -/
structure Tracks (c : CopyStream) (t : BuildTarget σ) : Prop where
  reached : c.Reached (t.store.progressOf c.authority)
  stored : c.Stored t.storage (t.store.progressOf c.authority)
  memory : ∀ m, t.builds.get? c.buildId = some m →
    c.Ahead t.storage (t.store.progressOf c.authority) m

/-- What an item can do to a target that tracks its progress. -/
structure Received (c : CopyStream) (t : BuildTarget σ) (i : CopyItem)
    (r : Result Int × BuildTarget σ) : Prop where
  tracks : c.Tracks r.2
  grows : (t.store.progressOf c.authority).lastSequence ≤
    (r.2.store.progressOf c.authority).lastSequence
  acknowledged : ∀ lsn, r.1 = .ok lsn → lsn ≤ (r.2.store.progressOf c.authority).durableLsn ∧
    (i.finalItem = true → (r.2.store.progressOf c.authority).completed = true)
  repeated : i.sequence ≤ (t.store.progressOf c.authority).lastSequence →
    r.2.store.progressOf c.authority = t.store.progressOf c.authority ∧ r.2.storage = t.storage
  completes : (t.store.progressOf c.authority).completed = false →
    (r.2.store.progressOf c.authority).completed = true → i.finalItem = true

theorem recordBuildProgress_eq_ok {store' : BuildStore} {u : BuildProgress}
    (hu : u.authority = c.authority) (h : store.recordBuildProgress u = .ok store') :
    store'.progressOf c.authority = u ∧
      (store.progressOf c.authority = .initial c.authority ∨
        ¬BuildStore.Regresses u (store.progressOf c.authority)) := by
  simp only [BuildStore.recordBuildProgress, hu, Check.then_eq_ok, Check.rejectIf_eq_ok] at h
  obtain ⟨-, -, hregress, hstore⟩ := h
  cases hstore
  refine ⟨by simp [BuildStore.progressOf], ?_⟩
  push Not at hregress
  unfold BuildStore.progressOf
  cases hget : store.progress.get? c.authority.buildId with
  | none => exact .inl rfl
  | some existing => exact .inr (hregress existing hget)

variable {t : BuildTarget σ} {i : CopyItem} {m u : BuildProgress}

theorem Received.same (ht : c.Tracks t) {r : Result Int}
    (hr : ∀ lsn, r = .ok lsn → lsn ≤ (t.store.progressOf c.authority).durableLsn ∧
      (i.finalItem = true → (t.store.progressOf c.authority).completed = true)) :
    c.Received t i (r, t) :=
  ⟨ht, le_refl _, hr, fun _ => ⟨rfl, rfl⟩, fun h h' => by simp [h] at h'⟩

theorem Received.error (ht : c.Tracks t) (e : RuntimeError) : c.Received t i (.error e, t) :=
  .same ht nofun

/-- What an item leaves in the storage, before its progress is recorded. -/
structure Leaves (c : CopyStream) (t : BuildTarget σ) (m : BuildProgress) (i : CopyItem)
    (storage : σ) : Prop where
  stored : c.Stored storage (t.store.progressOf c.authority)
  ahead : c.Ahead storage (t.store.progressOf c.authority) m
  same : i.sequence ≤ (t.store.progressOf c.authority).lastSequence → storage = t.storage

theorem Received.storage {storage : σ} (ht : c.Tracks t) (hm : t.builds.get? c.buildId = some m)
    (h : c.Leaves t m i storage) (e : RuntimeError) :
    c.Received t i (.error e, { t with storage }) := by
  refine ⟨⟨ht.reached, h.stored, ?_⟩, le_rfl, nofun, fun hle => ⟨rfl, h.same hle⟩,
    fun hp hp' => by simp [hp] at hp'⟩
  intro m' hm'
  cases hm.symm.trans hm'
  exact h.ahead

variable {drop : Option DropPoint}

theorem Received.publish (storage : σ) {lsn : Int} {durable : DurableApplicationProgress}
    (ht : c.Tracks t) (hm : t.builds.get? c.buildId = some m) (hi : i.buildId = c.buildId)
    (hu : c.Reached u) (hsequence : u.lastSequence = i.sequence)
    (hnext : i.sequence = m.lastSequence + 1) (hleaves : c.Leaves t m i storage)
    (hstored' : c.Stored storage u) (hsettled : m.completed = false → u.completed = true →
      (finishCopy storage c.buildId c.boundary c.boundary).2 = storage) (hlsn : lsn ≤ u.durableLsn)
    (hfinal : i.finalItem = true → u.completed = true)
    (hcompletes : (t.store.progressOf c.authority).completed = false → u.completed = true →
      i.finalItem = true) :
    c.Received t i (match BuildTarget.publish { t with storage } i u durable drop with
      | (.error e, t') => (.error e, t')
      | (.ok (), t') => (.ok lsn, t')) := by
  unfold BuildTarget.publish
  by_cases hdrop : drop = some .afterStorage
  · rw [if_pos hdrop]
    exact .storage ht hm hleaves _
  rw [if_neg hdrop]
  cases hrecord : t.store.recordBuildProgress u with
  | error e => exact .storage ht hm hleaves _
  | ok store =>
    obtain ⟨hprogress, hregress⟩ := recordBuildProgress_eq_ok hu.authority hrecord
    have hle : (t.store.progressOf c.authority).lastSequence ≤ u.lastSequence := by
      have := hleaves.ahead.ge
      omega
    have hrepeated : i.sequence ≤ (t.store.progressOf c.authority).lastSequence →
        u = t.store.progressOf c.authority := by
      intro hle'
      refine ht.reached.eq_of_lastSequence hu (by omega) fun hsome => ?_
      rcases hregress with hinitial | hregress
      · rw [hinitial] at hsome
        cases hsome
      · simp only [BuildStore.Regresses, not_or, not_and, not_not] at hregress
        exact hregress.2.2.2 (by rintro hnone; rw [hnone] at hsome; cases hsome)
    dsimp only
    split_ifs with hdrop'
    · refine ⟨⟨?_, ?_, ?_⟩, ?_, nofun, ?_, ?_⟩ <;> dsimp only <;> rw [hprogress]
      · exact hu
      · exact hstored'
      · intro m' hm'
        cases hm.symm.trans hm'
        exact ⟨hleaves.ahead.reached, by omega, by omega, hleaves.ahead.early, hsettled⟩
      · exact hle
      · exact fun h => ⟨hrepeated h, hleaves.same h⟩
      · exact hcompletes
    · refine ⟨⟨?_, ?_, ?_⟩, ?_, ?_, ?_, ?_⟩ <;> dsimp only <;> rw [hprogress]
      · exact hu
      · exact hstored'
      · intro m' hm'
        rw [hi, AssocMap.get?_insert_self, Option.some.injEq] at hm'
        subst hm'
        exact .refl hu hstored'
      · exact hle
      · intro lsn' hlsn'
        cases hlsn'
        exact ⟨hlsn, hfinal⟩
      · exact fun h => ⟨hrepeated h, hleaves.same h⟩
      · exact hcompletes

/-! ### The kinds of items -/

section

variable {drop : Option DropPoint} {k : Nat} {data : Bytes}

theorem receiveChunk_received (ht : c.Tracks t) (hm : t.builds.get? c.buildId = some m)
    (hdata : c.chunks[k]? = some data) (hk : k = m.lastSequence) :
    c.Received t (copySnapshotItem c.authority (k + 1) data)
      (t.receiveChunk m (copySnapshotItem c.authority (k + 1) data) drop) := by
  obtain ⟨hreached, hle, hge, hearly, -⟩ := ht.memory m hm
  have hlt : k < c.chunks.length := (List.getElem?_eq_some_iff.mp hdata).1
  -- The chunk belongs to a snapshot that neither side of the target has completed or installed.
  have hopen : (t.store.progressOf c.authority).completed = false := by
    rw [Bool.eq_false_iff, ne_eq, ht.reached.completed_iff]
    omega
  have hmopen : m.completed = false := by
    rw [Bool.eq_false_iff, ne_eq, hreached.completed_iff]
    omega
  have hnew : ¬installed t.storage c.buildId := fun hi => absurd (hearly hi) (by omega)
  have hu : c.Reached { m with lastSequence := k + 1, completed := false } := by
    rcases hreached.phase with ⟨-, hdurable, hboundary, -⟩ | ⟨hcompleted, -⟩
    · exact ⟨hreached.authority, .inl ⟨rfl, hdurable, hboundary, hlt⟩⟩
    · simp [hmopen] at hcompleted
  have hstored := ht.stored.applyCopyChunk hdata hopen
  have hinstalled := (LawfulCopyState.applyCopyChunk_stages t.storage c.buildId (k + 1) data).1
  have hleaves : c.Leaves t m (copySnapshotItem c.authority (k + 1) data)
      (applyCopyChunk t.storage c.buildId (k + 1) data).2 := by
    refine ⟨hstored, ⟨hreached, hle, hge, fun hi => hearly (hinstalled.mp hi), ?_⟩, ?_⟩
    · exact fun _ hdone => by simp [hopen] at hdone
    · intro hrepeated
      exact LawfulCopyState.applyCopyChunk_again _ _ _ _ hnew
        (ht.stored.chunk k data hdata hrepeated)
  have hok := LawfulCopyState.applyCopyChunk_ok t.storage c.buildId (k + 1) data hnew
  simp only [BuildTarget.receiveChunk]
  split
  · next e storage h =>
    have h' : applyCopyChunk t.storage c.buildId (k + 1) data = (.error e, storage) := h
    rw [h'] at hleaves
    exact .storage ht hm hleaves e
  · next storage h =>
    have h' : applyCopyChunk t.storage c.buildId (k + 1) data = (.ok (), storage) := h
    rw [h'] at hstored hleaves hinstalled hok
    refine .publish storage ht hm rfl hu rfl (congrArg (· + 1) hk) hleaves ?_ nofun le_rfl
      nofun nofun
    -- The chunks below this one are there by the recorded progress.
    refine ⟨?_, hstored.only, fun hi => absurd (hinstalled.mp hi) hnew, nofun, nofun, nofun⟩
    intro j d hj hlt'
    rcases Nat.lt_succ_iff_lt_or_eq.mp hlt' with hlt' | rfl
    · exact hstored.chunk j d hj (by omega)
    · rw [hdata] at hj
      exact (hok rfl).trans hj

theorem receiveFinal_received {catchUp : Int} (ht : c.Tracks t)
    (hm : t.builds.get? c.buildId = some m) (hboundary : 0 ≤ c.boundary)
    (hk : c.chunks.length = m.lastSequence) :
    c.Received t (copyFinalItem c.authority (c.chunks.length + 1) catchUp)
      (t.receiveFinal m (copyFinalItem c.authority (c.chunks.length + 1) catchUp) drop) := by
  obtain ⟨hreached, hle, hge, hearly, hsettled⟩ := ht.memory m hm
  have hmopen : m.completed = false := by
    rw [Bool.eq_false_iff, ne_eq, hreached.completed_iff]
    omega
  have hu : c.Reached ⟨m.authority, c.chunks.length + 1, c.boundary, true, some catchUp⟩ :=
    ⟨hreached.authority, .inr ⟨rfl, rfl, hboundary, 0, rfl, (Int.add_zero _).symm⟩⟩
  have hleaves : c.Leaves t m (copyFinalItem c.authority (c.chunks.length + 1) catchUp)
      (finishCopy t.storage c.buildId c.boundary c.boundary).2 := by
    by_cases hdone : (t.store.progressOf c.authority).completed = true
    · rw [hsettled hmopen hdone]
      exact ⟨ht.stored, ht.memory m hm, fun _ => rfl⟩
    · have hopen := Bool.eq_false_iff.mpr hdone
      refine ⟨ht.stored.finishCopy hopen (by omega), ⟨hreached, hle, hge, fun _ => hk.le, ?_⟩, ?_⟩
      · exact fun _ h => absurd h hdone
      · exact fun hrepeated => absurd (ht.reached.completed_iff.mpr hrepeated) hdone
  have hcatchUp : (copyFinalItem c.authority (c.chunks.length + 1) catchUp).catchUpBoundaryLsn =
    some catchUp := rfl
  simp only [BuildTarget.receiveFinal, hcatchUp]
  by_cases hchanged : ∃ existing ∈ m.catchUpBoundaryLsn, existing ≠ catchUp
  · rw [if_pos hchanged]
    exact .error ht _
  rw [if_neg hchanged]
  split
  · next e storage h =>
    have h' : finishCopy t.storage c.buildId c.boundary c.boundary = (.error e, storage) := h
    rw [h'] at hleaves
    exact .storage ht hm hleaves e
  next durable storage h =>
  have h' : finishCopy t.storage c.buildId c.boundary c.boundary = (.ok durable, storage) := h
  obtain ⟨hdurable, hinstalled, hagain⟩ :=
    LawfulCopyState.finishCopy_ok t.storage c.buildId c.boundary c.boundary (congrArg Prod.fst h')
  rw [h'] at hleaves hdurable hinstalled hagain
  split_ifs with hlost
  · exact .storage ht hm hleaves _
  · refine .publish storage ht hm rfl hu rfl (congrArg (· + 1) hk) hleaves ?_ (fun _ _ => hagain)
      le_rfl (fun _ => rfl) (fun _ _ => rfl)
    refine ⟨?_, hleaves.stored.only, fun _ => Nat.le_succ _, fun _ => hinstalled, ?_, ?_⟩
    · intro j d hj hlt'
      have hlt := (List.getElem?_eq_some_iff.mp hj).1
      exact hleaves.stored.chunk j d hj (by omega)
    · exact fun _ lsn hlsn hle' => absurd hlsn (not_lt.mpr hle')
    · intro _
      rw [appliedLsn, ← hdurable]
      exact not_lt.mp fun hlt => hlost (.inl hlt)

theorem receiveOperation_received {sequence : Nat} {operation : Operation} (ht : c.Tracks t)
    (hm : t.builds.get? c.buildId = some m) (hdata : operation.data = c.log operation.lsn)
    (hk : sequence = m.lastSequence + 1) :
    c.Received t (copyOperationItem c.authority sequence operation)
      (t.receiveOperation m (copyOperationItem c.authority sequence operation) drop) := by
  obtain ⟨hreached, hle, hge, hearly, -⟩ := ht.memory m hm
  rcases hreached.phase with ⟨hopen, -⟩ | ⟨hdone, hsome, hboundary, n, hlast, hdurable⟩
  · simp only [BuildTarget.receiveOperation, if_pos hopen]
    exact .error ht _
  obtain ⟨hdurable_le, hdone'⟩ := hreached.mono ht.reached hle
  simp only [BuildTarget.receiveOperation]
  by_cases hlsn : operation.lsn = m.durableLsn + 1
  swap
  · split_ifs with hphase hfrozen hgap
    · exact .error ht _
    · exact .error ht _
    · exact .error ht _
    all_goals exact absurd (not_not.mp hgap) hlsn
  have hu : c.Reached { m with lastSequence := sequence, durableLsn := operation.lsn } :=
    ⟨hreached.authority, .inr ⟨hdone, hsome, hboundary, n + 1, by dsimp only; omega,
      by dsimp only; omega⟩⟩
  have hcompletes : (t.store.progressOf c.authority).completed = false → m.completed = true →
      (copyOperationItem c.authority sequence operation).finalItem = true := by
    intro hopen
    simp [hdone' hdone] at hopen
  split_ifs with hphase hfrozen hgap happlied hconflict hnext
  · exact .error ht _
  · exact .error ht _
  · exact .error ht _
  · exact .error ht _
  · have hverified := LawfulDurableState.verifyApplied_true _ _ (eq_true_of_ne_false hconflict)
    refine .publish t.storage ht hm rfl hu rfl hk ⟨ht.stored, ht.memory m hm, fun _ => rfl⟩ ?_
      (by simp [hdone]) le_rfl nofun hcompletes
    exact ht.stored.extend ht.reached hu (hdone' hdone) hdone (by dsimp only; omega)
      ⟨hverified.1, hverified.2.trans (congrArg some hdata)⟩
  · exact .error ht _
  have hstored := ht.stored.apply (copyOperationItem c.authority sequence operation).operation
  have hleaves : c.Leaves t m (copyOperationItem c.authority sequence operation)
      (apply t.storage (copyOperationItem c.authority sequence operation).operation).2 := by
    refine ⟨hstored, ⟨hreached, hle, hge, ?_, by simp [hdone]⟩, ?_⟩
    · rw [(LawfulCopyState.apply_copied t.storage _).2]
      exact hearly
    · -- A recorded operation is applied, so that this one has not been recorded.
      intro hrepeated
      exact absurd ((hu.mono ht.reached hrepeated).1.trans (ht.stored.applied (hdone' hdone)))
        happlied
  split
  · next e storage h =>
    rw [h] at hleaves
    exact .storage ht hm hleaves e
  next durable storage h =>
  obtain ⟨-, happlied', hat⟩ := LawfulDurableState.apply_ok t.storage _ (congrArg Prod.fst h)
  rw [h] at hstored hleaves happlied' hat
  split
  · exact .storage ht hm hleaves _
  · refine .publish storage ht hm rfl hu rfl hk hleaves ?_ (by simp [hdone]) le_rfl nofun hcompletes
    exact hstored.extend ht.reached hu (hdone' hdone) hdone (by dsimp only; omega)
      ⟨happlied'.ge, hat.trans (congrArg some hdata)⟩

end

theorem receiveDuplicate_received (ht : c.Tracks t) (hm : t.builds.get? c.buildId = some m)
    (hi : c.Sends i) : c.Received t i (t.receiveDuplicate m i, t) := by
  obtain ⟨hdurable, hdone⟩ := (ht.memory m hm).reached.mono ht.reached (ht.memory m hm).le
  refine .same ht ?_
  intro lsn hlsn
  rcases hi with ⟨k, data, -, rfl⟩ | ⟨catchUp, rfl⟩ | ⟨sequence, operation, -, rfl⟩
  · simp only [BuildTarget.receiveDuplicate, copySnapshotItem, if_true, Check.then_eq_ok] at hlsn
    cases hlsn.2
    exact ⟨ht.reached.durableLsn_nonneg, fun h => by cases h⟩
  · simp only [BuildTarget.receiveDuplicate, copyFinalItem, if_true, Bool.false_eq_true, if_false,
      Check.then_eq_ok, Check.rejectIf_eq_ok] at hlsn
    obtain ⟨hcompleted, -, hlsn⟩ := hlsn
    have hcompleted' := hdone (eq_true_of_ne_false hcompleted)
    cases hlsn
    exact ⟨ht.reached.boundary_le hcompleted', fun _ => hcompleted'⟩
  · simp only [BuildTarget.receiveDuplicate, copyOperationItem, Bool.false_eq_true, if_false,
      Check.then_eq_ok] at hlsn
    cases hlsn.2
    exact ⟨hdurable, fun h => by cases h⟩

section

variable [Sha256]

theorem receiveCopyItem_received (drop : Option DropPoint) (ht : c.Tracks t) (hi : c.Sends i) :
    c.Received t i (((t.receiveCopyItem i drop).1.map (·.durableLsn)),
      (t.receiveCopyItem i drop).2) := by
  unfold BuildTarget.receiveCopyItem
  cases hprogress : t.copyProgress i with
  | error e => exact .error ht e
  | ok m =>
    obtain ⟨hm, hboundary, hphase, hgap⟩ := copyProgress_eq_ok hprogress
    rw [hi.buildId] at hm
    have hreached := (ht.memory m hm).reached
    rw [hreached.authority] at hboundary
    have key : c.Received t i
        (if i.sequence ≤ m.lastSequence then (t.receiveDuplicate m i, t)
        else if i.snapshotChunk then t.receiveChunk m i drop
        else if i.finalItem then t.receiveFinal m i drop
        else t.receiveOperation m i drop) := by
      by_cases hduplicate : i.sequence ≤ m.lastSequence
      · rw [if_pos hduplicate]
        exact receiveDuplicate_received ht hm hi
      rw [if_neg hduplicate]
      have hnext : i.sequence = m.lastSequence + 1 := by omega
      rcases hi with ⟨k, data, hdata, rfl⟩ | ⟨catchUp, rfl⟩ | ⟨sequence, operation, hdata, rfl⟩
      · exact receiveChunk_received ht hm hdata (Nat.succ.inj hnext)
      · exact receiveFinal_received ht hm hboundary (Nat.succ.inj hnext)
      · exact receiveOperation_received ht hm hdata hnext
    dsimp only
    split
    · next h => exact h ▸ key
    · next h => exact h ▸ key

end

end CopyStream

/-! ## The system -/

/-- Both ends of a build, and the acknowledgements that the target has sent. -/
structure BuildSystem (σ : Type) where
  source : BuildSource
  target : BuildTarget σ
  acks : List CopyAck

/-- What the rest of an engine does to the state that its copies depend on. -/
structure EngineChange where
  closed : Bool
  isOpen : Bool
  role : ReplicaRole
  fenceGeneration : Nat
  replicatorEpoch : Epoch
  currentProgress : Int
  committedLsn : Int

inductive BuildAction
  | admitTarget
  | receive (i : CopyItem) (drop : Option DropPoint)
  | changeTarget (change : EngineChange)
  | restartTarget
  | closeTarget
  | admitSource
  | beginCopy
  | emit (i : CopyItem)
  | freeze (boundary : Int) (drop : Option DropPoint)
  | accept (ack : CopyAck) (drop : Option DropPoint)
  | cancel
  | changeSource (change : EngineChange)
  | restartSource
  | closeSource

/-- A target receives what some attempt can send. -/
def BuildAction.Valid (c : CopyStream) : BuildAction → Prop
  | .receive i _ => c.Sends i
  | _ => True

namespace BuildSystem

variable {σ : Type} (c : CopyStream)

/-- The durable progress of the target. -/
abbrev progress (s : BuildSystem σ) : BuildProgress := s.target.store.progressOf c.authority

/-- The durable progress that the source has recorded. -/
abbrev recorded (s : BuildSystem σ) : BuildProgress := s.source.store.progressOf c.authority

variable [Sha256]

theorem admitBuild_progress {store' : BuildStore} {a : BuildAuthority}
    (h : store.admitBuild a = .ok store') : store'.progress = store.progress := by
  simp only [BuildStore.admitBuild, Check.then_eq_ok] at h
  cases h.2.2.2
  rfl

theorem admitBuildAuthority_spec (t : BuildTarget σ) (a : BuildAuthority) :
    (t.admitBuildAuthority a).2.storage = t.storage ∧
      (t.admitBuildAuthority a).2.store.progress = t.store.progress ∧
      ((t.admitBuildAuthority a).2.builds = t.builds ∨
        (t.admitBuildAuthority a).2.builds = t.builds.insert a.buildId (t.store.progressOf a)) := by
  unfold BuildTarget.admitBuildAuthority
  dsimp only
  split
  · exact ⟨rfl, rfl, .inl rfl⟩
  split
  · split_ifs
    · exact ⟨rfl, rfl, .inl rfl⟩
    · exact ⟨rfl, rfl, .inl rfl⟩
    · exact ⟨rfl, rfl, .inr rfl⟩
    · exact ⟨rfl, rfl, .inr rfl⟩
  split
  · exact ⟨rfl, rfl, .inl rfl⟩
  · next store h =>
    have hprogress := admitBuild_progress h
    have hprogressOf : store.progressOf a = t.store.progressOf a := by
      simp only [BuildStore.progressOf, hprogress]
    split_ifs
    · exact ⟨rfl, hprogress, .inl rfl⟩
    · exact ⟨rfl, hprogress, .inr (by rw [hprogressOf])⟩
    · exact ⟨rfl, hprogress, .inr (by rw [hprogressOf])⟩

variable [DurableState σ] [CopyState σ]

def step (s : BuildSystem σ) : BuildAction → BuildSystem σ
  | .admitTarget => { s with target := (s.target.admitBuildAuthority c.authority).2 }
  | .receive i drop =>
    match s.target.receiveCopyItem i drop with
    | (.error _, target) => { s with target }
    | (.ok ack, target) => { s with target, acks := s.acks ++ [ack] }
  | .changeTarget e => { s with
      target := { s.target with
        closed := e.closed
        isOpen := e.isOpen
        role := e.role
        fenceGeneration := e.fenceGeneration
        replicatorEpoch := e.replicatorEpoch
        currentProgress := e.currentProgress
        committedLsn := e.committedLsn } }
  | .restartTarget => { s with
      target := { s.target with builds := ∅, inboundBuildGenerations := ∅ } }
  | .closeTarget => { s with
      target := { s.target with
        store := { s.target.store with closed := c.buildId :: s.target.store.closed } } }
  | .admitSource =>
    match s.source.store.admitBuild c.authority with
    | .error _ => s
    | .ok store => { s with source := { s.source with store } }
  | .beginCopy => { s with source := s.source.beginCopy c.authority }
  | .emit i => { s with source := s.source.recordEmitted i }
  | .freeze boundary drop =>
    { s with source := s.source.freezeCatchUpBoundary c.authority boundary drop }
  | .accept ack drop =>
    -- The network repeats, loses and reorders acknowledgements, and makes up none.
    if ack ∈ s.acks then { s with source := (s.source.acceptCopyAcknowledgement ack drop).2 } else s
  | .cancel => { s with
      source := { s.source with outboundBuilds := s.source.outboundBuilds.erase c.buildId } }
  | .changeSource e => { s with
      source := { s.source with
        fenceGeneration := e.fenceGeneration
        replicatorEpoch := e.replicatorEpoch } }
  | .restartSource => { s with source := { s.source with outboundBuilds := ∅ } }
  | .closeSource => { s with
      source := { s.source with
        store := { s.source.store with closed := c.buildId :: s.source.store.closed } } }

def run (s : BuildSystem σ) (actions : List BuildAction) : BuildSystem σ := actions.foldl (step c) s

variable {c} {s : BuildSystem σ}

theorem step_receive_target :
    (s.step c (.receive i drop)).target = (s.target.receiveCopyItem i drop).2 := by
  simp only [BuildSystem.step]
  split <;> next h => rw [h]

theorem progress_step {a : BuildAction} (ha : ∀ i drop, a ≠ .receive i drop) :
    (s.step c a).progress c = s.progress c := by
  cases a with
  | receive i drop => exact absurd rfl (ha i drop)
  | admitTarget =>
    simp only [BuildSystem.progress, BuildSystem.step, BuildStore.progressOf,
      (admitBuildAuthority_spec s.target c.authority).2.1]
  | admitSource =>
    simp only [BuildSystem.step]
    split <;> rfl
  | accept ack drop =>
    simp only [BuildSystem.step]
    split_ifs <;> rfl
  | _ => rfl

theorem receiveCopyItem_ack {t t' : BuildTarget σ} {ack : CopyAck}
    (h : t.receiveCopyItem i drop = (.ok ack, t')) : ∃ lsn, ack = i.ack lsn := by
  unfold BuildTarget.receiveCopyItem at h
  split at h
  · cases h
  · dsimp only at h
    split at h
    · cases h
    · cases h
      exact ⟨_, rfl⟩

end BuildSystem

variable {σ : Type} [DurableState σ] [LawfulDurableState σ] [CopyState σ] [LawfulCopyState σ]

/-- A build that neither side has heard of. -/
structure BuildSystem.Fresh (c : CopyStream) (s : BuildSystem σ) : Prop where
  progress : s.target.store.progress.get? c.buildId = none
  builds : s.target.builds.get? c.buildId = none
  copied : ∀ n, copied s.target.storage c.buildId n = none
  installed : ¬installed s.target.storage c.buildId
  recorded : s.source.store.progress.get? c.buildId = none
  outbound : s.source.outboundBuilds.get? c.buildId = none
  acks : s.acks = []

namespace BuildSystem

variable {c : CopyStream} {s : BuildSystem σ} {p q : BuildProgress}

/-- Progress that does not exceed the progress of the target. -/
structure Behind (c : CopyStream) (p q : BuildProgress) : Prop where
  authority : p.authority = c.authority
  durableLsn : p.durableLsn ≤ q.durableLsn
  completed : p.completed = true → q.completed = true

/-- What holds at every point of a run. -/
structure Sound (c : CopyStream) (s : BuildSystem σ) : Prop where
  tracks : c.Tracks s.target
  acks : ∀ ack ∈ s.acks, ack.buildId = c.buildId ∧ ack.durableLsn ≤ (s.progress c).durableLsn ∧
    (ack.finalItem = true → (s.progress c).completed = true)
  recorded : Behind c (s.recorded c) (s.progress c)
  outbound : ∀ b, s.source.outboundBuilds.get? c.buildId = some b →
    Behind c b.progress (s.progress c)

theorem Behind.trans {r : BuildProgress} (h : Behind c p q)
    (hqr : q.durableLsn ≤ r.durableLsn ∧ (q.completed = true → r.completed = true)) :
    Behind c p r :=
  ⟨h.authority, h.durableLsn.trans hqr.1, fun hp => hqr.2 (h.completed hp)⟩

theorem progressOf_eq_initial (h : store.progress.get? c.buildId = none) :
    store.progressOf c.authority = .initial c.authority := by
  simp only [BuildStore.progressOf]
  rw [h]
  rfl

theorem Fresh.sound (h : s.Fresh c) : s.Sound c := by
  have hprogress := progressOf_eq_initial h.progress
  refine ⟨⟨?_, ?_, ?_⟩, ?_, ?_, ?_⟩
  · rw [hprogress]
    exact .initial
  · rw [hprogress]
    refine ⟨fun k data _ hk => absurd hk (Nat.not_lt_zero k), ?_, fun hi => absurd hi h.installed,
      nofun, nofun, nofun⟩
    intro n data hdata
    rw [h.copied] at hdata
    cases hdata
  · intro m hm
    rw [h.builds] at hm
    cases hm
  · rw [h.acks]
    exact fun ack hack => absurd hack List.not_mem_nil
  · rw [BuildSystem.recorded, progressOf_eq_initial h.recorded, BuildSystem.progress, hprogress]
    exact ⟨rfl, le_rfl, id⟩
  · intro b hb
    rw [h.outbound] at hb
    cases hb

/-! ### The target -/

theorem Sound.of_target {target : BuildTarget σ} (acks : List CopyAck) (hs : s.Sound c)
    (htracks : c.Tracks target)
    (hgrows : (s.progress c).lastSequence ≤ (target.store.progressOf c.authority).lastSequence)
    (hacks : ∀ ack ∈ acks, ack.buildId = c.buildId ∧
      ack.durableLsn ≤ (target.store.progressOf c.authority).durableLsn ∧
      (ack.finalItem = true → (target.store.progressOf c.authority).completed = true)) :
    Sound c { s with target, acks := s.acks ++ acks } := by
  have hmono := hs.tracks.reached.mono htracks.reached hgrows
  refine ⟨htracks, ?_, hs.recorded.trans hmono, fun b hb => (hs.outbound b hb).trans hmono⟩
  intro ack hack
  rcases List.mem_append.mp hack with hack | hack
  · obtain ⟨hid, hdurable, hfinal⟩ := hs.acks ack hack
    exact ⟨hid, hdurable.trans hmono.1, fun h => hmono.2 (hfinal h)⟩
  · exact hacks ack hack

theorem Sound.of_target_same {target : BuildTarget σ} (hs : s.Sound c)
    (hstorage : target.storage = s.target.storage)
    (hprogress : target.store.progressOf c.authority = s.progress c)
    (hmemory : ∀ m, target.builds.get? c.buildId = some m →
      m = s.progress c ∨ s.target.builds.get? c.buildId = some m) :
    Sound c { s with target } := by
  have htracks : c.Tracks target := by
    refine ⟨?_, ?_, ?_⟩ <;> rw [hprogress]
    · exact hs.tracks.reached
    · rw [hstorage]
      exact hs.tracks.stored
    · intro m hm
      rw [hstorage]
      rcases hmemory m hm with rfl | hm
      · exact .refl hs.tracks.reached hs.tracks.stored
      · exact hs.tracks.memory m hm
  have h := hs.of_target [] htracks (by rw [hprogress])
    (fun ack hack => absurd hack List.not_mem_nil)
  rwa [List.append_nil] at h

section

variable [Sha256]

theorem Sound.receive (hs : s.Sound c) (hi : c.Sends i) : (s.step c (.receive i drop)).Sound c := by
  have hreceived := CopyStream.receiveCopyItem_received drop hs.tracks hi
  simp only [BuildSystem.step]
  split
  · next e target h =>
    rw [h] at hreceived
    have := hs.of_target [] hreceived.tracks hreceived.grows
      (fun ack hack => absurd hack List.not_mem_nil)
    rwa [List.append_nil] at this
  · next ack target h =>
    rw [h] at hreceived
    obtain ⟨lsn, rfl⟩ := receiveCopyItem_ack h
    refine hs.of_target [i.ack lsn] hreceived.tracks hreceived.grows ?_
    intro ack hack
    cases List.mem_singleton.mp hack
    exact ⟨hi.buildId, hreceived.acknowledged lsn rfl⟩

theorem Sound.admitTarget (hs : s.Sound c) : (s.step c .admitTarget).Sound c := by
  obtain ⟨hstorage, hprogress, hbuilds⟩ := admitBuildAuthority_spec s.target c.authority
  refine hs.of_target_same hstorage (by simp only [BuildStore.progressOf, hprogress]) ?_
  intro m hm
  rcases hbuilds with hbuilds | hbuilds
  · exact .inr (hbuilds ▸ hm)
  · rw [hbuilds, AssocMap.get?_insert_self, Option.some.injEq] at hm
    exact .inl hm.symm

end

/-! ### The source -/

theorem Sound.of_source {source : BuildSource} (hs : s.Sound c)
    (hrecorded : Behind c (source.store.progressOf c.authority) (s.progress c))
    (houtbound : ∀ b, source.outboundBuilds.get? c.buildId = some b →
      Behind c b.progress (s.progress c)) : Sound c { s with source } :=
  ⟨hs.tracks, hs.acks, hrecorded, houtbound⟩

theorem Sound.beginCopy (hs : s.Sound c) :
    Sound c { s with source := s.source.beginCopy c.authority } := by
  unfold BuildSource.beginCopy
  split_ifs with h
  · exact hs
  · refine hs.of_source hs.recorded ?_
    intro b hb
    simp only [AssocMap.get?_insert_self, Option.some.injEq] at hb
    subst hb
    exact hs.recorded

theorem Sound.recordEmitted (hs : s.Sound c) (i : CopyItem) :
    Sound c { s with source := s.source.recordEmitted i } := by
  unfold BuildSource.recordEmitted
  split
  · exact hs
  · next build hbuild =>
    refine hs.of_source hs.recorded ?_
    intro b hb
    dsimp only at hb
    by_cases hi : i.buildId = c.buildId
    · rw [hi, AssocMap.get?_insert_self, Option.some.injEq] at hb
      subst hb
      have hprogress : (if i.finalItem then build.recordFinalItem i
          else if i.snapshotChunk then build.recordEmittedCopyItem i
          else build.recordOperation i).progress = build.progress := by
        split_ifs <;> rfl
      rw [hprogress]
      exact hs.outbound build (hi ▸ hbuild)
    · rw [AssocMap.get?_insert_of_ne _ _ (Ne.symm hi)] at hb
      exact hs.outbound b hb

theorem Sound.record (build : OutboundBuild) {u : BuildProgress} (hs : s.Sound c)
    (hu : Behind c u (s.progress c)) (hrecord : s.source.store.recordBuildProgress u = .ok store) :
    Sound c { s with source := { s.source with store } } ∧
      Sound c { s with source := { s.source with
        store
        outboundBuilds := s.source.outboundBuilds.insert c.buildId
          { build with progress := u } } } := by
  have hstore : Behind c (store.progressOf c.authority) (s.progress c) := by
    rw [(CopyStream.recordBuildProgress_eq_ok hu.authority hrecord).1]
    exact hu
  refine ⟨hs.of_source hstore hs.outbound, hs.of_source hstore ?_⟩
  intro b hb
  simp only [AssocMap.get?_insert_self, Option.some.injEq] at hb
  subst hb
  exact hu

theorem Sound.freezeCatchUpBoundary (hs : s.Sound c) (boundary : Int) (drop : Option DropPoint) :
    Sound c { s with source := s.source.freezeCatchUpBoundary c.authority boundary drop } := by
  unfold BuildSource.freezeCatchUpBoundary
  split
  · exact hs
  · next build hbuild =>
    have hbehind := hs.outbound build hbuild
    by_cases hchanged : build.progress.authority ≠ c.authority ∨
      ∃ existing ∈ build.progress.catchUpBoundaryLsn, existing ≠ boundary
    · rw [if_pos hchanged]
      exact hs
    rw [if_neg hchanged]
    dsimp only
    split
    · exact hs
    · next store hrecord =>
      have hu : Behind c (build.freeze boundary).progress (s.progress c) :=
        ⟨hbehind.authority, hbehind.durableLsn, hbehind.completed⟩
      have h := hs.record build hu hrecord
      split_ifs with hdrop
      · exact h.1
      · exact h.2

theorem Sound.acceptCopyAcknowledgement {ack : CopyAck} (hs : s.Sound c) (hack : ack ∈ s.acks)
    (drop : Option DropPoint) :
    Sound c { s with source := (s.source.acceptCopyAcknowledgement ack drop).2 } := by
  obtain ⟨hid, hdurable, hfinal⟩ := hs.acks ack hack
  unfold BuildSource.acceptCopyAcknowledgement
  rw [hid]
  split
  · exact hs
  next build hbuild =>
  have hbehind := hs.outbound build hbuild
  have hu : Behind c (build.progress.acknowledged ack) (s.progress c) := by
    refine ⟨hbehind.authority, max_le hbehind.durableLsn hdurable, ?_⟩
    intro hcompleted
    rcases Bool.or_eq_true_iff.mp hcompleted with h | h
    · exact hbehind.completed h
    · exact hfinal h
  split
  · exact hs
  split
  · exact hs
  split
  · exact hs
  dsimp only
  cases hrecord : s.source.store.recordBuildProgress (build.progress.acknowledged ack) with
  | error e => exact hs
  | ok store =>
    have h := hs.record build hu hrecord
    dsimp only
    split_ifs with hdrop
    · exact h.1
    · exact h.2

/-- The storage of the target holds what a progress stands for: the chunks up to its sequence, and
from the final item on exactly the chunks of the snapshot, installed, and the operations up to its
LSN. -/
def Holds (c : CopyStream) (s : σ) (p : BuildProgress) : Prop :=
  (∀ k data, c.chunks[k]? = some data → k < p.lastSequence →
    copied s c.buildId (k + 1) = some data) ∧
  (p.completed = true →
    installed s c.buildId ∧
    (∀ n data, copied s c.buildId n = some data ↔ ∃ k, n = k + 1 ∧ c.chunks[k]? = some data) ∧
    p.durableLsn ≤ appliedLsn s ∧
    ∀ lsn, c.boundary < lsn → lsn ≤ p.durableLsn → operationAt s lsn = some (c.log lsn))

theorem holds_of_stored {storage : σ} (hp : c.Reached p) (h : c.Stored storage p) :
    Holds c storage p := by
  refine ⟨h.chunk, fun hdone => ⟨h.snapshot hdone, ?_, h.applied hdone, h.operations hdone⟩⟩
  intro n data
  refine ⟨h.only n data, ?_⟩
  rintro ⟨k, rfl, hk⟩
  have hlt := (List.getElem?_eq_some_iff.mp hk).1
  exact h.chunk k data hk (hlt.trans (hp.completed_iff.mp hdone))

/-! ### Every step -/

variable [Sha256] {a : BuildAction}

theorem Sound.step (hs : s.Sound c) (ha : a.Valid c) : (s.step c a).Sound c := by
  cases a with
  | admitTarget => exact hs.admitTarget
  | receive i drop => exact hs.receive ha
  | changeTarget e => exact hs.of_target_same rfl rfl fun m hm => .inr hm
  | restartTarget =>
    refine hs.of_target_same rfl rfl ?_
    intro m hm
    simp at hm
  | closeTarget => exact hs.of_target_same rfl rfl fun m hm => .inr hm
  | admitSource =>
    simp only [BuildSystem.step]
    split
    · exact hs
    · next store h =>
      refine hs.of_source ?_ hs.outbound
      simp only [BuildStore.progressOf, admitBuild_progress h]
      exact hs.recorded
  | beginCopy => exact hs.beginCopy
  | emit i => exact hs.recordEmitted i
  | freeze boundary drop => exact hs.freezeCatchUpBoundary boundary drop
  | accept ack drop =>
    simp only [BuildSystem.step]
    split_ifs with hack
    · exact hs.acceptCopyAcknowledgement hack drop
    · exact hs
  | cancel =>
    refine hs.of_source hs.recorded ?_
    intro b hb
    simp at hb
  | changeSource e => exact hs.of_source hs.recorded hs.outbound
  | restartSource =>
    refine hs.of_source hs.recorded ?_
    intro b hb
    simp at hb
  | closeSource => exact hs.of_source hs.recorded hs.outbound

/-- A step never takes progress back, and only the final item completes the copy. -/
theorem Sound.grows (hs : s.Sound c) (ha : a.Valid c) :
    (s.progress c).lastSequence ≤ ((s.step c a).progress c).lastSequence ∧
      ((s.progress c).completed = false → ((s.step c a).progress c).completed = true →
        ∃ i drop, a = .receive i drop ∧ i.finalItem = true) := by
  by_cases hreceive : ∃ i drop, a = .receive i drop
  · obtain ⟨i, drop, rfl⟩ := hreceive
    have hreceived := CopyStream.receiveCopyItem_received drop hs.tracks ha
    simp only [BuildSystem.progress, step_receive_target]
    exact ⟨hreceived.grows, fun hp hp' => ⟨i, drop, rfl, hreceived.completes hp hp'⟩⟩
  · push Not at hreceive
    rw [progress_step hreceive]
    exact ⟨le_rfl, fun hp hp' => by simp [hp] at hp'⟩

theorem Sound.run {actions : List BuildAction} (hs : s.Sound c)
    (ha : ∀ a ∈ actions, a.Valid c) : (s.run c actions).Sound c := by
  induction actions generalizing s with
  | nil => exact hs
  | cons a rest ih =>
    exact ih (hs.step (ha a List.mem_cons_self)) fun b hb => ha b (List.mem_cons_of_mem _ hb)

theorem Sound.run_grows {actions : List BuildAction} (hs : s.Sound c)
    (ha : ∀ a ∈ actions, a.Valid c) :
    (s.progress c).lastSequence ≤ ((s.run c actions).progress c).lastSequence ∧
      ((s.progress c).completed = false → ((s.run c actions).progress c).completed = true →
        ∃ i drop, .receive i drop ∈ actions ∧ i.finalItem = true) := by
  induction actions generalizing s with
  | nil => exact ⟨le_rfl, fun hp hp' => by simp [BuildSystem.run, hp] at hp'⟩
  | cons a rest ih =>
    have hvalid := ha a List.mem_cons_self
    obtain ⟨hstep, hfinal⟩ := hs.grows hvalid
    obtain ⟨hrest, hfinal'⟩ :=
      ih (hs.step hvalid) fun b hb => ha b (List.mem_cons_of_mem _ hb)
    refine ⟨hstep.trans hrest, fun hp hp' => ?_⟩
    by_cases hdone : ((s.step c a).progress c).completed = true
    · obtain ⟨i, drop, rfl, hi⟩ := hfinal hp hdone
      exact ⟨i, drop, List.mem_cons_self, hi⟩
    · obtain ⟨i, drop, hmem, hi⟩ := hfinal' (Bool.not_eq_true _ ▸ hdone) hp'
      exact ⟨i, drop, List.mem_cons_of_mem _ hmem, hi⟩

/-- Along every run of a build the durable progress of the target grows, is completed by the final
item only and is held by the storage; an item that was processed before changes nothing; and the
source records no progress that the target has not made. -/
theorem build_progress_never_overstated (c : CopyStream) (s : BuildSystem σ) (hs : s.Fresh c)
    (before after : List BuildAction) (ha : ∀ a ∈ before ++ after, a.Valid c) :
    let s₁ := s.run c before
    let s₂ := s.run c (before ++ after)
    ((s₁.progress c).lastSequence ≤ (s₂.progress c).lastSequence ∧
      (s₁.progress c).durableLsn ≤ (s₂.progress c).durableLsn) ∧
    ((s₂.progress c).completed = true →
      ∃ i drop, .receive i drop ∈ before ++ after ∧ i.finalItem = true) ∧
    Holds c s₂.target.storage (s₂.progress c) ∧
    (∀ i drop, c.Sends i → i.sequence ≤ (s₂.progress c).lastSequence →
      (s₂.step c (.receive i drop)).progress c = s₂.progress c ∧
        (s₂.step c (.receive i drop)).target.storage = s₂.target.storage) ∧
    (s₂.recorded c).durableLsn ≤ (s₂.progress c).durableLsn ∧
    ((s₂.recorded c).completed = true → (s₂.progress c).completed = true) := by
  intro s₁ s₂
  have hsound₁ : s₁.Sound c := hs.sound.run fun a h => ha a (List.mem_append_left _ h)
  have hsound₂ : s₂.Sound c := hs.sound.run ha
  have hsplit : s₂ = s₁.run c after := List.foldl_append
  have hgrows : (s₁.progress c).lastSequence ≤ (s₂.progress c).lastSequence := by
    rw [hsplit]
    exact (hsound₁.run_grows fun a h => ha a (List.mem_append_right _ h)).1
  refine ⟨⟨hgrows, (hsound₁.tracks.reached.mono hsound₂.tracks.reached hgrows).1⟩, ?_, ?_, ?_,
    hsound₂.recorded.durableLsn, hsound₂.recorded.completed⟩
  · have hinitial : (s.progress c).completed = false := by
      rw [BuildSystem.progress, progressOf_eq_initial hs.progress]
      rfl
    exact (hs.sound.run_grows ha).2 hinitial
  · exact holds_of_stored hsound₂.tracks.reached hsound₂.tracks.stored
  · intro i drop hi hle
    simp only [BuildSystem.progress, step_receive_target]
    exact (CopyStream.receiveCopyItem_received drop hsound₂.tracks hi).repeated hle

end BuildSystem

/-! ## A build of two chunks and one operation -/

namespace TwoChunkBuild

attribute [local instance] checksum

open ThreeToTwo

def stream : CopyStream where
  authority := ⟨"build", .failover, identity 3, identity 1, configuration 1 [1, 2], 2⟩
  chunks := [[1], [2]]
  log := fun lsn => [UInt8.ofNat lsn.toNat]

def noBuilds : BuildStore := ⟨∅, ∅, []⟩

/-- A log that a copy fills up to its boundary. -/
structure CopiedLog where
  log : LogStorage
  chunks : OperationId → Nat → Option Bytes
  installed : List OperationId

instance : DurableState CopiedLog where
  durableProgress s := durableProgress s.log
  apply s op := ((apply s.log op).1, { s with log := (apply s.log op).2 })
  verifyApplied s op := verifyApplied s.log op
  commit s lsn := ((commit s.log lsn).1, { s with log := (commit s.log lsn).2 })
  getReplicationOperations s := getReplicationOperations s.log

instance : LawfulDurableState CopiedLog where
  operationAt s := operationAt s.log
  apply_append s := LawfulDurableState.apply_append s.log
  apply_ok s := LawfulDurableState.apply_ok s.log
  verifyApplied_true s := LawfulDurableState.verifyApplied_true s.log
  commit_keeps s := LawfulDurableState.commit_keeps s.log
  commit_ok s := LawfulDurableState.commit_ok s.log
  getReplicationOperations_mem s := LawfulDurableState.getReplicationOperations_mem s.log

instance : CopyState CopiedLog where
  applyCopyChunk s b n data :=
    if s.chunks b n = none ∧ b ∉ s.installed then
      (.ok (), { s with chunks := Function.update s.chunks b (Function.update (s.chunks b) n data) })
    else if s.chunks b n = some data then (.ok (), s)
    else (.error (.authorityMismatch "copy sequence was reused with different bytes"), s)
  verifyCopyChunk s b n data := s.chunks b n = some data
  finishCopy s b upTo committed :=
    if b ∈ s.installed then (.ok s.log.progress, s)
    else
      let log : LogStorage := ⟨List.replicate upTo.toNat [], committed⟩
      (.ok log.progress, { s with log, installed := b :: s.installed })

instance : LawfulCopyState CopiedLog where
  copied := CopiedLog.chunks
  installed s b := b ∈ s.installed
  applyCopyChunk_stages s b n data := by
    simp only [applyCopyChunk]
    split_ifs <;> simp +contextual
  applyCopyChunk_ok s b n data hb h := by
    simp only [applyCopyChunk] at h ⊢
    split_ifs at h ⊢ with hnew hsame
    · simp
    · exact hsame
  applyCopyChunk_again s b n data hb h := by
    simp only [applyCopyChunk, h]
    simp
  finishCopy_keeps s b upTo committed := by
    simp only [finishCopy]
    split_ifs <;> simp
  finishCopy_ok s b upTo committed ack h := by
    by_cases hb : b ∈ s.installed
    · simp only [finishCopy, if_pos hb] at h ⊢
      exact ⟨(Except.ok.inj h).symm, hb, trivial⟩
    · simp only [finishCopy, if_neg hb] at h ⊢
      exact ⟨(Except.ok.inj h).symm, List.mem_cons_self, by simp⟩
  apply_copied s op := ⟨rfl, rfl⟩

def fresh : BuildSystem CopiedLog where
  source := ⟨noBuilds, ∅, 0, default⟩
  target :=
    { storage := ⟨⟨[], 0⟩, fun _ _ => none, []⟩
      store := noBuilds
      closed := false
      isOpen := true
      role := .idleSecondary
      builds := ∅
      inboundBuildGenerations := ∅
      fenceGeneration := 0
      replicatorEpoch := default
      currentProgress := 0
      committedLsn := 0 }
  acks := []

def finalItem : CopyItem := copyFinalItem stream.authority 3 2

/-- The target stops after it has recorded the final item, restarts and receives it again. -/
def copied : List BuildAction :=
  [.admitSource, .beginCopy, .admitTarget,
    .emit (copySnapshotItem stream.authority 1 [1]),
    .receive (copySnapshotItem stream.authority 1 [1]) none,
    .receive (copySnapshotItem stream.authority 2 [2]) none,
    .freeze 2 none, .emit finalItem, .receive finalItem (some .afterRecord)]

def resumed : List BuildAction :=
  [.restartTarget, .admitTarget, .receive finalItem none,
    .receive (copyOperationItem stream.authority 4 ⟨3, 2, [3]⟩) none,
    .accept (finalItem.ack 2) none]

theorem fresh_stream : fresh.Fresh stream :=
  ⟨rfl, rfl, fun _ => rfl, List.not_mem_nil, rfl, rfl, rfl⟩

theorem valid_actions : ∀ a ∈ copied ++ resumed, a.Valid stream := by
  have hchunk₁ : stream.Sends (copySnapshotItem stream.authority 1 [1]) := .inl ⟨0, [1], rfl, rfl⟩
  have hchunk₂ : stream.Sends (copySnapshotItem stream.authority 2 [2]) := .inl ⟨1, [2], rfl, rfl⟩
  have hfinal : stream.Sends finalItem := .inr (.inl ⟨2, rfl⟩)
  have hoperation : stream.Sends (copyOperationItem stream.authority 4 ⟨3, 2, [3]⟩) :=
    .inr (.inr ⟨4, ⟨3, 2, [3]⟩, by decide, rfl⟩)
  simp only [copied, resumed, List.cons_append, List.nil_append, List.forall_mem_cons,
    List.not_mem_nil, false_imp_iff, implies_true, and_true, BuildAction.Valid, true_and]
  exact ⟨hchunk₁, hchunk₂, hfinal, hfinal, hoperation⟩

/-- Both sides complete the build, and the source stays behind the operation. -/
theorem build_progress_two_chunks :
    ((fresh.run stream (copied ++ resumed)).progress stream).durableLsn = 3 ∧
      ((fresh.run stream (copied ++ resumed)).recorded stream).durableLsn = 2 ∧
      ((fresh.run stream (copied ++ resumed)).recorded stream).completed = true ∧
      BuildSystem.Holds stream (fresh.run stream (copied ++ resumed)).target.storage
        ((fresh.run stream (copied ++ resumed)).progress stream) :=
  ⟨by decide +kernel, by decide +kernel, by decide +kernel,
    (BuildSystem.build_progress_never_overstated stream fresh fresh_stream copied resumed
      valid_actions).2.2.1⟩

end TwoChunkBuild

end Kuberic
