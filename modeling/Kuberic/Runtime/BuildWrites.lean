import Kuberic.Runtime.CopyProducer
import Kuberic.Runtime.LocalWrites

/-!
# Writes during a build

A write reaches the builds at its very end, after it is journalled, stored, registered and, if its
quorum is there, committed.  When it fails before that, it stays among the local writes of the engine
and keeps every other write out until it is retried.  A retry that finds the write committed answers
at once, and so does an acknowledgement that completes it: neither passes it to the builds.

The stream of a build is in order and misses no write as long as that does not happen to a write the
build does not have, and no other build makes a write give up before its item is sent.
-/

namespace Kuberic

open Effect DurableState

/-! ## Journal and local writes -/

section State

variable {σ : Type}

/-- Every local write of an engine is in its journal, and every unresolved write of the journal is a
local write. -/
structure Mirror (c : LocalWriteState σ) : Prop extends Keyed c where
  journalled : ∀ id w, c.localWrites.get? id = some w →
    ∃ w', c.journal.get? id = some w' ∧ w'.lsn = w.lsn
  known : ∀ id w, Unresolved c.journal id w → (c.localWrites.get? id).isSome

section Maps

variable {c : LocalWriteState σ} {w : DurableLocalWrite} {id : OperationId}

theorem Mirror.withStorage (h : Mirror c) (storage : σ) : Mirror { c with storage := storage } :=
  ⟨⟨h.keyed, h.localKeyed⟩, h.journalled, h.known⟩

theorem Mirror.record (h : Mirror c)
    (hlsn : ∀ w', c.journal.get? w.operationId = some w' → w'.lsn = w.lsn)
    (hknown : w.phase ≠ .committed → (c.localWrites.get? w.operationId).isSome) :
    Mirror { c with journal := c.journal.insert w.operationId w } := by
  refine ⟨h.toKeyed.record, fun id v hv => ?_, fun id v hv => ?_⟩
  · obtain ⟨v', hv', heq⟩ := h.journalled id v hv
    rw [AssocMap.get?_insert]
    split_ifs with hid
    · exact ⟨w, rfl, (hlsn v' (hid ▸ hv')).symm.trans heq⟩
    · exact ⟨v', hv', heq⟩
  · obtain ⟨rfl, -, hphase⟩ | ⟨-, hold⟩ := unresolved_insert.1 hv
    · exact hknown hphase
    · exact h.known id v hold

theorem Mirror.know (h : Mirror c) (hid : w.operationId = id)
    (hentry : ∃ w', c.journal.get? id = some w' ∧ w'.lsn = w.lsn) :
    Mirror { c with localWrites := c.localWrites.insert id w } := by
  refine ⟨h.toKeyed.know hid, fun k v hv => ?_, fun k v hv => isSome_insert (h.known k v hv)⟩
  rw [AssocMap.get?_insert] at hv
  split_ifs at hv with hk
  · rw [hk, ← Option.some.inj hv]
    exact hentry
  · exact h.journalled k v hv

theorem Mirror.reserve (h : Mirror c) :
    Mirror { c with
      journal := c.journal.insert w.operationId w
      localWrites := c.localWrites.insert w.operationId w } := by
  refine ⟨h.toKeyed.record.know rfl, fun k v hv => ?_, fun k v hv => ?_⟩
  · rw [AssocMap.get?_insert] at hv ⊢
    split_ifs at hv ⊢ with hk
    · exact ⟨w, rfl, by rw [Option.some.inj hv]⟩
    · exact h.journalled k v hv
  · rw [AssocMap.get?_insert]
    split_ifs with hk
    · rfl
    · obtain ⟨rfl, -⟩ | ⟨-, hold⟩ := unresolved_insert.1 hv
      · exact absurd rfl hk
      · exact h.known k v hold

theorem Mirror.forget (h : Mirror c) {localWrites : AssocMap OperationId DurableLocalWrite}
    (hsub : ∀ id w, localWrites.get? id = some w → c.localWrites.get? id = some w)
    (hkeep : ∀ id w, Unresolved c.journal id w → localWrites.get? id = c.localWrites.get? id) :
    Mirror { c with localWrites := localWrites } :=
  ⟨h.toKeyed.forget hsub, fun id w hw => h.journalled id w (hsub id w hw),
    fun id w hw => hkeep id w hw ▸ h.known id w hw⟩

end Maps

variable [DurableState σ]

/-- Above the LSN `m` the storage holds at most one operation, and its write is a local write. -/
def Parks (m : Int) (c : LocalWriteState σ) : Prop :=
  appliedLsn c.storage ≤ m ∨ (appliedLsn c.storage = m + 1 ∧
    ∃ id w, c.journal.get? id = some w ∧ w.lsn = m + 1 ∧ (c.localWrites.get? id).isSome)

/-- A write that is journalled as `durable` is under way; `answers` are the LSNs at which it can be
found committed. -/
structure Writing (answers : Int → Prop) (m : Int) (id : OperationId) (durable : DurableLocalWrite)
    (c : LocalWriteState σ) : Prop where
  mirror : Mirror c
  parks : Parks m c
  entry : c.journal.get? id = some durable
  /-- The operation above `m` is the one of this write. -/
  own : appliedLsn c.storage = m + 1 → durable.lsn = m + 1
  early : durable.phase = .committed ∨ durable.lsn ≤ max (committedLsn c.storage) durable.committedLsn →
    answers durable.lsn

variable {answers : Int → Prop} {c : LocalWriteState σ} {w : DurableLocalWrite} {id : OperationId} {m : Int}

theorem Parks.record (h : Parks m c)
    (hlsn : ∀ w', c.journal.get? w.operationId = some w' → w'.lsn = w.lsn) :
    Parks m { c with journal := c.journal.insert w.operationId w } := by
  refine h.imp_right fun ⟨happlied, id, v, hv, hvlsn, hsome⟩ => ⟨happlied, id, ?_⟩
  rw [AssocMap.get?_insert]
  split_ifs with hid
  · exact ⟨w, rfl, (hlsn v (hid ▸ hv)).symm.trans hvlsn, hsome⟩
  · exact ⟨v, hv, hvlsn, hsome⟩

theorem Parks.know (h : Parks m c) : Parks m { c with localWrites := c.localWrites.insert id w } :=
  h.imp_right fun ⟨happlied, k, v, hv, hvlsn, hsome⟩ =>
    ⟨happlied, k, v, hv, hvlsn, isSome_insert hsome⟩

/-- The local writes that may have been dropped are not the one above `m`. -/
theorem Parks.forget {c' : LocalWriteState σ} (h : Parks m c) (hmirror : Mirror c)
    (hmirror' : Mirror c') (happlied : appliedLsn c'.storage = appliedLsn c.storage)
    (hsub : ∀ id w, c'.localWrites.get? id = some w → c.localWrites.get? id = some w)
    (hkeep : ∀ id w, c.localWrites.get? id = some w → w.lsn = m + 1 →
      (c'.localWrites.get? id).isSome) : Parks m c' := by
  unfold Parks
  rw [happlied]
  refine h.imp_right fun ⟨heq, id, v, hv, hvlsn, hsome⟩ => ⟨heq, id, ?_⟩
  obtain ⟨w, hw⟩ := Option.isSome_iff_exists.1 hsome
  obtain ⟨v', hv', hlsn⟩ := hmirror.journalled id w hw
  obtain rfl := Option.some.inj (hv.symm.trans hv')
  have hkept := hkeep id w hw (hlsn.symm.trans hvlsn)
  obtain ⟨w', hw'⟩ := Option.isSome_iff_exists.1 hkept
  obtain rfl := Option.some.inj (hw.symm.trans (hsub id w' hw'))
  obtain ⟨v', hv', hlsn'⟩ := hmirror'.journalled id w hw'
  exact ⟨v', hv', hlsn'.trans (hlsn.symm.trans hvlsn), hkept⟩

variable [LawfulDurableState σ] {durable : DurableLocalWrite}

theorem Parks.commit (h : Parks m c) (lsn : Int) :
    Parks m { c with storage := (DurableState.commit c.storage lsn).2 } := by
  unfold Parks
  rw [(LawfulDurableState.commit_keeps c.storage lsn).1]
  exact h

theorem Writing.apply (h : Writing answers m id durable c) (hphase : durable.phase ≠ .committed)
    (data : Bytes) : Writing answers m id durable { c with
      storage := (DurableState.apply c.storage ⟨durable.lsn, durable.committedLsn, data⟩).2 } := by
  set op : Operation := ⟨durable.lsn, durable.committedLsn, data⟩
  have hmirror := h.mirror.withStorage (DurableState.apply c.storage op).2
  obtain ⟨-, hsame | ⟨hlsn, happlied, -, hcommitted⟩⟩ := LawfulDurableState.apply_append c.storage op
  · have heq : appliedLsn (DurableState.apply c.storage op).2 = appliedLsn c.storage :=
      congrArg DurableApplicationProgress.appliedLsn hsame
    have hcommitted : committedLsn (DurableState.apply c.storage op).2 = committedLsn c.storage :=
      congrArg DurableApplicationProgress.committedLsn hsame
    refine ⟨hmirror, ?_, h.entry, ?_, ?_⟩
    · unfold Parks
      rw [heq]
      exact h.parks
    · rw [heq]
      exact h.own
    · rw [hcommitted]
      exact h.early
  · have hown : appliedLsn (DurableState.apply c.storage op).2 = m + 1 → durable.lsn = m + 1 :=
      fun heq => happlied.symm.trans heq
    refine ⟨hmirror, ?_, h.entry, hown, ?_⟩
    · have hle : appliedLsn c.storage ≤ m := by
        obtain hle | ⟨heq, -⟩ := h.parks
        · exact hle
        · have hop : op.lsn = durable.lsn := rfl
          have hnext := h.own heq
          omega
      by_cases hm : op.lsn ≤ m
      · exact .inl (happlied.le.trans hm)
      · have heq : appliedLsn (DurableState.apply c.storage op).2 = m + 1 := by omega
        exact .inr ⟨heq, id, durable, h.entry, hown heq, h.mirror.known id durable ⟨h.entry, hphase⟩⟩
    · rw [hcommitted, max_assoc, max_self]
      exact h.early

end State

/-! ## One write -/

section Writes

variable {σ : Type} [DurableState σ] {e : Engine σ} {m : Int} {answers : Int → Prop}
  {write : ClientWrite} {durable : DurableLocalWrite}

/-- A write can be found committed at this LSN: its entry in the journal is committed there, or the
committed LSN of the storage, of the entry or, for a new write, of the replication log reaches it. -/
def FoundCommitted (e : Engine σ) (write : ClientWrite) (lsn : Int) : Prop :=
  match e.journal.get? write.operationId with
  | some w => lsn = w.lsn ∧ (w.phase = .committed ∨ lsn ≤ max (committedLsn e.storage) w.committedLsn)
  | none => lsn ≤ max (committedLsn e.storage) e.log.quorum.committedLsn

/-- The engine, between two writes. -/
def Settled (m : Int) (e : Engine σ) : Prop :=
  Mirror e.localWriteState ∧ Parks m e.localWriteState

omit [DurableState σ] in
theorem triple_sameWrites {α : Type} {x : EngineM σ α} (hx : Along SameWrites x)
    {I : LocalWriteState σ → Prop} :
    Triple (fun e => I e.localWriteState) x (fun _ e => I e.localWriteState)
      fun e => I e.localWriteState :=
  triple_of_run fun e h => show I (x.run e).2.localWriteState from (hx e).symm ▸ h

theorem Settled.own (h : Settled m e)
    (hnone : (e.localWrites.sortedValues.find? fun p => p.operationId != write.operationId) = none)
    (happlied : appliedLsn e.storage = m + 1) :
    (e.journal.get? write.operationId).map (·.lsn) = some (m + 1) := by
  obtain hle | ⟨-, id, w, hw, hlsn, hsome⟩ := h.2
  · exact absurd (happlied.symm.le.trans hle) (by omega)
  · obtain ⟨v, hv⟩ := Option.isSome_iff_exists.1 hsome
    have hall := List.find?_eq_none.1 hnone v (AssocMap.mem_sortedValues_of_get? hv)
    rw [h.1.localKeyed id v hv] at hall
    obtain rfl : id = write.operationId := by simpa using hall
    exact (congrArg (Option.map (·.lsn)) hw).trans (congrArg some hlsn)

theorem triple_reserveLocalWrite_writing (h : Settled m e)
    (hnone : (e.localWrites.sortedValues.find? fun p => p.operationId != write.operationId) = none)
    (fault : Option RuntimeError) (recovering : Bool) :
    Triple (· = e) (reserveLocalWrite fault write recovering)
      (fun durable s => Writing (FoundCommitted e write) m write.operationId durable s.localWriteState)
      (Settled m) := by
  refine checks_observe.bind h ?_
  rintro e rfl
  cases hexisting : e.journal.get? write.operationId with
  | some existing =>
    refine checks_require.bind h fun _ _ => triple_pure ?_
    rintro _ rfl
    refine ⟨h.1, h.2, hexisting, fun happlied => ?_, fun hearly => ?_⟩
    · have hown := h.own hnone happlied
      rw [hexisting] at hown
      exact Option.some.inj hown
    · simp only [FoundCommitted, hexisting]
      exact ⟨trivial, hearly⟩
  | none =>
    have hle : appliedLsn e.storage ≤ m := h.2.resolve_right fun happlied => by
      have hown := h.own hnone happlied.1
      rw [hexisting] at hown
      cases hown
    refine checks_require.bind h fun _ _ => ?_
    refine Triple.bind (R := fun _ s => SameWrites e s) ?_ fun lsn => ?_
    · refine triple_zoom.post (fun _ _ h => h.2 ▸ rfl) ?_
      rintro _ rfl
      exact h
    intro s hs
    have hsettled : Settled m s := show Mirror s.localWriteState ∧ Parks m s.localWriteState from hs ▸ h
    refine post_of_triple ?_
    refine Triple.bind ((triple_recordLocalWrite fault _).error fun _ h => h ▸ hsettled) fun _ => ?_
    refine triple_update_bind (I := fun t => Writing (FoundCommitted e write) m write.operationId
      ⟨write.operationId, lsn, e.log.quorum.committedLsn, write.data, .reserved⟩
        t.localWriteState) ?_ (triple_pure fun _ h => h)
    rintro _ rfl
    have hstorage : s.storage = e.storage := congrArg LocalWriteState.storage hs
    have hles : appliedLsn s.storage ≤ m := hstorage ▸ hle
    refine ⟨Mirror.reserve (w := ⟨write.operationId, lsn, e.log.quorum.committedLsn, write.data,
      .reserved⟩) hsettled.1, .inl hles, AssocMap.get?_insert_self _ _ _, fun happlied => ?_,
      fun hearly => ?_⟩
    · have happlied' : appliedLsn s.storage = m + 1 := happlied
      omega
    · simp only [FoundCommitted, hexisting]
      exact hstorage ▸ hearly.resolve_left fun h => by cases h

theorem triple_beginReservation_writing (h : Settled m e) (fault : Option RuntimeError)
    (recovering : Bool) :
    Triple (· = e) (beginReservation fault write recovering)
      (fun durable s => Writing (FoundCommitted e write) m write.operationId durable s.localWriteState)
      (Settled m) :=
  triple_beginReservation_of h fun _ hnone =>
    triple_reserveLocalWrite_writing h hnone fault recovering

theorem triple_applyLocalWrite_writing [LawfulDurableState σ] (hphase : durable.phase ≠ .committed)
    (data : Bytes) :
    Triple (fun e : Engine σ => Writing answers m write.operationId durable e.localWriteState)
      (applyLocalWrite ⟨durable.lsn, durable.committedLsn, data⟩)
      (fun ack e => Writing answers m write.operationId durable e.localWriteState ∧
        durable.lsn ≤ appliedLsn e.storage ∧ ack = durableProgress e.storage) (Settled m) := by
  refine triple_observe_bind fun e h => ?_
  have hsettled : Settled m e := ⟨h.mirror, h.parks⟩
  simp only
  split_ifs with hle
  · exact checks_require.bind hsettled fun _ _ => triple_pure (by rintro _ rfl; exact ⟨h, hle, rfl⟩)
  · refine checks_require.bind hsettled fun _ _ => ?_
    have happly := h.apply hphase data
    refine triple_zoom.post ?_ fun s hs => hs ▸ ⟨happly.mirror, happly.parks⟩
    rintro ack _ ⟨hok, rfl⟩
    obtain ⟨hack, happlied, -⟩ := LawfulDurableState.apply_ok e.storage _ hok
    exact ⟨happly, happlied.ge, hack⟩

/-- A registered write can follow the operations up to `m`, and the storage holds nothing else above
them. -/
structure Passes (m : Int) (r : RegisteredWrite) (c : LocalWriteState σ) : Prop where
  mirror : Mirror c
  lsn : r.prepared.lsn = r.operation.lsn
  next : r.operation.lsn ≤ m + 1
  applied : appliedLsn c.storage ≤ max m r.operation.lsn

variable {operation : Operation}

theorem ReplicationLog.lsn_of_ensureLocalWriteRegistered {log : ReplicationLog}
    {prepared : PreparedWrite} (h : (log.ensureLocalWriteRegistered operation).1 = .ok prepared) :
    prepared.lsn = operation.lsn := by
  unfold ReplicationLog.ensureLocalWriteRegistered at h
  split_ifs at h
  simp only at h
  split at h
  · cases h
  · split at h
    · cases h
    · split at h
      · cases h
      · cases h
        rfl

theorem triple_registerLocalWrite_writing (hphase : durable.phase ≠ .committed)
    (fault : Option RuntimeError) (hop : operation.lsn = durable.lsn)
    (ack : DurableApplicationProgress) :
    Triple (fun e : Engine σ => Writing answers m write.operationId durable e.localWriteState ∧
        durable.lsn ≤ appliedLsn e.storage)
      (registerLocalWrite fault write durable operation ack)
      (fun r e => Passes m r e.localWriteState ∧ Settled m e) (Settled m) := by
  rintro e ⟨h, hle⟩
  have hid : durable.operationId = write.operationId := h.mirror.keyed _ _ h.entry
  have hrange : durable.lsn ≤ m + 1 ∧ appliedLsn e.storage ≤ max m durable.lsn := by
    obtain hm | ⟨heq, -⟩ := h.parks
    · have hm : appliedLsn e.storage ≤ m := hm
      omega
    · have hlsn := h.own heq
      have heq : appliedLsn e.storage = m + 1 := heq
      omega
  refine post_of_triple ?_
  refine Triple.bind ((triple_recordLocalWrite fault _).error fun _ hs => hs ▸ ⟨h.mirror, h.parks⟩)
    fun _ => ?_
  refine triple_update_bind (I := fun s => (Mirror s.localWriteState ∧ Parks m s.localWriteState) ∧
    appliedLsn s.storage ≤ max m durable.lsn) ?_ ?_
  · rintro _ rfl
    have hlsn : ∀ w', e.journal.get? durable.operationId = some w' → w'.lsn = durable.lsn := by
      intro w' hw'
      rw [hid] at hw'
      rw [Option.some.inj (hw'.symm.trans h.entry)]
    have hmirror := Mirror.record (w := { durable with phase := .registered }) h.mirror hlsn
      fun _ => hid ▸ h.mirror.known _ durable ⟨h.entry, hphase⟩
    have hparks := Parks.record (w := { durable with phase := .registered }) h.parks hlsn
    refine ⟨⟨hmirror.know hid ⟨{ durable with phase := .registered }, ?_, rfl⟩, hparks.know⟩, hrange.2⟩
    rw [← hid]
    exact AssocMap.get?_insert_self _ _ _
  · refine Triple.bind ((triple_sameWrites (I := fun c => (Mirror c ∧ Parks m c) ∧
      appliedLsn c.storage ≤ max m durable.lsn) ?_).error fun _ h => h.1) fun _ => ?_
    · unfold restoreReservation
      split_ifs
      · exact along_zoom fun _ => rfl
      · exact stepwise_sameWrites.pure _
    intro s hs
    refine post_of_triple ?_
    refine Triple.bind (triple_zoom.error ?_) fun prepared => ?_
    · rintro _ rfl
      exact hs.1
    · refine triple_pure ?_
      rintro _ ⟨hok, rfl⟩
      have hprepared := ReplicationLog.lsn_of_ensureLocalWriteRegistered hok
      exact ⟨⟨hs.1.1, hprepared, hop.le.trans hrange.1, hop.symm ▸ hs.2⟩, hs.1⟩

theorem triple_restoreCommitted_writing (hop : operation.lsn = durable.lsn)
    (hearly : answers durable.lsn) (progress : DurableApplicationProgress) :
    Triple (fun e : Engine σ => Writing answers m write.operationId durable e.localWriteState ∧
        Resolved e.journal write.operationId)
      (restoreCommitted operation write.operationId progress)
      (fun p e => answers p.lsn ∧ Mirror e.localWriteState ∧ (p.lsn ≤ m → Parks m e.localWriteState))
      (Settled m) := by
  refine Triple.bind ((triple_sameWrites (x := onLog fun log => log.restoreCommittedWrite operation)
    (I := fun c => Writing answers m write.operationId durable c ∧
      Resolved c.journal write.operationId)
    (along_zoom fun _ => rfl)).error fun _ h => ⟨h.1.mirror, h.1.parks⟩) fun _ => ?_
  refine triple_update_bind (I := fun e => Mirror e.localWriteState ∧
    (operation.lsn ≤ m → Parks m e.localWriteState)) ?_ (triple_pure fun _ h => ⟨hop ▸ hearly, h⟩)
  rintro s ⟨h, hresolved⟩
  have hmirror : Mirror { s.localWriteState with
      localWrites := s.localWrites.erase write.operationId } := by
    refine h.mirror.forget (fun id w hw => AssocMap.get?_of_erase hw) fun id w hw => ?_
    exact AssocMap.get?_erase_of_ne _ fun hid => hw.2 (hresolved w (hid ▸ hw.1))
  refine ⟨hmirror, fun hle => h.parks.forget h.mirror hmirror rfl
    (fun id w hw => AssocMap.get?_of_erase hw) fun id w hw hlsn => ?_⟩
  by_cases hid : id = write.operationId
  · obtain ⟨w', hw', heq⟩ := h.mirror.journalled id w hw
    obtain rfl := Option.some.inj (h.entry.symm.trans (hid ▸ hw'))
    omega
  · have hkept : (s.localWrites.erase write.operationId).get? id = some w :=
      (AssocMap.get?_erase_of_ne _ hid).trans hw
    exact Option.isSome_iff_exists.2 ⟨w, hkept⟩

theorem triple_completeReservation_writing [LawfulDurableState σ]
    (faults : Faults) :
    Triple (fun e : Engine σ => Writing answers m write.operationId durable e.localWriteState)
      (completeReservation faults write durable)
      (fun r e => match r with
        | .inl p => answers p.lsn ∧ Mirror e.localWriteState ∧ (p.lsn ≤ m → Parks m e.localWriteState)
        | .inr r => Passes m r e.localWriteState ∧ Settled m e) (Settled m) := by
  refine triple_observe_bind fun e h => ?_
  have hsettled : Settled m e := ⟨h.mirror, h.parks⟩
  simp only
  split_ifs with hphase
  · refine checks_ofExcept.bind hsettled fun _ _ => ?_
    refine Triple.bind ((triple_sameWrites (I := fun c => Writing answers m write.operationId durable c ∧
      Resolved c.journal write.operationId) (sameWrites_verifyLocalWriteProgress durable.lsn)).weaken
      ?_ (fun _ _ h => h) fun _ h => ⟨h.1.mirror, h.1.parks⟩) fun _ =>
        (triple_restoreCommitted_writing rfl (h.early (.inl hphase)) _).bind fun _ =>
          triple_pure fun _ h => h
    rintro _ rfl
    refine ⟨h, fun w hw => ?_⟩
    obtain rfl := Option.some.inj (hw.symm.trans h.entry)
    exact hphase
  · refine Triple.bind ((triple_applyLocalWrite_writing hphase _).pre (fun _ hs => hs ▸ h)) fun ack => ?_
    have hI := fun (x : EngineM σ Unit) (hx : Along SameWrites x) =>
      (triple_sameWrites hx (I := fun c => Writing answers m write.operationId durable c ∧
        durable.lsn ≤ appliedLsn c.storage ∧ ack = durableProgress c.storage)).error fun s h =>
          (⟨h.1.mirror, h.1.parks⟩ : Settled m s)
    refine Triple.bind (hI _ (stepwise_sameWrites.ofExcept _)) fun _ => ?_
    refine Triple.bind (hI _ (sameWrites_verifyLocalWriteProgress _)) fun _ => ?_
    split_ifs with hcommitted
    · rintro s ⟨hs, -, rfl⟩
      have hearly : answers ({ durable with phase := .committed } : DurableLocalWrite).lsn :=
        hs.early (.inr (hcommitted.trans (le_max_left _ _)))
      refine post_of_triple ?_
      refine Triple.bind (R := fun _ s => Writing answers m write.operationId
          { durable with phase := .committed } s.localWriteState ∧
            Resolved s.journal write.operationId) ?_ fun _ =>
          (triple_restoreCommitted_writing rfl hearly _).bind fun _ => triple_pure fun _ h => h
      refine (triple_recordLocalWrite (faults 1) _).post ?_ fun _ h => h ▸ ⟨hs.mirror, hs.parks⟩
      rintro - _ rfl
      have hid : durable.operationId = write.operationId := hs.mirror.keyed _ _ hs.entry
      have hlsn : ∀ w', s.journal.get? durable.operationId = some w' → w'.lsn = durable.lsn := by
        intro w' hw'
        rw [hid] at hw'
        rw [Option.some.inj (hw'.symm.trans hs.entry)]
      refine ⟨⟨Mirror.record (w := { durable with phase := .committed }) hs.mirror hlsn
          fun hne => absurd rfl hne, Parks.record (w := { durable with phase := .committed }) hs.parks
          hlsn, ?_, hs.own, fun _ => hearly⟩, .insert rfl fun hne => absurd hid.symm hne⟩
      rw [← hid]
      exact AssocMap.get?_insert_self _ _ _
    · exact ((triple_registerLocalWrite_writing hphase (faults 2) rfl ack).pre fun _ h =>
        ⟨h.1, h.2.1⟩).bind fun _ => triple_pure fun _ h => h

theorem triple_finalizeReadyCommitLocked_settled [LawfulDurableState σ] (h : Settled m e)
    (faults : Faults) :
    Triple (· = e) (finalizeReadyCommitLocked faults)
      (fun _ s => Mirror s.localWriteState ∧ appliedLsn s.storage = appliedLsn e.storage)
      (Settled m) := by
  refine (triple_finalizeReadyCommitLocked (I := fun s => Settled m s ∧
    s.localWrites = e.localWrites ∧ appliedLsn s.storage = appliedLsn e.storage) ⟨h, rfl, rfl⟩
    ⟨h.1, rfl⟩ (fun lsn => ?_) (fun s id w hs hw => ?_) (fun _ _ hs => hs)
    (fun s ids _ hs hresolved => ⟨?_, hs.2.2⟩) faults).error fun _ hs => hs.1
  · exact ⟨⟨h.1.withStorage _, h.2.commit lsn⟩, rfl, (LawfulDurableState.commit_keeps e.storage lsn).1⟩
  · obtain ⟨⟨hmirror, hparks⟩, hsame⟩ := hs
    have hid := h.1.localKeyed id w hw
    obtain ⟨v, hv, heq⟩ := hmirror.journalled id w (show s.localWrites.get? id = _ from hsame.1 ▸ hw)
    have hlsn : ∀ w', s.journal.get? w.operationId = some w' → w'.lsn = w.lsn := by
      intro w' hw'
      rw [hid] at hw'
      rw [Option.some.inj (hw'.symm.trans hv), heq]
    exact ⟨⟨Mirror.record (w := { w with phase := .committed }) hmirror hlsn fun hne => absurd rfl hne,
      Parks.record (w := { w with phase := .committed }) hparks hlsn⟩, hsame⟩
  · refine hs.1.1.forget (fun id w hw => AssocMap.get?_of_eraseAll hw) fun id w hw => ?_
    exact AssocMap.get?_eraseAll_of_notMem (fun hid => hw.2 (hresolved id hid w hw.1)) _

end Writes

/-! ## Runs -/

section Runs

variable {σ : Type} [DurableState σ]

/-- `begin_write`, and `resume_local_write` if it recovers, until the write is passed to the
builds. -/
def beginRegistration (faults : Faults) (write : ClientWrite)
    (recovering : Bool) : EngineM σ (PendingWrite ⊕ RegisteredWrite) := do
  onlyIf (recovering = false) checkNoPendingConfiguration
  match ← startWriteLocked faults write recovering with
  | .inl resolved => pure (.inl resolved)
  | .inr registered => do
    finalizeReadyCommitLocked fun i => faults (i + 3)
    pure (.inr registered)

inductive BuildStreamAction
  | produce (action : ProducerAction)
  /-- `begin_write`, or `resume_local_write`; it fails where the faults say. -/
  | write (faults : Faults) (write : ClientWrite) (recovering : Bool)
  /-- The write under way is recorded in the builds. -/
  | pass
  /-- The next item of the write under way comes to its channel, and `accepted` says whether the
  channel of another build takes it; the write is answered when no item is left. -/
  | deliver (accepted : Bool)
  | acknowledge (faults : Faults) (ack : ReplicationAck)
  | acknowledgeInSession (faults : Faults) (ack : ReplicationAck)
      (session : ProcessSessionId)
  /-- `accept_copy_acknowledgement`. -/
  | copied (ack : CopyAck) (drop : Option DropPoint)
  /-- `detach_outbound_build_stream`. -/
  | detach
  /-- The receiver of the channel goes away. -/
  | close
  /-- Another build is registered, changed or removed. -/
  | other (id : OperationId) (build : Option OutboundBuild)

namespace BuildStream

/-- The items that a write sends, in the order of the builds. -/
def liveItems (s : BuildStream σ) (operation : Operation) : List (OperationId × CopyItem) :=
  s.engine.outboundBuilds.sortedKeys.filterMap fun id =>
    ((s.engine.outboundBuilds.get? id).bind (·.liveItem operation)).map (id, ·)

/-- The items of the build that the write under way has recorded and not sent. -/
def unsent (s : BuildStream σ) : List CopyItem := match s.writing with
  | some (.sending _ items) =>
    items.filterMap fun e => if e.1 = s.authority.buildId then some e.2 else none
  | _ => []

/-- The write under way reaches the builds. -/
def pass (s : BuildStream σ) (registered : RegisteredWrite) : BuildStream σ :=
  { s with
    engine := ((finishWrite registered).run s.engine).2
    writing := some (.sending registered.prepared.lsn (s.liveItems registered.operation))
    recorded := s.recorded ++ (s.build?.bind (·.directItem registered.operation)).toList }

/-- The write under way sends its next item, or gives up at a closed channel. -/
def deliver (s : BuildStream σ) (accepted : Bool) (lsn : Int) :
    List (OperationId × CopyItem) → BuildStream σ
  | [] => { s with writing := none, answered := s.answered ++ [lsn] }
  | (id, item) :: rest =>
    if id = s.authority.buildId then
      if s.closed then { s with writing := none }
      else { s with writing := some (.sending lsn rest), sent := s.sent ++ [item] }
    else if accepted then { s with writing := some (.sending lsn rest) }
    else { s with writing := none }

/-- The effect lock is held by the write under way; an action that needs it waits. -/
def step (s : BuildStream σ) : BuildStreamAction → BuildStream σ
  | .produce action => s.produce action
  | .write faults write recovering =>
    if s.writing.isSome then s
    else match (beginRegistration faults write recovering).run s.engine with
      | (.ok (.inl resolved), e) => { s with engine := e, answered := s.answered ++ [resolved.lsn] }
      | (.ok (.inr registered), e) => { s with engine := e, writing := some (.registered registered) }
      | (.error _, e) => { s with engine := e }
  | .pass => match s.writing with
    | some (.registered registered) => s.pass registered
    | _ => s
  | .deliver accepted => match s.writing with
    | some (.sending lsn items) => s.deliver accepted lsn items
    | _ => s
  | .acknowledge faults ack =>
    if s.writing.isSome then s
    else { s with engine := ((acceptAcknowledgement faults ack).run s.engine).2 }
  | .acknowledgeInSession faults ack session =>
    if s.writing.isSome then s
    else { s with engine := ((observeReplicationAck faults ack session).run s.engine).2 }
  | .copied ack drop =>
    let source := (s.engine.buildSource.acceptCopyAcknowledgement ack drop).2
    { s with engine := s.engine.withSource source }
  | .detach => match s.build? with
    | some build =>
      if s.writing.isSome ∨ build.progress.completed = false then s
      else s.enter { build with streaming := false } s.producer.stage
    | none => s
  | .close => { s with closed := true }
  | .other id build =>
    if id = s.authority.buildId then s
    else { s with engine := { s.engine with
        outboundBuilds := match build with
          | some build => s.engine.outboundBuilds.insert id build
          | none => s.engine.outboundBuilds.erase id } }

def run (s : BuildStream σ) (actions : List BuildStreamAction) : BuildStream σ :=
  actions.foldl step s

/-- The build is registered and does not have the operation at this LSN. -/
def Lacks (s : BuildStream σ) (lsn : Int) : Prop :=
  s.build? ≠ none ∧ s.boundary < lsn ∧ ¬ s.Has lsn

/-- What keeps the stream whole, before a step.  A write comes when it can be found committed only
where the build does not lack it; an acknowledgement comes when the build lacks no local write that
is applied; and a channel that closes on another build has no item of this one behind it. -/
def Safe (s : BuildStream σ) : BuildStreamAction → Prop
  | .write _ write _ => s.writing = none → ∀ lsn, s.Lacks lsn → ¬ FoundCommitted s.engine write lsn
  | .acknowledge .. | .acknowledgeInSession .. => s.writing = none →
      ∀ id w, s.engine.localWrites.get? id = some w → w.lsn ≤ appliedLsn s.engine.storage →
        ¬ s.Lacks w.lsn
  | .deliver accepted => accepted = false → s.closed = true ∨ s.unsent = []
  | _ => True

/-- Every step of the run is safe. -/
def Keeps (s : BuildStream σ) : List BuildStreamAction → Prop
  | [] => True
  | action :: rest => s.Safe action ∧ (s.step action).Keeps rest

/-- The build has everything up to the LSN `m`, and with it every write that was answered. -/
structure Current (s : BuildStream σ) (m : Int) : Prop where
  stream : s.StreamInv m
  engine : match s.writing with
    | none => Settled m s.engine
    | some (.registered registered) => Passes m registered s.engine.localWriteState
    | some (.sending lsn _) => Settled m s.engine ∧ lsn ≤ m
  answered : ∀ lsn ∈ s.answered, lsn ≤ m

/-- What the channel has taken of the recorded items.  As long as it is open, the rest is with the
producer or the write under way, unless the build is gone or sends nothing any more. -/
structure Delivers (s : BuildStream σ) : Prop where
  taken : s.sent <+: s.recorded
  idle : s.unsent ≠ [] →
    s.producer.outgoing = none ∧ (s.build? ≠ none → s.producer.stage = .finished)
  waits : s.closed = false → s.sent ++ s.producer.outgoing.toList ++ s.unsent <+: s.recorded
  whole : s.closed = false → ∀ build, s.build? = some build →
    build.streaming = true ∨ s.producer.stage ≠ .finished →
      s.recorded = s.sent ++ s.producer.outgoing.toList ++ s.unsent

/-- The invariant of a run. -/
structure Sound (s : BuildStream σ) : Prop where
  order : ∃ p, Streamed s.boundary p s.recorded
  delivers : s.Delivers
  current : s.build? ≠ none → ∃ m, s.Current m

/-! ### The builds -/

section Builds

theorem get?_mapValues {κ β γ : Type} [DecidableEq κ] (m : AssocMap κ β) (f : β → γ) (k : κ) :
    (m.mapValues f).get? k = (m.get? k).map f := by
  simp only [AssocMap.get?, AssocMap.mapValues, List.find?_map, Option.map_map]
  rfl

theorem filterMap_key {κ β : Type} [DecidableEq κ] {k : κ} {value : Option β} {l : List κ}
    (hl : l.Nodup) :
    l.filterMap (fun k' => if k' = k then value else none) =
      if k ∈ l then value.toList else [] := by
  induction l with
  | nil => rfl
  | cons k' rest ih =>
    obtain ⟨hnot, hrest⟩ := List.nodup_cons.1 hl
    rw [List.filterMap_cons, ih hrest]
    by_cases hk : k' = k
    · subst hk
      cases value <;> simp [hnot]
    · simp [hk, Ne.symm hk]

omit [DurableState σ] in
theorem unsent_pass (s : BuildStream σ) (r : RegisteredWrite) :
    (s.pass r).unsent = (s.build?.bind (·.liveItem r.operation)).toList := by
  have hnodup : s.engine.outboundBuilds.sortedKeys.Nodup :=
    (List.perm_insertionSort _ _).nodup_iff.2 s.engine.outboundBuilds.nodup
  have hown : ∀ k, (((s.engine.outboundBuilds.get? k).bind (·.liveItem r.operation)).map (k, ·)).bind
      (fun e => if e.1 = s.authority.buildId then some e.2 else none) =
      if k = s.authority.buildId then s.build?.bind (·.liveItem r.operation) else none := by
    intro k
    by_cases hk : k = s.authority.buildId
    · subst hk
      rw [if_pos rfl, ← build?]
      cases s.build?.bind (·.liveItem r.operation) <;> simp
    · cases (s.engine.outboundBuilds.get? k).bind (·.liveItem r.operation) <;> simp [hk]
  show List.filterMap (fun e => if e.1 = s.authority.buildId then some e.2 else none)
    (s.liveItems r.operation) = _
  rw [liveItems, List.filterMap_filterMap, funext hown, filterMap_key hnodup]
  split_ifs with hmem
  · rfl
  · have hnone : s.build? = none := by
      rw [AssocMap.mem_sortedKeys, AssocMap.mem_keys_iff] at hmem
      exact Option.eq_none_iff_forall_ne_some.2 fun v hv => hmem ⟨v, hv⟩
    rw [hnone]
    rfl

theorem sameBuilds_beginRegistration (faults : Faults) (write : ClientWrite)
    (recovering : Bool) : Along (fun e e' => e'.outboundBuilds = e.outboundBuilds)
      (beginRegistration faults write recovering : EngineM σ _) := by
  have hR := stepwise_same (Engine.outboundBuilds (σ := σ))
  refine hR.bind (hR.onlyIf _ (reads_checkNoPendingConfiguration.mono fun h => by rw [h]))
    fun _ => hR.bind (same_startWriteLocked _ (fun _ _ _ _ _ _ _ _ _ => rfl) _ _ _) fun r => ?_
  cases r with
  | inl resolved => exact hR.pure _
  | inr registered =>
    exact hR.bind (same_finalizeReadyCommitLocked _ (fun _ _ _ _ _ _ => rfl) _)
      fun _ => hR.pure _

end Builds

/-! ### What the channel takes -/

variable {e : Engine σ} {r : RegisteredWrite}

section Delivers

omit [DurableState σ]

variable {s : BuildStream σ} {build : OutboundBuild}

theorem Delivers.congr {s' : BuildStream σ} (h : s.Delivers) (hproducer : s'.producer = s.producer)
    (hrecorded : s'.recorded = s.recorded) (hsent : s'.sent = s.sent)
    (hclosed : s'.closed = s.closed) (hunsent : s'.unsent = s.unsent)
    (hbuild : ∀ b', s'.build? = some b' → ∃ b, s.build? = some b ∧ b.streaming = b'.streaming) :
    s'.Delivers := by
  have hgone : s'.build? ≠ none → s.build? ≠ none := by
    intro hne hnone
    obtain ⟨b', hb'⟩ := Option.ne_none_iff_exists'.1 hne
    obtain ⟨b, hb, -⟩ := hbuild b' hb'
    cases hnone.symm.trans hb
  refine ⟨?_, ?_, ?_, ?_⟩
  · rw [hsent, hrecorded]
    exact h.taken
  · rw [hunsent, hproducer]
    exact fun hne => (h.idle hne).imp_right fun hstage hb => hstage (hgone hb)
  · rw [hclosed, hsent, hunsent, hproducer, hrecorded]
    exact h.waits
  · rw [hclosed, hsent, hunsent, hproducer, hrecorded]
    intro hopen b' hb' hlive
    obtain ⟨b, hb, hstreaming⟩ := hbuild b' hb'
    exact h.whole hopen b hb (hstreaming ▸ hlive)

theorem Delivers.withEngine (h : s.Delivers) {writing : Option WriteStage} {answered : List Int}
    (hunsent : s.unsent = []) (hsame : e.outboundBuilds.get? s.authority.buildId = s.build?)
    (hwriting : ∀ lsn items, writing ≠ some (.sending lsn items)) :
    BuildStream.Delivers { s with engine := e, writing := writing, answered := answered } := by
  refine h.congr rfl rfl rfl rfl ?_ fun b hb => ⟨b, hsame.symm.trans hb, rfl⟩
  rw [hunsent]
  match writing with
  | none | some (.registered _) => rfl
  | some (.sending lsn items) => exact absurd rfl (hwriting lsn items)

theorem unsent_of_none (hw : s.writing = none) : s.unsent = [] := by
  rw [unsent, hw]

theorem Delivers.unsent_eq_nil (h : s.Delivers) (hbuild : s.build? = some build)
    (hstage : s.producer.stage ≠ .finished) : s.unsent = [] := by
  by_contra hne
  exact hstage ((h.idle hne).2 (by simp [hbuild]))

theorem Delivers.enter (h : s.Delivers) (hbuild : s.build? = some build) (hunsent : s.unsent = [])
    {build' : OutboundBuild} {stage : ProducerStage}
    (hlive : build'.streaming = true ∨ stage ≠ .finished →
      build.streaming = true ∨ s.producer.stage ≠ .finished) : (s.enter build' stage).Delivers := by
  refine ⟨h.taken, fun hne => absurd hunsent hne, h.waits, fun hopen b hb hb' => ?_⟩
  cases (build?_enter stage).symm.trans hb
  exact h.whole hopen build hbuild (hlive hb')

theorem Delivers.emit (h : s.Delivers) (hbuild : s.build? = some build)
    (hout : s.producer.outgoing = none) (hstage : s.producer.stage ≠ .finished)
    (build' : OutboundBuild) (stage : ProducerStage) (item : CopyItem) :
    (s.emit build' stage item).Delivers := by
  have hunsent := h.unsent_eq_nil hbuild hstage
  have hwhole : s.closed = false → s.recorded ++ [item] = s.sent ++ [item] ++ s.unsent := by
    intro hopen
    rw [h.whole hopen build hbuild (.inr hstage), hout, hunsent]
    simp
  exact ⟨h.taken.trans (List.prefix_append _ _), fun hne => absurd hunsent hne,
    fun hopen => (hwhole hopen).symm ▸ List.prefix_refl _, fun hopen _ _ _ => hwhole hopen⟩

theorem Delivers.fail (h : s.Delivers) : s.fail.Delivers := by
  refine ⟨h.taken, fun _ => ⟨rfl, fun hne => absurd build?_fail hne⟩, fun hopen => ?_,
    fun _ b hb => by rw [build?_fail] at hb; cases hb⟩
  show s.sent ++ [] ++ s.unsent <+: s.recorded
  by_cases hunsent : s.unsent = []
  · rw [hunsent, List.append_nil, List.append_nil]
    exact h.taken
  · have hwaits := h.waits hopen
    rwa [(h.idle hunsent).1] at hwaits

theorem Delivers.send (h : s.Delivers) (hopen : s.closed = false) {item : CopyItem}
    (hout : s.producer.outgoing = some item) : BuildStream.Delivers
      { s with producer := { s.producer with outgoing := none }, sent := s.sent ++ [item] } := by
  have hsent : s.sent ++ [item] ++ [] ++ s.unsent = s.sent ++ s.producer.outgoing.toList ++ s.unsent := by
    simp [hout]
  have hwaits : s.sent ++ [item] ++ [] ++ s.unsent <+: s.recorded := hsent ▸ h.waits hopen
  refine ⟨?_, fun hne => ?_, fun _ => hwaits, fun _ b hb hlive => ?_⟩
  · rw [List.append_nil] at hwaits
    exact (List.prefix_append _ _).trans hwaits
  · have hnone := (h.idle hne).1
    rw [hout] at hnone
    cases hnone
  · exact (h.whole hopen b hb hlive).trans hsent.symm

theorem Delivers.produce (h : s.Delivers) (action : ProducerAction) : (s.produce action).Delivers := by
  unfold BuildStream.produce
  cases hbuild : s.build? with
  | none => exact h
  | some build =>
    simp only
    split
    · exact h.fail
    · next item hout =>
      split
      · exact h.fail
      · next hopen => exact h.send (Bool.eq_false_iff.2 hopen) hout
    · exact h
    · next hout hcancel =>
      clear hcancel
      have hmove : s.producer.stage ≠ .finished → ∀ build' stage, (s.enter build' stage).Delivers :=
        fun hstage _ _ => h.enter hbuild (h.unsent_eq_nil hbuild hstage) fun _ => .inr hstage
      split
      · next hstage => exact h.emit hbuild hout (by rw [hstage]; nofun) _ _ _
      · next hstage =>
        unfold freezeBuildCatchUpBoundary
        split
        · exact h
        · split
          · exact h.fail
          · split
            · exact h.fail
            · dsimp only
              split
              · exact h.fail
              · next store _ =>
                have h' : BuildStream.Delivers
                    { s with engine := { s.engine with buildStore := store.progress } } :=
                  ⟨h.taken, h.idle, h.waits, h.whole⟩
                have hne : s.producer.stage ≠ .finished := by rw [hstage]; nofun
                exact h'.enter hbuild (h'.unsent_eq_nil hbuild hne) fun _ => .inr hne
      · next hstage => exact h.emit hbuild hout (by rw [hstage]; nofun) _ _ _
      · next hstage =>
        unfold emitCopyOperation
        split
        · exact hmove (by rw [hstage]; nofun) _ _
        · exact h.emit hbuild hout (by rw [hstage]; nofun) _ _ _
      · next hstage => split <;> exact hmove (by rw [hstage]; nofun) _ _
      · exact h

theorem build?_pass (r : RegisteredWrite) :
    (s.pass r).build? = s.build?.map (·.push r.operation) :=
  get?_mapValues _ _ _

theorem streaming_push (operation : Operation) : (build.push operation).streaming = build.streaming := by
  unfold OutboundBuild.push
  split_ifs <;> rfl

theorem Producing.finished_of_directItem {m : Int} {p : Option Nat} (h : s.Producing build m p)
    {item : CopyItem} (hdirect : build.directItem operation = some item) :
    s.producer.stage = .finished := by
  unfold OutboundBuild.directItem at hdirect
  split_ifs at hdirect with hlow hemitted hqueue
  rw [not_or] at hqueue
  cases hstage : s.producer.stage with
  | snapshot | frozen =>
    obtain ⟨-, -, -, hnone, -⟩ := h.of_stage hstage
    simp [hnone] at hqueue
  | emitting =>
    obtain ⟨-, -, -, hcatching⟩ := h.of_stage hstage
    simp [hcatching] at hqueue
  | finished => rfl
  | failed => exact (h.of_stage hstage).2.elim

theorem Delivers.pass (h : s.Delivers) (hw : s.writing = some (.registered r))
    (hp : ∀ build, s.build? = some build → ∃ m p, s.Producing build m p) : (s.pass r).Delivers := by
  have hunsent : s.unsent = [] := by rw [unsent, hw]
  have hpass := unsent_pass s r
  cases hbuild : s.build? with
  | none =>
    refine h.congr rfl (by simp [BuildStream.pass, hbuild]) rfl rfl ?_ fun b hb => ?_
    · rw [hpass, hbuild, hunsent]
      rfl
    · rw [build?_pass, hbuild] at hb
      cases hb
  | some build =>
    obtain ⟨m, p, hp⟩ := hp build hbuild
    have hbuild' : (s.pass r).build? = some (build.push r.operation) := by
      rw [build?_pass, hbuild]
      rfl
    rw [hbuild, Option.bind_some] at hpass
    cases hdirect : build.directItem r.operation with
    | none =>
      have hlive : build.liveItem r.operation = none := by simp [OutboundBuild.liveItem, hdirect]
      refine h.congr rfl (by simp [BuildStream.pass, hbuild, hdirect]) rfl rfl ?_ fun b hb => ?_
      · rw [hpass, hlive, hunsent]
        rfl
      · cases hbuild'.symm.trans hb
        exact ⟨build, hbuild, (streaming_push _).symm⟩
    | some item =>
      have hstage := hp.finished_of_directItem hdirect
      obtain ⟨-, -, -, -, hout, -⟩ := hp.of_stage hstage
      have hrecorded : (s.pass r).recorded = s.recorded ++ [item] := by
        simp [BuildStream.pass, hbuild, hdirect]
      have hout' : (s.pass r).producer.outgoing = none := hout
      -- The item is sent if the stream is attached, and is the only one that waits then.
      have hwhole : s.closed = false → build.streaming = true →
          s.recorded ++ [item] = s.sent ++ (s.pass r).producer.outgoing.toList ++ (s.pass r).unsent := by
        intro hopen hstreaming
        rw [h.whole hopen build hbuild (.inl hstreaming), hout, hunsent, hout', hpass,
          OutboundBuild.liveItem, if_pos hstreaming, hdirect]
        simp
      refine ⟨?_, fun _ => ⟨hout, fun _ => hstage⟩, fun hopen => ?_, fun hopen b hb hb' => ?_⟩
      · rw [hrecorded]
        exact h.taken.trans (List.prefix_append _ _)
      · rw [hrecorded]
        by_cases hstreaming : build.streaming = true
        · exact (hwhole hopen hstreaming).symm ▸ List.prefix_refl _
        · rw [hpass, OutboundBuild.liveItem, if_neg hstreaming, hout']
          simpa [BuildStream.pass] using h.taken.trans (List.prefix_append _ [item])
      · cases hbuild'.symm.trans hb
        rw [hrecorded]
        rw [streaming_push] at hb'
        exact hwhole hopen (hb'.resolve_right (not_not.2 hstage))

theorem Delivers.deliver (h : s.Delivers) {lsn : Int} {items : List (OperationId × CopyItem)}
    (hw : s.writing = some (.sending lsn items)) {accepted : Bool}
    (hsafe : accepted = false → s.closed = true ∨ s.unsent = []) :
    (s.deliver accepted lsn items).Delivers := by
  have hunsent : s.unsent = items.filterMap fun e =>
      if e.1 = s.authority.buildId then some e.2 else none := by rw [unsent, hw]
  have hend : s.closed = true ∨ s.unsent = [] → ∀ answered,
      BuildStream.Delivers { s with writing := none, answered := answered } := by
    rintro (hclosed | hnil) answered
    · refine ⟨h.taken, fun hne => absurd rfl hne, fun hopen => ?_, fun hopen => ?_⟩ <;>
        cases hclosed.symm.trans hopen
    · exact h.withEngine hnil rfl nofun
  cases items with
  | nil => exact hend (.inr hunsent) _
  | cons next rest =>
    obtain ⟨id, item⟩ := next
    simp only [BuildStream.deliver]
    split_ifs with hid hclosed haccepted
    · exact hend (.inl hclosed) s.answered
    · have hopen := Bool.eq_false_iff.2 hclosed
      rw [List.filterMap_cons, if_pos hid] at hunsent
      obtain ⟨hout, hstage⟩ := h.idle (by rw [hunsent]; nofun)
      have hsent : s.sent ++ [item] ++ s.producer.outgoing.toList ++ (rest.filterMap fun e =>
          if e.1 = s.authority.buildId then some e.2 else none) =
          s.sent ++ s.producer.outgoing.toList ++ s.unsent := by
        rw [hunsent, hout]
        simp
      refine ⟨?_, fun _ => ⟨hout, hstage⟩, fun _ => ?_, fun _ b hb hlive => ?_⟩
      · have hwaits := h.waits hopen
        rw [← hsent, hout, List.append_assoc] at hwaits
        exact (List.prefix_append _ _).trans hwaits
      · exact (congrArg (· <+: s.recorded) hsent).mpr (h.waits hopen)
      · exact (h.whole hopen b hb hlive).trans hsent.symm
    · refine h.congr rfl rfl rfl rfl ?_ fun b hb => ⟨b, hb, rfl⟩
      rw [hunsent, List.filterMap_cons, if_neg hid]
      rfl
    · exact hend (hsafe (Bool.eq_false_iff.2 haccepted)) s.answered

end Delivers

/-! ### What the build has -/

section Step

variable {s : BuildStream σ} {m : Int}

section Stream

omit [DurableState σ]

theorem StreamInv.boundary_le (h : s.StreamInv m) (hbuild : s.build? ≠ none) : s.boundary ≤ m := by
  obtain ⟨build, hb⟩ := Option.ne_none_iff_exists'.1 hbuild
  obtain ⟨p, hp⟩ := h.producing build hb
  have hreached := hp.feeds.reached
  omega

theorem StreamInv.not_has (h : s.StreamInv m) (hbuild : s.build? ≠ none) {lsn : Int}
    (hlt : m < lsn) : s.Lacks lsn := by
  have hb := h.boundary_le hbuild
  refine ⟨hbuild, by omega, fun hhas => ?_⟩
  obtain ⟨build, hbuild⟩ := Option.ne_none_iff_exists'.1 hbuild
  exact absurd (h.le_of_has hbuild hhas) (by omega)

theorem StreamInv.transfer {s' : BuildStream σ} (h : s.StreamInv m)
    (hproducer : s'.producer = s.producer) (hrecorded : s'.recorded = s.recorded)
    (hbuild : s'.build? = s.build?) : s'.StreamInv m := by
  refine ⟨hproducer ▸ h.initial, fun build hb => ?_, ?_⟩
  · exact (h.producing build (hbuild ▸ hb)).imp fun _ hp => hp.transfer hproducer hrecorded
  · rw [boundary, authority, hproducer, hrecorded]
    exact h.order

theorem Producing.pass {build : OutboundBuild} {p : Option Nat} (h : s.Producing build m p)
    (hbuild : s.build? = some build) (hnext : r.operation.lsn ≤ m + 1) :
    ∃ p', (s.pass r).Producing (build.push r.operation) (max m r.operation.lsn) p' := by
  have hreached := h.feeds.reached
  have hsame : build.directItem r.operation = none → (s.pass r).Producing build m p := fun hdirect =>
    h.transfer rfl (by simp [BuildStream.pass, hbuild, hdirect])
  -- a write that the build has changes nothing
  have hhas : r.operation.lsn ≤ m → build.directItem r.operation = none →
      build.push r.operation = build →
      ∃ p', (s.pass r).Producing (build.push r.operation) (max m r.operation.lsn) p' := by
    intro hle hdirect hpush
    rw [hpush, max_eq_left hle]
    exact ⟨p, hsame hdirect⟩
  by_cases hlow : r.operation.lsn ≤ build.progress.authority.replicationBoundaryLsn
  · refine hhas ?_ (if_pos hlow) (if_pos hlow)
    rw [h.authority] at hlow
    have hlow : r.operation.lsn ≤ s.boundary := hlow
    omega
  by_cases hemitted : build.hasEmitted r.operation.lsn = true
  · have hrange := ((h.hasEmitted_iff _).1 hemitted).2
    exact hhas (by omega) ((if_neg hlow).trans (if_pos hemitted))
      ((if_neg hlow).trans (if_pos hemitted))
  have hb : s.boundary < r.operation.lsn := by
    rw [h.authority] at hlow
    exact not_le.1 hlow
  by_cases hqueue : build.finalSequence.isNone = true ∨ build.catchingUp = true
  · have hpush : build.push r.operation = { build with
        pendingOperations := build.pendingOperations.insert r.operation.lsn r.operation } :=
      (if_neg hlow).trans ((if_neg hemitted).trans (if_pos hqueue))
    have hp := hsame ((if_neg hlow).trans ((if_neg hemitted).trans (if_pos hqueue)))
    rw [hpush]
    refine ⟨p, hp.authority, hp.streamed, hp.next, hp.records, hp.feeds.push hb hnext, ?_⟩
    show s.producer.stage.Holds _ _ _ p
    cases hstage : s.producer.stage with
    | snapshot | frozen | emitting => exact (hp.of_stage hstage).2
    | failed => exact (h.of_stage hstage).2.elim
    | finished =>
      obtain ⟨-, -, hfinal, hcaught, -⟩ := h.of_stage hstage
      simp [hfinal, hcaught] at hqueue
  · have hdirect : build.directItem r.operation =
        some (copyOperationItem build.progress.authority build.nextSequence r.operation) :=
      (if_neg hlow).trans ((if_neg hemitted).trans (if_neg hqueue))
    have hpush : build.push r.operation = build.recordOperation
        (copyOperationItem build.progress.authority build.nextSequence r.operation) :=
      (if_neg hlow).trans ((if_neg hemitted).trans (if_neg hqueue))
    have hstage := h.finished_of_directItem hdirect
    obtain ⟨hfeeds, hp, hfinal, hcaught, hout, hempty⟩ := h.of_stage hstage
    obtain ⟨n, rfl⟩ := Option.ne_none_iff_exists'.1 hp
    rw [hempty] at hfeeds
    have hdone := hfeeds.done
    have hnot : ¬ r.operation.lsn ≤ s.boundary + n :=
      fun hle => hemitted ((h.hasEmitted_iff _).2 ⟨hb, hle⟩)
    simp only [Option.getD_some] at hdone
    have hlsn : r.operation.lsn = s.boundary + n + 1 := by omega
    have hrecorded : (s.pass r).recorded = s.recorded ++
        [copyOperationItem build.progress.authority build.nextSequence r.operation] := by
      simp [BuildStream.pass, hbuild, hdirect]
    have hmax : max m r.operation.lsn = m + 1 := by omega
    rw [hpush, hmax]
    refine ⟨some (n + 1), h.authority, ?_, ?_, ?_, ?_, ?_⟩
    · rw [hrecorded]
      exact h.streamed.live h.next rfl rfl hlsn
    · rw [hrecorded, List.length_append]
      exact congrArg (· + 1) h.next
    · rw [hrecorded]
      exact h.records.append
        (i := copyOperationItem build.progress.authority build.nextSequence r.operation)
        fun j hj => lt_of_lt_of_eq (h.sequence_lt j hj) h.next.symm
    · show Feeds s.boundary _ _ (s.producer.stage.upcoming _) build.pendingOperations
      rw [hstage, hempty]
      refine ⟨List.Pairwise.nil, (fun _ h => absurd h List.not_mem_nil),
        (fun _ h => absurd h List.not_mem_nil), fun y hy hm => ?_, nofun, ?_⟩
      · simp only [Option.getD_some] at hy
        omega
      · simp only [Option.getD_some]
        omega
    · show s.producer.stage.Holds _ _ _ _
      rw [hstage]
      exact ⟨Option.some_ne_none _, hfinal, hcaught, hout, hempty⟩

theorem StreamInv.pass (h : s.StreamInv m) (hnext : r.operation.lsn ≤ m + 1) :
    (s.pass r).StreamInv (max m r.operation.lsn) := by
  refine ⟨fun y op hop => (h.initial y op hop).imp_right fun hle => hle.trans (le_max_left _ _),
    fun build' hb => ?_, ?_⟩
  · rw [build?_pass] at hb
    obtain ⟨build, hbuild, rfl⟩ := Option.map_eq_some_iff.1 hb
    obtain ⟨p, hp⟩ := h.producing build hbuild
    exact hp.pass hbuild hnext
  · cases hbuild : s.build? with
    | none =>
      have hrecorded : (s.pass r).recorded = s.recorded := by simp [BuildStream.pass, hbuild]
      rw [hrecorded]
      exact h.order
    | some build =>
      obtain ⟨p, hp⟩ := h.producing build hbuild
      obtain ⟨p', hp'⟩ := hp.pass hbuild hnext
      exact ⟨p', hp'.streamed⟩

theorem outboundBuilds_acceptCopyAcknowledgement (source : BuildSource) (ack : CopyAck)
    (drop : Option DropPoint) (id : OperationId) :
    let builds := (source.acceptCopyAcknowledgement ack drop).2.outboundBuilds
    builds.get? id = source.outboundBuilds.get? id ∨
      ∃ build, source.outboundBuilds.get? id = some build ∧
        builds.get? id = some { build with progress := build.progress.acknowledged ack } := by
  unfold BuildSource.acceptCopyAcknowledgement
  split
  · exact .inl rfl
  next build hbuild =>
  split
  · exact .inl rfl
  split
  · exact .inl rfl
  split
  · exact .inl rfl
  dsimp only
  split
  · exact .inl rfl
  split_ifs
  · exact .inl rfl
  by_cases hid : id = ack.buildId
  · subst hid
    exact .inr ⟨build, hbuild, AssocMap.get?_insert_self _ _ _⟩
  · exact .inl (AssocMap.get?_insert_of_ne _ _ hid)

theorem Producing.withBuild {build : OutboundBuild} {p : Option Nat} (h : s.Producing build m p)
    (progress : BuildProgress) (hauthority : progress.authority = build.progress.authority)
    (streaming : Bool) :
    s.Producing { build with progress := progress, streaming := streaming } m p :=
  ⟨hauthority.trans h.authority, h.streamed, h.next, h.records, h.feeds, h.stage⟩

end Stream

theorem Current.settled (h : s.Current m) (hw : s.writing = none) : Settled m s.engine := by
  have hengine := h.engine
  rwa [hw] at hengine

theorem Current.congr {s' : BuildStream σ} (h : s.Current m) (hstream : s'.StreamInv m)
    (hwriting : s'.writing = s.writing) (hanswered : s'.answered = s.answered)
    (hengine : s'.engine.localWriteState = s.engine.localWriteState) : s'.Current m := by
  refine ⟨hstream, ?_, hanswered ▸ h.answered⟩
  have hold := h.engine
  rw [hwriting]
  match hw : s.writing with
  | none =>
    rw [hw] at hold
    exact show Mirror _ ∧ Parks m _ from hengine.symm ▸ hold
  | some (.registered r) =>
    rw [hw] at hold
    exact show Passes m r _ from hengine.symm ▸ hold
  | some (.sending lsn items) =>
    rw [hw] at hold
    exact ⟨show Mirror _ ∧ Parks m _ from hengine.symm ▸ hold.1, hold.2⟩

/-- What a write can do before it is passed to the builds. -/
theorem triple_beginRegistration [LawfulDurableState σ] (h : Settled m e) (faults : Faults)
    (write : ClientWrite) (recovering : Bool) :
    Triple (· = e) (beginRegistration faults write recovering)
      (fun r s => match r with
        | .inl p => FoundCommitted e write p.lsn ∧ Mirror s.localWriteState ∧
            (p.lsn ≤ m → Parks m s.localWriteState)
        | .inr r => Passes m r s.localWriteState) (Settled m) := by
  have hcheck : Checks e (onlyIf (recovering = false) checkNoPendingConfiguration) fun _ => True :=
    (stepwise_eq.onlyIf _ reads_checkNoPendingConfiguration).checks e
  refine hcheck.bind h fun _ _ => ?_
  rw [startWriteLocked, bind_bind]
  refine (triple_beginReservation_writing h (faults 0) recovering).bind fun durable => ?_
  refine (triple_completeReservation_writing faults).bind fun r => ?_
  match r with
  | .inl resolved => exact triple_pure fun _ h => h
  | .inr registered =>
    rintro s ⟨hpasses, hsettled⟩
    refine post_of_triple ?_
    refine (triple_finalizeReadyCommitLocked_settled hsettled _).bind fun _ => triple_pure ?_
    rintro t ⟨hmirror, happlied⟩
    exact ⟨hmirror, hpasses.lsn, hpasses.next, happlied.le.trans hpasses.applied⟩

theorem Current.write [LawfulDurableState σ] (h : s.Current m) (hbuild : s.build? ≠ none)
    {faults : Faults} {write : ClientWrite} {recovering : Bool}
    (hsafe : s.Safe (.write faults write recovering)) :
    (s.step (.write faults write recovering)).Current m := by
  by_cases hw : s.writing.isSome = true
  · simpa only [step, hw, if_true] using h
  have hnone := Option.not_isSome_iff_eq_none.1 hw
  have hpost := triple_beginRegistration (h.settled hnone) faults write recovering s.engine rfl
  have hsame := sameBuilds_beginRegistration faults write recovering s.engine
  have hstream : ∀ {e : Engine σ} writing answered, e.outboundBuilds = s.engine.outboundBuilds →
      BuildStream.StreamInv { s with engine := e, writing := writing, answered := answered } m :=
    fun _ _ hsame => h.stream.transfer rfl rfl (congrArg (·.get? s.authority.buildId) hsame)
  simp only [step, hw, Bool.false_eq_true, if_false]
  match hr : (beginRegistration faults write recovering).run s.engine with
  | (.ok (.inl resolved), e) =>
    rw [hr] at hpost hsame
    obtain ⟨hfound, hmirror, hparks⟩ := hpost
    have hle : resolved.lsn ≤ m := by
      by_contra hlt
      exact hsafe hnone _ (h.stream.not_has hbuild (not_le.1 hlt)) hfound
    refine ⟨hstream _ _ hsame, ?_, fun lsn hlsn => ?_⟩
    · simp only [hnone]
      exact ⟨hmirror, hparks hle⟩
    · obtain hlsn | hlsn := List.mem_append.1 hlsn
      · exact h.answered lsn hlsn
      · exact List.mem_singleton.1 hlsn ▸ hle
  | (.ok (.inr registered), e) =>
    rw [hr] at hpost hsame
    exact ⟨hstream _ _ hsame, hpost, h.answered⟩
  | (.error _, e) =>
    rw [hr] at hpost hsame
    refine ⟨hstream _ _ hsame, ?_, h.answered⟩
    simp only [hnone]
    exact hpost

theorem Current.pass (h : s.Current m) (hw : s.writing = some (.registered r)) :
    (s.pass r).Current (max m r.operation.lsn) := by
  have hpasses : Passes m r s.engine.localWriteState := by
    have hengine := h.engine
    rwa [hw] at hengine
  exact ⟨h.stream.pass hpasses.next, ⟨⟨hpasses.mirror, .inl hpasses.applied⟩,
      hpasses.lsn.le.trans (le_max_right _ _)⟩,
    fun lsn hlsn => (h.answered lsn hlsn).trans (le_max_left _ _)⟩

theorem Current.deliver (h : s.Current m) {lsn : Int} {items : List (OperationId × CopyItem)}
    (hw : s.writing = some (.sending lsn items)) (accepted : Bool) :
    (s.deliver accepted lsn items).Current m := by
  have hengine : Settled m s.engine ∧ lsn ≤ m := by
    have hengine := h.engine
    rwa [hw] at hengine
  have hstream := fun (s' : BuildStream σ) (hproducer : s'.producer = s.producer) hrecorded hbuild =>
    (h.stream.transfer hproducer hrecorded hbuild : s'.StreamInv m)
  cases items with
  | nil =>
    refine ⟨hstream _ rfl rfl rfl, hengine.1, fun y hy => ?_⟩
    obtain hy | hy := List.mem_append.1 hy
    · exact h.answered y hy
    · exact List.mem_singleton.1 hy ▸ hengine.2
  | cons next rest =>
    obtain ⟨id, item⟩ := next
    simp only [BuildStream.deliver]
    split_ifs
    · exact ⟨hstream _ rfl rfl rfl, hengine.1, h.answered⟩
    · exact ⟨hstream _ rfl rfl rfl, hengine, h.answered⟩
    · exact ⟨hstream _ rfl rfl rfl, hengine, h.answered⟩
    · exact ⟨hstream _ rfl rfl rfl, hengine.1, h.answered⟩

omit [DurableState σ] in
theorem recordAcknowledgement_log (ack : ReplicationAck) (e : Engine σ) :
    ∃ log, ((recordAcknowledgement ack).run e).2 = { e with log := log } :=
  recordAcknowledgement_keeps (I := fun s => ∃ log, s = { e with log := log }) ⟨e.log, rfl⟩ ⟨_, rfl⟩

omit [DurableState σ] in
theorem recordReplicationAck_log (ack : ReplicationAck) (session : ProcessSessionId) (e : Engine σ) :
    ∃ log, ((recordReplicationAck ack session).run e).2 = { e with log := log } :=
  recordReplicationAck_keeps (I := fun s => ∃ log, s = { e with log := log }) ⟨e.log, rfl⟩ ⟨_, rfl⟩

section Acknowledge

variable {record : EngineM σ Unit} (hrecord : ∀ e, ∃ log, (record.run e).2 = { e with log := log })
include hrecord

theorem sameBuilds_acknowledge (faults : Faults) (e : Engine σ) :
    ((record >>= fun _ => finalizeReadyCommitLocked faults).run e).2.outboundBuilds =
      e.outboundBuilds := by
  refine (stepwise_same Engine.outboundBuilds).bind (fun e => ?_)
    (fun _ => same_finalizeReadyCommitLocked _ (fun _ _ _ _ _ _ => rfl) faults) e
  obtain ⟨log, hlog⟩ := hrecord e
  rw [hlog]

theorem Current.acknowledge [LawfulDurableState σ] (h : s.Current m) (hbuild : s.build? ≠ none)
    (faults : Faults) (hw : s.writing = none)
    (hsafe : ∀ id w, s.engine.localWrites.get? id = some w →
      w.lsn ≤ appliedLsn s.engine.storage → ¬ s.Lacks w.lsn) :
    BuildStream.Current
      { s with engine := ((record >>= fun _ => finalizeReadyCommitLocked faults).run s.engine).2 }
      m := by
  have hsettled := h.settled hw
  refine ⟨h.stream.transfer rfl rfl (congrArg (·.get? s.authority.buildId)
    (sameBuilds_acknowledge hrecord faults s.engine)), ?_, h.answered⟩
  simp only [hw]
  -- What is applied above `m` would be lacked.
  have happlied : appliedLsn s.engine.storage ≤ m := by
    obtain hle | ⟨heq, id, v, hv, hvlsn, hsome⟩ := hsettled.2
    · exact hle
    obtain ⟨w, hw⟩ := Option.isSome_iff_exists.1 hsome
    obtain ⟨v', hv', hlsn⟩ := hsettled.1.journalled id w hw
    obtain rfl := Option.some.inj (hv.symm.trans hv')
    have heq : appliedLsn s.engine.storage = m + 1 := heq
    exact absurd (h.stream.not_has hbuild (by omega)) (hsafe id w hw (by omega))
  have hpost : Triple (· = s.engine) (record >>= fun _ => finalizeReadyCommitLocked faults)
      (fun _ => Settled m) (Settled m) := by
    obtain ⟨log, hlog⟩ := hrecord s.engine
    refine Triple.bind ((triple_of_run (I := (· = { s.engine with log := log })) ?_).error ?_) ?_
    · rintro _ rfl
      exact hlog
    · rintro _ rfl
      exact hsettled
    · rintro - _ rfl
      refine (triple_finalizeReadyCommitLocked_settled (e := { s.engine with log := log }) hsettled
        faults _ rfl).mono ?_ fun _ h => h
      rintro - u ⟨hmirror, hsame⟩
      exact ⟨hmirror, .inl (hsame.trans_le happlied)⟩
  exact hpost.keeps s.engine rfl

end Acknowledge

theorem Current.copied (h : s.Current m) (ack : CopyAck) (drop : Option DropPoint) :
    (s.step (.copied ack drop)).Current m := by
  refine h.congr ?_ rfl rfl rfl
  obtain hsame | ⟨build, hbuild, hnew⟩ :=
    outboundBuilds_acceptCopyAcknowledgement s.engine.buildSource ack drop s.authority.buildId
  · exact h.stream.transfer rfl rfl hsame
  · obtain ⟨p, hp⟩ := h.stream.producing build hbuild
    have hp' := hp.withBuild (build.progress.acknowledged ack) rfl build.streaming
    exact h.stream.of_producing le_rfl rfl hnew (hp'.transfer rfl rfl)

theorem Current.detach (h : s.Current m) : (s.step .detach).Current m := by
  simp only [step]
  split
  · next build hbuild =>
    split_ifs
    · exact h
    · obtain ⟨p, hp⟩ := h.stream.producing build hbuild
      have hp' := hp.withBuild build.progress rfl false
      exact h.congr (h.stream.of_producing le_rfl rfl (build?_enter _) (hp'.transfer rfl rfl)) rfl rfl
        rfl
  · exact h

omit [DurableState σ] in
theorem get?_other {id : OperationId} (hid : ¬id = s.authority.buildId) (build : Option OutboundBuild) :
    (match build with
      | some build => s.engine.outboundBuilds.insert id build
      | none => s.engine.outboundBuilds.erase id).get? s.authority.buildId = s.build? := by
  cases build with
  | none => exact AssocMap.get?_erase_of_ne _ (Ne.symm hid)
  | some build => exact AssocMap.get?_insert_of_ne _ _ (Ne.symm hid)

variable {action : BuildStreamAction}

theorem Current.step [LawfulDurableState σ] (h : s.Current m) (hbuild : s.build? ≠ none)
    (hsafe : s.Safe action) : ∃ m', (s.step action).Current m' := by
  cases action with
  | produce action =>
    obtain ⟨source, -, hengine, hwriting, hanswered, -⟩ := produce_source (s := s) action
    exact ⟨m, h.congr (h.stream.produce action) hwriting hanswered (hengine ▸ rfl)⟩
  | write faults write recovering => exact ⟨m, h.write hbuild hsafe⟩
  | pass =>
    simp only [BuildStream.step]
    split
    · next r hw => exact ⟨_, h.pass hw⟩
    · exact ⟨m, h⟩
  | deliver accepted =>
    simp only [BuildStream.step]
    split
    · next hw => exact ⟨m, h.deliver hw accepted⟩
    · exact ⟨m, h⟩
  | acknowledge faults ack =>
    refine ⟨m, ?_⟩
    simp only [BuildStream.step]
    split_ifs with hw
    · exact h
    · have hnone := Option.not_isSome_iff_eq_none.1 hw
      exact h.acknowledge (recordAcknowledgement_log ack) hbuild faults hnone (hsafe hnone)
  | acknowledgeInSession faults ack session =>
    refine ⟨m, ?_⟩
    simp only [BuildStream.step]
    split_ifs with hw
    · exact h
    · have hnone := Option.not_isSome_iff_eq_none.1 hw
      exact h.acknowledge (recordReplicationAck_log ack session) hbuild faults hnone (hsafe hnone)
  | copied ack drop => exact ⟨m, h.copied ack drop⟩
  | detach => exact ⟨m, h.detach⟩
  | close => exact ⟨m, h.congr (h.stream.transfer rfl rfl rfl) rfl rfl rfl⟩
  | other id build =>
    refine ⟨m, ?_⟩
    simp only [BuildStream.step]
    split_ifs with hid
    · exact h
    · exact h.congr (h.stream.transfer rfl rfl (get?_other hid build)) rfl rfl rfl

/-- What a step can be: the producer's, one that only changes the engine, one of the write under way,
or one that the channel takes part in. -/
inductive Moves (s : BuildStream σ) : BuildStreamAction → BuildStream σ → Prop
  | idle {action : BuildStreamAction} : s.Moves action s
  | produce (action : ProducerAction) : s.Moves (.produce action) (s.produce action)
  | engine {action : BuildStreamAction} {e : Engine σ} {writing : Option WriteStage}
      {answered : List Int} (hw : s.writing = none)
      (hsame : e.outboundBuilds = s.engine.outboundBuilds)
      (hwriting : ∀ lsn items, writing ≠ some (.sending lsn items)) :
      s.Moves action { s with engine := e, writing := writing, answered := answered }
  | pass {r : RegisteredWrite} (hw : s.writing = some (.registered r)) : s.Moves .pass (s.pass r)
  | deliver {accepted : Bool} {lsn : Int} {items : List (OperationId × CopyItem)}
      (hw : s.writing = some (.sending lsn items)) :
      s.Moves (.deliver accepted) (s.deliver accepted lsn items)
  | builds {action : BuildStreamAction} {e : Engine σ}
      (hbuild : ∀ b', e.outboundBuilds.get? s.authority.buildId = some b' →
        ∃ b, s.build? = some b ∧ b.streaming = b'.streaming) :
      s.Moves action { s with engine := e }
  | detach {build : OutboundBuild} (hbuild : s.build? = some build) (hw : s.writing = none) :
      s.Moves .detach (s.enter { build with streaming := false } s.producer.stage)
  | close : s.Moves .close { s with closed := true }

theorem moves_step (action : BuildStreamAction) : s.Moves action (s.step action) := by
  have hfree : ¬s.writing.isSome = true → s.writing = none := Option.not_isSome_iff_eq_none.1
  cases action with
  | produce action => exact .produce action
  | write faults write recovering =>
    have hsame := sameBuilds_beginRegistration faults write recovering s.engine
    simp only [step]
    split_ifs with hw
    · exact .idle
    split <;> next hr =>
      rw [hr] at hsame
      exact .engine (hfree hw) hsame (by simp [hfree hw])
  | pass =>
    simp only [step]
    split
    · next hw => exact .pass hw
    · exact .idle
  | deliver accepted =>
    simp only [step]
    split
    · next hw => exact .deliver hw
    · exact .idle
  | acknowledge faults ack =>
    simp only [step]
    split_ifs with hw
    · exact .idle
    · exact .engine (hfree hw) (sameBuilds_acknowledge (recordAcknowledgement_log ack) faults _)
        (by simp [hfree hw])
  | acknowledgeInSession faults ack session =>
    simp only [step]
    split_ifs with hw
    · exact .idle
    · exact .engine (hfree hw) (sameBuilds_acknowledge (recordReplicationAck_log ack session) faults _)
        (by simp [hfree hw])
  | copied ack drop =>
    refine .builds fun b' hb' => ?_
    obtain hsame | ⟨build, hbuild, hnew⟩ :=
      outboundBuilds_acceptCopyAcknowledgement s.engine.buildSource ack drop s.authority.buildId
    · exact ⟨b', hsame.symm.trans hb', rfl⟩
    · cases hnew.symm.trans hb'
      exact ⟨build, hbuild, rfl⟩
  | detach =>
    simp only [step]
    split
    · next build hbuild =>
      split_ifs with hw
      · exact .idle
      · exact .detach hbuild (hfree fun hsome => hw (.inl hsome))
    · exact .idle
  | close => exact .close
  | other id build =>
    simp only [step]
    split_ifs with hid
    · exact .idle
    · exact .builds fun b hb => ⟨b, (get?_other hid build).symm.trans hb, rfl⟩

theorem Delivers.step (h : s.Delivers)
    (hp : ∀ build, s.build? = some build → ∃ m p, s.Producing build m p) (hsafe : s.Safe action) :
    (s.step action).Delivers := by
  have hmoves := moves_step (s := s) action
  generalize s.step action = s' at hmoves ⊢
  cases hmoves with
  | idle => exact h
  | produce action => exact h.produce action
  | engine hw hsame hwriting =>
    exact h.withEngine (unsent_of_none hw) (congrArg (·.get? s.authority.buildId) hsame) hwriting
  | pass hw => exact h.pass hw hp
  | deliver hw => exact h.deliver hw hsafe
  | builds hbuild => exact h.congr rfl rfl rfl rfl rfl hbuild
  | detach hbuild hw =>
    exact h.enter hbuild (unsent_of_none hw) fun hlive => .inr (hlive.resolve_left nofun)
  | close => exact ⟨h.taken, h.idle, nofun, nofun⟩

theorem step_of_gone (hbuild : s.build? = none) (action : BuildStreamAction) :
    (s.step action).build? = none ∧ (s.step action).recorded = s.recorded := by
  have hmoves := moves_step (s := s) action
  generalize s.step action = s' at hmoves ⊢
  cases hmoves with
  | idle | close => exact ⟨hbuild, rfl⟩
  | produce action =>
    simp only [BuildStream.produce, hbuild]
    exact ⟨trivial, trivial⟩
  | engine hw hsame => exact ⟨(congrArg (·.get? s.authority.buildId) hsame).trans hbuild, rfl⟩
  | pass hw => exact ⟨by rw [build?_pass, hbuild]; rfl, by simp [BuildStream.pass, hbuild]⟩
  | deliver hw =>
    unfold BuildStream.deliver
    split
    · exact ⟨hbuild, rfl⟩
    · split_ifs <;> exact ⟨hbuild, rfl⟩
  | builds h =>
    refine ⟨Option.eq_none_iff_forall_ne_some.2 fun b' hb' => ?_, rfl⟩
    obtain ⟨b, hb, -⟩ := h b' hb'
    cases hbuild.symm.trans hb
  | detach hb => cases hbuild.symm.trans hb

theorem authority_step (action : BuildStreamAction) :
    (s.step action).authority = s.authority := by
  have hmoves := moves_step (s := s) action
  generalize s.step action = s' at hmoves ⊢
  cases hmoves with
  | produce action =>
    obtain ⟨-, -, -, -, -, hauthority⟩ := produce_source (s := s) action
    exact hauthority
  | deliver =>
    unfold BuildStream.deliver
    split
    · rfl
    · split_ifs <;> rfl
  | idle | engine | pass | builds | detach | close => rfl

variable [LawfulDurableState σ]

theorem Sound.step (h : s.Sound) (hsafe : s.Safe action) : (s.step action).Sound := by
  have hdelivers : (s.step action).Delivers := by
    refine h.delivers.step (fun build hbuild => ?_) hsafe
    obtain ⟨m, hm⟩ := h.current (by simp [hbuild])
    exact ⟨m, hm.stream.producing build hbuild⟩
  by_cases hbuild : s.build? = none
  · obtain ⟨hgone, hrecorded⟩ := step_of_gone hbuild action
    refine ⟨?_, hdelivers, fun hne => absurd hgone hne⟩
    rw [boundary, authority_step, hrecorded]
    exact h.order
  · obtain ⟨m, hm⟩ := h.current hbuild
    obtain ⟨m', hm'⟩ := hm.step hbuild hsafe
    exact ⟨hm'.stream.order, hdelivers, fun _ => ⟨m', hm'⟩⟩

theorem Sound.run {actions : List BuildStreamAction} :
    ∀ {s : BuildStream σ}, s.Sound → s.Keeps actions → (s.run actions).Sound := by
  induction actions with
  | nil => exact fun h _ => h
  | cons action rest ih => exact fun h hkeeps => ih (h.step hkeeps.1) hkeeps.2

omit [LawfulDurableState σ] in
/-- The writes that are under way when the build is registered are in its history. -/
theorem sound_of_prepareCopy {a : BuildAuthority} {history : List Operation}
    (hmirror : Mirror e.localWriteState) (h : prepareCopy e a history = .ok s) : s.Sound := by
  have hstream := streamInv_of_prepareCopy h
  simp only [prepareCopy, Check.then_eq_ok, Check.rejectIf_eq_ok] at h
  obtain ⟨-, -, -, -, -, -, -, h⟩ := h
  obtain ⟨operations, -, h⟩ := Check.bind_eq_ok.1 h
  obtain rfl := Except.ok.inj (Check.then_eq_ok.1 h).2
  refine ⟨hstream.order, ⟨List.prefix_refl _, fun hne => absurd rfl hne, fun _ => List.prefix_refl _,
    fun _ _ _ _ => rfl⟩, fun _ => ⟨_, hstream, ⟨hmirror, .inl (le_max_right _ _)⟩, ?_⟩⟩
  exact fun _ hlsn => absurd hlsn List.not_mem_nil

omit [LawfulDurableState σ] in
theorem boundary_run (actions : List BuildStreamAction) :
    ∀ s : BuildStream σ, (s.run actions).boundary = s.boundary := by
  induction actions with
  | nil => exact fun _ => rfl
  | cons action rest ih =>
    exact fun s => (ih (s.step action)).trans (congrArg (·.replicationBoundaryLsn) (authority_step action))

end Step

end BuildStream

end Runs

/-! ## A primary on its own -/

namespace SoleReplica

open BuildStream

def identity : ReplicaIdentity := ⟨1, "a", "g"⟩

/-- The configuration with this replica alone, whose writes commit at once. -/
def authority : ManagedReplicaConfiguration where
  localIdentity := identity
  previousConfiguration := none
  currentConfiguration := ⟨"c", ⟨0, 1⟩, 1, [⟨identity, .primary⟩], 1⟩
  switchoverHandoff := none
  secondaryRemoval := none
  scaleUp := none
  buildKind := .provisioning

/-- The second replica is built for an expansion. -/
def build : BuildAuthority :=
  ⟨"b", .provisioning, identity, ⟨2, "b", "g"⟩, authority.currentConfiguration, 0⟩

/-- The primary with the build admitted and no write yet. -/
def primary : Engine LogStorage :=
  { Engine.new identity ⟨[], 0⟩ with
    configuration := some authority
    isOpen := true
    role := .primary
    writeStatus := .granted
    authority := some authority
    buildAuthorities := AssocMap.insert ∅ "b" build
    replicationProgress := some ⟨authority.fence, 0⟩
    log := ReplicationLog.configurePrevalidated
      { ReplicationLog.new identity with isOpen := true, role := .primary, epoch := ⟨0, 1⟩ }
      authority 0 }

/-- The build as `prepare_copy` registers it. -/
def prepared : BuildStream LogStorage where
  engine := { primary with
    outboundBuilds := AssocMap.insert ∅ "b" (OutboundBuild.start (.initial build) 0) }
  producer := ⟨build, ∅, .snapshot 1, none⟩
  writing := none
  recorded := []
  sent := []
  closed := false
  answered := []

theorem prepareCopy_eq : prepareCopy primary build [] = .ok prepared := rfl

theorem mirror_primary : Mirror primary.localWriteState where
  keyed _ _ h := by cases h
  localKeyed _ _ h := by cases h
  journalled _ _ h := by cases h
  known _ _ h := by cases h.1

def write (id : OperationId) (recovering : Bool) : BuildStreamAction :=
  .write (fun _ => none) ⟨id, [7]⟩ recovering

/-- A snapshot of one chunk; the first write is queued and the second one is sent directly. -/
def actions : List BuildStreamAction :=
  [.produce (.chunk [1]), .produce .send, write "v" false, .pass, .deliver true,
    .produce (.freeze none), .produce .final, .produce .send, .produce .drain, .produce .emit,
    .produce .send, .produce .drain, write "w" false, .pass, .deliver true, .deliver true]

theorem safe_write {s : BuildStream LogStorage} {id : OperationId} (n : Int) (hboundary : s.boundary = 0)
    (hnew : (s.engine.journal.get? id).isNone = true)
    (hle : max (committedLsn s.engine.storage) s.engine.log.quorum.committedLsn ≤ n)
    (hhas : ∀ lsn, 0 < lsn → lsn ≤ n → s.Has lsn) : s.Safe (write id false) := by
  intro _ lsn hlacks hfound
  simp only [FoundCommitted, Option.isNone_iff_eq_none.1 hnew] at hfound
  exact hlacks.2.2 (hhas lsn (hboundary ▸ hlacks.2.1) (hfound.trans hle))

theorem keeps_actions : prepared.Keeps actions := by
  refine ⟨trivial, trivial, safe_write 0 (boundary_run (actions.take 2) prepared) (by decide +kernel)
      (by decide +kernel) (fun lsn hlow hle => by omega), trivial, nofun,
    trivial, trivial, trivial, trivial, trivial, trivial, trivial,
    safe_write 1 (boundary_run (actions.take 12) prepared) (by decide +kernel) (by decide +kernel) ?_,
    trivial, nofun, nofun, trivial⟩
  -- The first write has been emitted.
  intro lsn hlow hle
  have hemitted : ((prepared.run (actions.take 12)).build?.any (·.hasEmitted 1)) = true := by
    decide +kernel
  obtain ⟨b, hb, hlsn⟩ := (Option.any_eq_true _ _).1 hemitted
  obtain rfl : lsn = 1 := by omega
  exact .inr (.inr ⟨b, hb, .inl hlsn⟩)

/-- The journal fails when the first write is to be recorded as committed, and the write is
retried. -/
def interrupted : List BuildStreamAction :=
  [.produce (.freeze none), .produce .final, .produce .send, .produce .drain,
    .write (fun i => if i = 3 then some .closed else none) ⟨"v", [7]⟩ false, write "v" false,
    write "w" false, .pass, .deliver true, .deliver true]

end SoleReplica

end Kuberic
