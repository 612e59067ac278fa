import Kuberic.Replicator.Progress
import Kuberic.Runtime.WriteParts
import Kuberic.Runtime.Delivery

/-!
# What the primary's functions do to storage and progress

`Carries` is the whole effect of the functions of `Kuberic.Runtime.Write` on what a commit depends
on: the storage keeps its operations, the authority stays, and the progress map moves only by raising
the local entry to an LSN that the storage holds, or as an acknowledgement allows.  All of them but
the end of a write also never lower the published progress: they `Advances` the engine.
-/

namespace Kuberic

open Effect DurableState

variable {σ : Type} [DurableState σ] [LawfulDurableState σ]

/-- A new progress entry: the local one, covered by the storage, or one that `acked` allows. -/
def NewProgress (acked : ReplicaIdentity → Int → Prop) (e e' : Engine σ) (m : ReplicaIdentity)
    (v : Int) : Prop :=
  (e.log.quorum.authority.map (·.localIdentity) = some m ∧ v ≤ appliedLsn e'.storage) ∨ acked m v

structure Carries (acked : ReplicaIdentity → Int → Prop) (e e' : Engine σ) : Prop where
  fixed : e'.fixed = e.fixed
  localIdentity : e'.log.localIdentity = e.log.localIdentity
  logAuthority : e'.log.authority = e.log.authority
  quorumAuthority : e'.log.quorum.authority = e.log.quorum.authority
  storage : Grows e.storage e'.storage
  progress : ProgressFrom e.log.quorum.progress e'.log.quorum.progress (NewProgress acked e e')
  bounded : Bounded e → Bounded e'

structure Advances (acked : ReplicaIdentity → Int → Prop) (e e' : Engine σ) : Prop
    extends Carries acked e e' where
  current : e.currentProgress ≤ e'.currentProgress

section Carries

variable {acked : ReplicaIdentity → Int → Prop} {e e' e'' : Engine σ}

namespace Carries

theorem refl (acked : ReplicaIdentity → Int → Prop) (e : Engine σ) : Carries acked e e :=
  ⟨rfl, rfl, rfl, rfl, .refl _, .refl _ _, id⟩

/-- Acknowledged credit, or local progress that the storage covers, carries over to a later state. -/
theorem trans (hacked : ∀ m v w, v ≤ w → acked m w → acked m v) (h : Carries acked e e')
    (h' : Carries acked e' e'') : Carries acked e e'' where
  fixed := h'.fixed.trans h.fixed
  localIdentity := h'.localIdentity.trans h.localIdentity
  logAuthority := h'.logAuthority.trans h.logAuthority
  quorumAuthority := h'.quorumAuthority.trans h.quorumAuthority
  storage := h.storage.trans h'.storage
  bounded := h'.bounded ∘ h.bounded
  progress := by
    intro m v hv
    obtain ⟨w, hw, hle⟩ | ⟨hlocal, hv⟩ | hack := h'.progress m v hv
    · obtain ⟨w', hw', hle'⟩ | ⟨hlocal, hw⟩ | hack := h.progress m w hw
      · exact .inl ⟨w', hw', hle.trans hle'⟩
      · exact .inr (.inl ⟨hlocal, (hle.trans hw).trans h'.storage.applied⟩)
      · exact .inr (.inr (hacked m v w hle hack))
    · exact .inr (.inl ⟨h.quorumAuthority ▸ hlocal, hv⟩)
    · exact .inr (.inr hack)

theorem of_eq (hf : e'.fixed = e.fixed) (hl : e'.log = e.log) (hs : e'.storage = e.storage)
    (hb : Bounded e → Bounded e') : Carries acked e e' := by
  refine ⟨hf, ?_, ?_, ?_, ?_, ?_, hb⟩
  · rw [hl]
  · rw [hl]
  · rw [hl]
  · rw [hs]
    exact .refl _
  · rw [hl]
    exact .refl _ _

theorem identity (h : Carries acked e e') : e'.identity = e.identity :=
  congrArg EngineFixed.identity h.fixed

end Carries

namespace Advances

theorem refl (acked : ReplicaIdentity → Int → Prop) (e : Engine σ) : Advances acked e e :=
  ⟨.refl acked e, le_refl _⟩

theorem trans (hacked : ∀ m v w, v ≤ w → acked m w → acked m v) (h : Advances acked e e')
    (h' : Advances acked e' e'') : Advances acked e e'' :=
  ⟨h.toCarries.trans hacked h'.toCarries, h.current.trans h'.current⟩

theorem of_eq (hf : e'.fixed = e.fixed) (hl : e'.log = e.log) (hs : e'.storage = e.storage)
    (hcurrent : e.currentProgress ≤ e'.currentProgress) (hb : Bounded e → Bounded e') :
    Advances acked e e' :=
  ⟨.of_eq hf hl hs hb, hcurrent⟩

theorem of_same (hf : e'.fixed = e.fixed) (hl : e'.log = e.log) (hs : e'.storage = e.storage)
    (hc : e'.counted = e.counted) : Advances acked e e' := by
  have hcur : e'.currentProgress = e.currentProgress := congrArg (·.2.2) hc
  refine of_eq hf hl hs hcur.ge fun hb => ?_
  have hp : e'.replicationProgress = e.replicationProgress := congrArg Prod.fst hc
  have hst : e'.progressStore = e.progressStore := congrArg (·.2.1) hc
  refine ⟨?_, ?_, ?_⟩
  · rw [hp, hs]
    exact hb.progress
  · rw [hst, hs]
    exact hb.store
  · rw [hcur, hs]
    exact hb.current

theorem of_log {log : ReplicationLog} (h : LogAdvance e.log log (NewProgress acked e e)) :
    Advances acked e { e with log := log } where
  fixed := rfl
  localIdentity := h.localIdentity
  logAuthority := h.authority
  quorumAuthority := h.quorumAuthority
  storage := .refl _
  progress := h.progress
  bounded h := ⟨h.progress, h.store, h.current⟩
  current := le_refl _

theorem of_storage {s : σ} (h : Grows e.storage s) : Advances acked e { e with storage := s } where
  fixed := rfl
  localIdentity := rfl
  logAuthority := rfl
  quorumAuthority := rfl
  storage := h
  progress := .refl _ _
  bounded hb := hb.grows h.applied
  current := le_refl _

end Advances

end Carries

section Along

variable {acked : ReplicaIdentity → Int → Prop}
  (hacked : ∀ m v w, v ≤ w → acked m w → acked m v)

include hacked

theorem stepwise_advances : Stepwise (Advances acked : Engine σ → Engine σ → Prop) :=
  ⟨.refl acked, .trans hacked⟩

theorem along_attempt (fault : Option RuntimeError) :
    Along (Advances acked) (attempt fault : EngineM σ Unit) := by
  cases fault with
  | none => exact (stepwise_advances hacked).pure _
  | some error => exact (stepwise_advances hacked).fail _

theorem along_recordLocalWrite (fault : Option RuntimeError) (write : DurableLocalWrite) :
    Along (Advances acked) (recordLocalWrite fault write : EngineM σ Unit) :=
  (stepwise_advances hacked).bind (along_attempt hacked fault) fun _ =>
    along_update fun _ => .of_same rfl rfl rfl rfl

omit hacked in
theorem along_commitStorage (committedLsn : Int) :
    Along (Advances acked) (commitStorage committedLsn : EngineM σ DurableApplicationProgress) :=
  along_zoom fun e => .of_storage (grows_commit e.storage committedLsn)

theorem along_recordLocalWrites (writes : List DurableLocalWrite) :
    ∀ faults : Faults,
      Along (Advances acked) (recordLocalWrites faults writes : EngineM σ Unit) := by
  have hR := stepwise_advances (σ := σ) hacked
  induction writes with
  | nil => exact fun _ => hR.pure _
  | cons write rest ih => exact fun _ => hR.bind (along_recordLocalWrite hacked _ _) fun _ => ih _

theorem along_finalizeReadyCommitLocked (faults : Faults) :
    Along (Advances acked) (finalizeReadyCommitLocked faults : EngineM σ Unit) := by
  have hR := stepwise_advances (σ := σ) hacked
  refine hR.bind hR.observe fun e => ?_
  cases e.log.quorum.readyCommitLsn with
  | none => exact hR.pure _
  | some readyLsn =>
    refine hR.bind (along_commitStorage readyLsn) fun progress => ?_
    refine hR.bind (hR.require _ _) fun _ => hR.bind hR.observe fun _ => ?_
    refine hR.bind (along_recordLocalWrites hacked _ faults) fun _ => ?_
    refine hR.bind (along_zoom fun e => .of_log (.finalizeCommit readyLsn)) fun _ => ?_
    exact along_update fun _ => .of_same rfl rfl rfl rfl

theorem along_reserveLocalWrite (fault : Option RuntimeError) (write : ClientWrite)
    (recovering : Bool) :
    Along (Advances acked) (reserveLocalWrite fault write recovering :
      EngineM σ DurableLocalWrite) := by
  have hR := stepwise_advances (σ := σ) hacked
  refine hR.bind hR.observe fun e => ?_
  cases e.journal.get? write.operationId with
  | some existing => exact hR.bind (hR.require _ _) fun _ => hR.pure _
  | none =>
    refine hR.bind (hR.require _ _) fun _ => ?_
    refine hR.bind (along_zoom fun e => .of_log (.reserveWrite write)) fun lsn => ?_
    refine hR.bind (along_recordLocalWrite hacked _ _) fun _ => ?_
    exact hR.bind (along_update fun _ => .of_same rfl rfl rfl rfl) fun _ => hR.pure _

end Along

/-! ## Writes -/

section Writes

variable {acked : ReplicaIdentity → Int → Prop}
  (hacked : ∀ m v w, v ≤ w → acked m w → acked m v) {e₀ : Engine σ}

include hacked

omit e₀ in
theorem along_restoreReservation (write : ClientWrite) (durable : DurableLocalWrite) :
    Along (Advances acked) (restoreReservation write durable : EngineM σ Unit) := by
  unfold restoreReservation
  split_ifs
  · exact along_zoom fun e => .of_log (.restoreWriteReservation write _)
  · exact (stepwise_advances hacked).pure _

omit e₀ in
theorem advances_verifyLocalWriteProgress {lsn : Int} {e : Engine σ}
    (hle : lsn ≤ appliedLsn e.storage) :
    Advances acked e ((verifyLocalWriteProgress lsn).run e).2 := by
  have h₀ : Advances acked e e := .refl acked e
  refine run_of_triple ?_
  refine checks_observe.bind h₀ ?_
  rintro _ rfl
  refine checks_demand.bind h₀ fun progress _ => ?_
  split_ifs with hnext
  · refine (triple_recordReplicationProgress.error fun _ h => h ▸ h₀).bind fun _ => triple_update ?_
    rintro _ rfl
    refine Advances.trans hacked (.of_log (.recordVerifiedLocalProgress lsn)) ?_
    refine .of_eq rfl rfl rfl (le_refl _) fun hb => ⟨?_, ?_, hb.current⟩
    · rintro r ⟨⟩
      exact hle
    · intro f v hv
      rw [AssocMap.get?_insert] at hv
      split_ifs at hv
      · obtain rfl := Option.some.inj hv
        exact hle
      · exact hb.store f v hv
  · exact triple_pure fun _ h => h ▸ h₀

/-- The operation is stored, and the storage has reported the progress `ack` at some time after it
held `base`. -/
def Applied (base : Int) (operation : Operation) (ack : DurableApplicationProgress) (s : σ) : Prop :=
  Stored s operation.lsn operation.data ∧ base ≤ ack.appliedLsn ∧ ack.appliedLsn ≤ appliedLsn s

omit e₀ hacked in
theorem Applied.advances {base : Int} {operation : Operation} {ack : DurableApplicationProgress}
    {e e' : Engine σ} (h : Advances acked e e') (hs : Applied base operation ack e.storage) :
    Applied base operation ack e'.storage :=
  ⟨hs.1.grows h.storage, hs.2.1, hs.2.2.trans h.storage.applied⟩

theorem triple_applyLocalWrite (operation : Operation) :
    Triple (Advances acked e₀) (applyLocalWrite operation)
      (fun ack e => Advances acked e₀ e ∧
        Applied (appliedLsn e₀.storage) operation ack e.storage)
      (Advances acked e₀) := by
  refine triple_observe_bind fun e he => ?_
  simp only
  split_ifs with hle
  · refine checks_require.bind he fun _ hv => triple_pure ?_
    rintro _ rfl
    exact ⟨he, LawfulDurableState.verifyApplied_true _ _ hv, he.storage.applied, le_refl _⟩
  · refine checks_require.bind he fun _ hnext => ?_
    refine triple_zoom.post ?_ ?_
    · rintro ack _ ⟨hok, rfl⟩
      have hgrow := grows_apply e.storage operation
      refine ⟨he.trans hacked (.of_storage hgrow), ?_⟩
      obtain ⟨hack, happlied, hdata⟩ := LawfulDurableState.apply_ok e.storage operation hok
      have happlied' : ack.appliedLsn = appliedLsn (DurableState.apply e.storage operation).2 := by
        rw [hack]
        rfl
      refine ⟨⟨happlied.ge, hdata⟩, ?_, happlied'.le⟩
      exact (he.storage.applied.trans hgrow.applied).trans happlied'.ge
    · rintro _ rfl
      exact he.trans hacked (.of_storage (grows_apply e.storage operation))

theorem triple_restoreCommitted (operation : Operation) (operationId : OperationId)
    (progress : DurableApplicationProgress) :
    Triple (fun e => Advances acked e₀ e ∧ operation.lsn ≤ appliedLsn e.storage ∧
        progress.appliedLsn ≤ appliedLsn e.storage)
      (restoreCommitted operation operationId progress) (fun _ => Advances acked e₀)
      (Advances acked e₀) := by
  refine Triple.bind (R := fun _ e => Advances acked e₀ e ∧
    progress.appliedLsn ≤ appliedLsn e.storage) ?_ fun _ => ?_
  · rintro e ⟨he, hle, hprogress⟩
    have hlog : Advances acked e { e with log := (e.log.restoreCommittedWrite operation).2 } :=
      .of_log (.restoreCommittedWrite fun a ha => .inl ⟨by rw [ha]; rfl, hle⟩)
    exact (triple_zoom (t := e)).post (fun _ _ h => h.2 ▸ ⟨he.trans hacked hlog, hprogress⟩)
      (fun _ h => h ▸ he.trans hacked hlog) e rfl
  · refine triple_update_bind (I := Advances acked e₀) (fun e he => ?_) (triple_pure fun _ h => h)
    exact he.1.trans hacked (.of_eq rfl rfl rfl (le_max_left _ _) fun hb =>
      ⟨hb.progress, hb.store, max_le hb.current he.2⟩)

/-- The items of a registered write are stored operations of the primary, and its application has
reported the progress it carries. -/
def RegisteredWrite.Sound (base : Int) (registered : RegisteredWrite) (s : σ) : Prop :=
  (∀ item ∈ registered.prepared.items, Stored s item.lsn item.data) ∧
    base ≤ registered.ack.appliedLsn ∧ registered.ack.appliedLsn ≤ appliedLsn s

theorem triple_registerLocalWrite (hq : e₀.log.quorum.authority = e₀.log.authority)
    {base : Int} (fault : Option RuntimeError) (write : ClientWrite) (durable : DurableLocalWrite)
    (operation : Operation) (ack : DurableApplicationProgress) :
    Triple (fun e => Advances acked e₀ e ∧ Applied base operation ack e.storage)
      (registerLocalWrite fault write durable operation ack)
      (fun registered e => Advances acked e₀ e ∧ registered.Sound base e.storage)
      (Advances acked e₀) := by
  have hR := stepwise_advances (σ := σ) hacked
  refine (hR.triple (along_recordLocalWrite hacked _ _) Applied.advances e₀).bind fun _ => ?_
  refine Triple.bind (hR.triple (along_update ?_) Applied.advances e₀) fun _ => ?_
  · exact fun _ => .of_same rfl rfl rfl rfl
  refine (hR.triple (along_restoreReservation hacked write durable) Applied.advances e₀).bind
    fun _ => ?_
  refine Triple.bind (R := fun (prepared : PreparedWrite) e => Advances acked e₀ e ∧
    RegisteredWrite.Sound base ⟨prepared, operation, ack⟩ e.storage) ?_
    fun _ => triple_pure fun _ h => h
  rintro e ⟨he, hstored, hack⟩
  have hcons : e.log.quorum.authority = e.log.authority := by
    rw [he.quorumAuthority, he.logAuthority, hq]
  have hlog : Advances acked e { e with log := (e.log.ensureLocalWriteRegistered operation).2 } :=
    .of_log (.ensureLocalWriteRegistered hcons fun a ha => .inl ⟨by rw [ha]; rfl, hstored.1⟩)
  refine (triple_zoom (t := e)).post ?_ (fun _ h => h ▸ he.trans hacked hlog) e rfl
  rintro prepared _ ⟨hok, rfl⟩
  refine ⟨he.trans hacked hlog, fun item hitem => ?_, hack⟩
  obtain ⟨error, herr⟩ | ⟨prepared', log', a, hcase, reg⟩ :=
    ensureLocalWriteRegistered_cases e.log operation hcons
  · rw [herr] at hok
    cases hok
  · rw [hcase] at hok
    obtain rfl := Except.ok.inj hok
    obtain ⟨hlsn, hdata⟩ := reg.mem_items hitem
    rw [hlsn, hdata]
    exact hstored

/-- A write that starts moves the engine along, and what it registers for sending is stored. -/
theorem triple_startWriteLocked (hq : e₀.log.quorum.authority = e₀.log.authority)
    (faults : Faults) (write : ClientWrite) (recovering : Bool) :
    Triple (· = e₀) (startWriteLocked faults write recovering)
      (fun r e => Advances acked e₀ e ∧ ∀ registered, r = .inr registered →
        registered.Sound (appliedLsn e₀.storage) e.storage) (Advances acked e₀) := by
  have hR := stepwise_advances (σ := σ) hacked
  have hreserve := along_beginReservation hR (along_reserveLocalWrite hacked (faults 0) write recovering)
  refine (hreserve.triple e₀).bind fun durable => ?_
  refine triple_observe_bind fun e₁ he₁ => ?_
  have hrestore := fun progress => (triple_restoreCommitted hacked
    ⟨durable.lsn, durable.committedLsn, write.data⟩ write.operationId progress :
    Triple _ _ (fun _ => Advances acked e₀) (Advances acked e₀))
  simp only
  split_ifs with hphase
  · refine checks_ofExcept.bind he₁ fun _ hvalid => ?_
    have hle : durable.lsn ≤ appliedLsn e₁.storage := (le_of_validateDurableAck hvalid).2
    have hkeep : ∀ {s t : Engine σ}, Advances acked s t →
        (durable.lsn ≤ appliedLsn s.storage ∧ appliedLsn e₁.storage ≤ appliedLsn s.storage) →
        durable.lsn ≤ appliedLsn t.storage ∧ appliedLsn e₁.storage ≤ appliedLsn t.storage :=
      fun h hs => ⟨hs.1.trans h.storage.applied, hs.2.trans h.storage.applied⟩
    refine Triple.bind ((hR.triple_of (fun s hs => advances_verifyLocalWriteProgress hacked hs.1)
      hkeep e₀).pre (by rintro s rfl; exact ⟨he₁, hle, le_refl _⟩)) fun _ => ?_
    exact (hrestore _).bind fun _ => triple_pure fun _ h => ⟨h, fun _ h => by cases h⟩
  · refine Triple.bind ((triple_applyLocalWrite hacked _).pre fun _ h => h ▸ he₁) fun ack => ?_
    refine Triple.bind (hR.triple (hR.ofExcept _) Applied.advances e₀) fun _ => ?_
    refine (hR.triple_of (fun s hs => advances_verifyLocalWriteProgress hacked hs.1.1)
      Applied.advances e₀).bind fun _ => ?_
    split_ifs with hcommitted
    · refine (hR.triple (along_recordLocalWrite hacked _ _) Applied.advances e₀).bind fun _ => ?_
      exact ((hrestore _).pre fun _ h => ⟨h.1, h.2.1.1, h.2.2.2⟩).bind fun _ =>
        triple_pure fun _ h => ⟨h, fun _ h => by cases h⟩
    · refine Triple.bind (triple_registerLocalWrite hacked hq (faults 2) write durable
        ⟨durable.lsn, durable.committedLsn, write.data⟩ ack) fun registered => triple_pure ?_
      rintro s ⟨hs, hsound⟩
      refine ⟨hs, ?_⟩
      rintro _ ⟨⟩
      exact hsound

omit e₀ hacked in
theorem carries_finishWrite {registered : RegisteredWrite} {e : Engine σ}
    (h : registered.ack.appliedLsn ≤ appliedLsn e.storage) :
    Carries acked e ((finishWrite registered).run e).2 :=
  .of_eq rfl rfl rfl fun hb => ⟨hb.progress, hb.store, h⟩

theorem triple_recordApplicationProgress :
    Triple (· = e₀) recordApplicationProgress
      (fun _ e => Advances acked e₀ e ∧ appliedLsn e₀.storage ≤ e.currentProgress)
      (Advances acked e₀) := by
  refine checks_observe.bind (.refl acked e₀) ?_
  rintro e rfl
  refine triple_update_bind (I := fun s => Advances acked e s ∧ s.storage = e.storage ∧
    appliedLsn e.storage ≤ s.currentProgress)
    (fun s hs => hs ▸ ⟨.of_eq rfl rfl rfl (le_max_left _ _) fun hb =>
      ⟨hb.progress, hb.store, ?_⟩, rfl, le_max_right _ _⟩) ?_
  · exact max_le hb.current (le_refl _)
  rintro s ⟨hs, hstorage, hcurrent⟩
  split_ifs
  · have hlog : Advances acked s
        { s with log := (s.log.recordLocalProgress (appliedLsn e.storage)).2 } :=
      .of_log (.recordLocalProgress fun a ha => .inl ⟨by rw [ha]; rfl, by rw [hstorage]⟩)
    exact (triple_zoom (t := s)).post (fun _ _ h => h.2 ▸ ⟨hs.trans hacked hlog, hcurrent⟩)
      (fun _ h => h ▸ hs.trans hacked hlog) s rfl
  · exact ⟨hs, hcurrent⟩

end Writes

/-! ## The steps of a primary -/

/-- One step of the primary on its own.  A client write, an acknowledgement and a refresh end in
`finalizeReadyCommitLocked`, which is a step of its own. -/
inductive PrimaryAction
  | write (faults : Faults) (write : ClientWrite)
  | resume (faults : Faults) (write : ClientWrite)
  | finish (registered : RegisteredWrite)
  | acknowledge (ack : ReplicationAck)
  | acknowledgeInSession (ack : ReplicationAck) (session : ProcessSessionId)
  | registerSession (peer : ReplicaIdentity) (session : ProcessSessionId)
  | repair (peer : ReplicaIdentity) (peerProgress : Int)
  | refresh
  | finalize (faults : Faults)

/-- The items that the registration of a write hands out for sending. -/
def startedItems : Result (PendingWrite ⊕ RegisteredWrite) → List ReplicationItem
  | .ok (.inr registered) => registered.prepared.items
  | _ => []

def repairItems : Result (List ReplicationItem × Result Unit) → List ReplicationItem
  | .ok (items, _) => items
  | .error _ => []

namespace PrimaryAction

/-- The items that the step sends, and the engine it leaves. -/
def run (action : PrimaryAction) (e : Engine σ) : List ReplicationItem × Engine σ :=
  match action with
  | write faults w =>
    (startedItems ((startWrite faults w).run e).1, ((startWrite faults w).run e).2)
  | resume faults w =>
    (startedItems ((startWriteLocked faults w true).run e).1,
      ((startWriteLocked faults w true).run e).2)
  | finish registered => ([], ((finishWrite registered).run e).2)
  | acknowledge ack => ([], ((recordAcknowledgement ack).run e).2)
  | acknowledgeInSession ack session => ([], ((recordReplicationAck ack session).run e).2)
  | registerSession peer session => ([], ((registerPeerSession peer session).run e).2)
  | repair peer progress =>
    (repairItems ((repairPeerFromHistory peer progress).run e).1,
      ((repairPeerFromHistory peer progress).run e).2)
  | refresh => ([], (recordApplicationProgress.run e).2)
  | finalize faults => ([], ((finalizeReadyCommitLocked faults).run e).2)

/-- The acknowledgement that the step takes in. -/
def ack? : PrimaryAction → Option ReplicationAck
  | acknowledge ack | acknowledgeInSession ack _ => some ack
  | _ => none

/-- A write is finished with a progress that its application has reported. -/
def Finishes (action : PrimaryAction) (s : σ) : Prop :=
  ∀ registered, action = .finish registered → registered.ack.appliedLsn ≤ appliedLsn s

end PrimaryAction

section Run

variable {acked : ReplicaIdentity → Int → Prop}
  (hacked : ∀ m v w, v ≤ w → acked m w → acked m v) {e : Engine σ}

include hacked

omit hacked in
theorem advances_started {x : EngineM σ (PendingWrite ⊕ RegisteredWrite)}
    (h : Triple (· = e) x (fun r e' => Advances acked e e' ∧ ∀ registered, r = .inr registered →
      registered.Sound (appliedLsn e.storage) e'.storage) (Advances acked e)) :
    Advances acked e (x.run e).2 ∧
      ∀ item ∈ startedItems (x.run e).1, Stored (x.run e).2.storage item.lsn item.data := by
  have hpost := h e rfl
  match hr : x.run e, hpost with
  | (.ok (.inl pending), e'), ⟨he, _⟩ => exact ⟨he, fun _ hitem => by cases hitem⟩
  | (.ok (.inr registered), e'), ⟨he, hsound⟩ => exact ⟨he, (hsound registered rfl).1⟩
  | (.error error, e'), he => exact ⟨he, fun _ hitem => by cases hitem⟩

/-- Every step of the primary but the end of a write advances it, and what it sends is stored. -/
theorem advances_run (hq : e.log.quorum.authority = e.log.authority) {action : PrimaryAction}
    (hfinish : ∀ registered, action ≠ .finish registered)
    (hack : ∀ ack a, action.ack? = some ack → e.log.quorum.authority = some a →
      a.validateAcknowledgement ack = .ok () → acked ack.receiver ack.appliedLsn) :
    Advances acked e (action.run e).2 ∧
      ∀ item ∈ (action.run e).1, Stored (action.run e).2.storage item.lsn item.data := by
  cases action with
  | write faults w =>
    refine advances_started ?_
    exact checks_checkNoPendingConfiguration.bind (.refl acked e) fun _ _ =>
      triple_startWriteLocked hacked hq faults w false
  | resume faults w => exact advances_started (triple_startWriteLocked hacked hq faults w true)
  | finish registered => exact absurd rfl (hfinish registered)
  | acknowledge ack =>
    refine ⟨?_, fun _ hitem => by cases hitem⟩
    exact recordAcknowledgement_keeps (.refl acked e)
      (.of_log (.acknowledge fun a ha hv => .inr (hack ack a rfl ha hv)))
  | acknowledgeInSession ack session =>
    refine ⟨?_, fun _ hitem => by cases hitem⟩
    exact recordReplicationAck_keeps (.refl acked e)
      (.of_log (.acknowledgeInSession fun a ha hv => .inr (hack ack a rfl ha hv)))
  | registerSession peer session =>
    refine ⟨?_, fun _ hitem => by cases hitem⟩
    exact registerPeerSession_keeps (.refl acked e) (.of_log (.registerPeerSession peer session))
  | repair peer progress =>
    have hpost := post_of_triple (triple_repairPeerFromHistory (e := e) peer progress)
    simp only [PrimaryAction.run]
    match hr : (repairPeerFromHistory peer progress).run e, hpost with
    | (.ok (items, result), _), ⟨⟨targets, rfl⟩, hitems⟩ =>
      refine ⟨.of_same rfl rfl rfl rfl, fun item hitem => ?_⟩
      obtain ⟨operations, hget, operation, hop, hlsn, hdata⟩ := hitems item hitem
      obtain ⟨happlied, hstored, -⟩ :=
        LawfulDurableState.getReplicationOperations_mem e.storage hget operation hop
      exact hlsn ▸ hdata ▸ ⟨happlied, hstored⟩
    | (.error error, _), rfl => exact ⟨.refl acked e, fun _ hitem => by cases hitem⟩
  | refresh =>
    refine ⟨?_, fun _ hitem => by cases hitem⟩
    exact (triple_recordApplicationProgress hacked).holds (fun _ _ h => h.1) (fun _ h => h) e rfl
  | finalize faults =>
    exact ⟨along_finalizeReadyCommitLocked hacked faults e, fun _ hitem => by cases hitem⟩

theorem carries_run (hq : e.log.quorum.authority = e.log.authority) {action : PrimaryAction}
    (hfinishes : action.Finishes e.storage)
    (hack : ∀ ack a, action.ack? = some ack → e.log.quorum.authority = some a →
      a.validateAcknowledgement ack = .ok () → acked ack.receiver ack.appliedLsn) :
    Carries acked e (action.run e).2 ∧
      ∀ item ∈ (action.run e).1, Stored (action.run e).2.storage item.lsn item.data := by
  by_cases hfinish : ∃ registered, action = .finish registered
  · obtain ⟨registered, rfl⟩ := hfinish
    exact ⟨carries_finishWrite (hfinishes registered rfl), fun _ hitem => by cases hitem⟩
  · obtain ⟨hadvances, hitems⟩ := advances_run hacked hq (fun r h => hfinish ⟨r, h⟩) hack
    exact ⟨hadvances.toCarries, hitems⟩

end Run

end Kuberic
