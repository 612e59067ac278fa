import Mathlib.Logic.Relation
import Kuberic.Runtime.Member
import Kuberic.Runtime.Primary

/-!
# Commit under one authority

The replicas of one admitted authority and the network between them.  What was sent stays in the
network for ever, so that an item or an acknowledgement may arrive late, often or never.  The
primary's progress map counts for a member only what that member has verified against the primary's
own operations; a commit is therefore durable on a write quorum of both configurations.
-/

namespace Kuberic

open DurableState

variable {σ : Type}

/-- The engines of the replicas, and everything that was ever sent. -/
structure Cluster (σ : Type) where
  engines : ReplicaIdentity → Engine σ
  items : List ReplicationItem
  acks : List ReplicationAck

namespace Cluster

def storage (c : Cluster σ) (m : ReplicaIdentity) : σ := (c.engines m).storage

def setEngine (c : Cluster σ) (m : ReplicaIdentity) (e : Engine σ) : Cluster σ :=
  { c with engines := Function.update c.engines m e }

@[simp] theorem setEngine_self (c : Cluster σ) (m : ReplicaIdentity) (e : Engine σ) :
    (c.setEngine m e).engines m = e := Function.update_self ..

variable {m : ReplicaIdentity}

theorem setEngine_of_ne (c : Cluster σ) {m' : ReplicaIdentity} (e : Engine σ) (h : m' ≠ m) :
    (c.setEngine m e).engines m' = c.engines m' := Function.update_of_ne h ..

variable [DurableState σ]

/-- The primary `p` takes a step and sends what the step hands out. -/
def primaryStep (c : Cluster σ) (p : ReplicaIdentity) (action : PrimaryAction) : Cluster σ :=
  let r := action.run (c.engines p)
  { c.setEngine p r.2 with items := c.items ++ r.1 }

/-- The member `m` takes a step and sends the acknowledgement that the step issues. -/
def memberStep (c : Cluster σ) (m : ReplicaIdentity) (action : MemberAction) : Cluster σ :=
  let r := action.run (c.engines m)
  { c.setEngine m r.2 with acks := c.acks ++ r.1.toList }

variable [LawfulDurableState σ]

/-- Up to `lsn`, the member `m` durably holds the operations of the primary `p`. -/
def Holds (c : Cluster σ) (p m : ReplicaIdentity) (lsn : Int) : Prop :=
  Covers (c.storage m) (c.storage p) lsn

/-- At least a write quorum of the configuration holds the primary's operations up to `lsn`. -/
def HeldByQuorum (c : Cluster σ) (p : ReplicaIdentity) (configuration : ConfigurationDescriptor)
    (lsn : Int) : Prop :=
  ∃ quorum : List ConfigurationMember, quorum.Sublist configuration.members ∧
    configuration.writeQuorum ≤ quorum.length ∧ ∀ m ∈ quorum, c.Holds p m.identity lsn

end Cluster

variable [DurableState σ] [LawfulDurableState σ]

/-! ## Steps -/

/-- Whatever else a member does: it restarts, changes its role or admits the authority.  Its storage
keeps what it holds.  Progress under the fence `f` comes from its own record or from an admission,
and an admission certifies only operations that are the primary's. -/
structure Turns (f : AuthorityFence) (primary : σ) (e e' : Engine σ) : Prop where
  identity : e'.identity = e.identity
  storage : Grows e.storage e'.storage
  store : ∀ v, e'.progressStore.get? f = some v →
    e.progressStore.get? f = some v ∨ Covers e'.storage primary v
  progress : ∀ r, e'.replicationProgress = some r → r.fence = f →
    e.replicationProgress = some r ∨ e.progressStore.get? f = some r.verifiedLsn ∨
      Covers e'.storage primary r.verifiedLsn
  /-- The delivery in flight is kept or dropped; a new process has an empty stream. -/
  delivery : (e'.delivery = e.delivery ∨ e'.delivery = none) ∧ e'.stream = e.stream ∧
      e'.streamCount = e.streamCount ∨ e'.delivery = none ∧ e'.stream = []

/-- The primary restarts and admits its authority again. -/
structure Readmits (a : ManagedReplicaConfiguration) (e e' : Engine σ) : Prop where
  identity : e'.identity = e.identity
  storage : Grows e.storage e'.storage
  authority : e'.log.authority = some a
  quorumAuthority : e'.log.quorum.authority = some a
  progress : ∀ m v, e'.log.quorum.progress.get? m = some v →
    m = a.localIdentity ∧ v ≤ appliedLsn e'.storage

/-- One step of the replicas under the authority `a`, whose primary is the local replica of `a`. -/
inductive Cluster.Step (a : ManagedReplicaConfiguration) : Cluster σ → Cluster σ → Prop
  | primary (c : Cluster σ) (action : PrimaryAction)
      (finishes : action.Finishes (c.storage a.localIdentity))
      (arrived : ∀ ack, action.ack? = some ack → ack ∈ c.acks) :
      Step a c (c.primaryStep a.localIdentity action)
  /-- The service of the primary applies an operation that it was handed as a secondary. -/
  | service (c : Cluster σ) :
      Step a c (c.setEngine a.localIdentity (serviceApply.run (c.engines a.localIdentity)).2)
  | member (c : Cluster σ) (m : ReplicaIdentity) (action : MemberAction)
      (other : m ≠ a.localIdentity)
      (arrived : ∀ item, action = .receive item → item ∈ c.items) :
      Step a c (c.memberStep m action)
  | turn (c : Cluster σ) (m : ReplicaIdentity) (e : Engine σ) (other : m ≠ a.localIdentity)
      (turns : Turns a.fence (c.storage a.localIdentity) (c.engines m) e) :
      Step a c (c.setEngine m e)
  | readmit (c : Cluster σ) (e : Engine σ) (readmits : Readmits a (c.engines a.localIdentity) e) :
      Step a c (c.setEngine a.localIdentity e)

/-- The primary has just admitted the authority `a`: nothing has been sent under it, and what its
members have verified under it, or the tracker already counts, are operations of the primary. -/
structure Cluster.Admitted (a : ManagedReplicaConfiguration) (c : Cluster σ) : Prop where
  identity : ∀ m, (c.engines m).identity = m
  authority : (c.engines a.localIdentity).log.authority = some a
  quorumAuthority : (c.engines a.localIdentity).log.quorum.authority = some a
  items : ∀ item ∈ c.items, item.fence ≠ a.fence
  acks : ∀ ack ∈ c.acks, ack.fence ≠ a.fence
  members : ∀ m, m ≠ a.localIdentity →
    MemberInv a.fence (c.storage a.localIdentity) (c.engines m)
  credit : ∀ m v, (c.engines a.localIdentity).log.quorum.progress.get? m = some v →
    c.Holds a.localIdentity m v

/-! ## The invariant -/

structure ClusterInv (a : ManagedReplicaConfiguration) (c : Cluster σ) : Prop where
  identity : ∀ m, (c.engines m).identity = m
  authority : (c.engines a.localIdentity).log.authority = some a
  quorumAuthority : (c.engines a.localIdentity).log.quorum.authority = some a
  /-- What was sent under the authority is stored at the primary. -/
  items : ∀ item ∈ c.items, item.fence = a.fence →
    Stored (c.storage a.localIdentity) item.lsn item.data
  /-- An acknowledgement under the authority reports what its receiver holds. -/
  acks : ∀ ack ∈ c.acks, ack.fence = a.fence → c.Holds a.localIdentity ack.receiver ack.appliedLsn
  members : ∀ m, m ≠ a.localIdentity →
    MemberInv a.fence (c.storage a.localIdentity) (c.engines m)
  /-- The tracker counts for a member only what it holds. -/
  credit : ∀ m v, (c.engines a.localIdentity).log.quorum.progress.get? m = some v →
    c.Holds a.localIdentity m v

theorem Cluster.Admitted.inv {a : ManagedReplicaConfiguration} {c : Cluster σ}
    (h : c.Admitted a) : ClusterInv a c where
  identity := h.identity
  authority := h.authority
  quorumAuthority := h.quorumAuthority
  items item hitem hf := absurd hf (h.items item hitem)
  acks ack hack hf := absurd hf (h.acks ack hack)
  members := h.members
  credit := h.credit

section Storages

variable {c c' : Cluster σ}

theorem Cluster.Holds.grows {p : ReplicaIdentity} {lsn : Int} (h : c.Holds p m lsn)
    (hgrow : ∀ m, Grows (c.storage m) (c'.storage m)) : c'.Holds p m lsn :=
  Covers.grows h (hgrow m) (hgrow p)

theorem grows_setEngine {e : Engine σ} (h : Grows (c.storage m) e.storage) (m' : ReplicaIdentity) :
    Grows (c.storage m') ((c.setEngine m e).storage m') := by
  unfold Cluster.storage
  by_cases hm : m' = m
  · subst hm
    rw [Cluster.setEngine_self]
    exact h
  · rw [Cluster.setEngine_of_ne c e hm]
    exact .refl _

omit [DurableState σ] [LawfulDurableState σ] in
theorem identity_setEngine {e : Engine σ} (hc : ∀ m, (c.engines m).identity = m)
    (h : e.identity = (c.engines m).identity) (m' : ReplicaIdentity) :
    ((c.setEngine m e).engines m').identity = m' := by
  by_cases hm : m' = m
  · subst hm
    rw [Cluster.setEngine_self, h, hc]
  · rw [Cluster.setEngine_of_ne c e hm, hc]

end Storages

theorem MemberInv.turns {f : AuthorityFence} {primary : σ} {e e' : Engine σ}
    (hinv : MemberInv f primary e) (hturns : Turns f primary e e') : MemberInv f primary e' := by
  have hgrow := hturns.storage
  refine ⟨?_, ?_, ?_, ?_⟩
  · intro r hr hf
    obtain hold | hstored | hcovers := hturns.progress r hr hf
    · exact (hinv.progress r hold hf).grows hgrow (.refl _)
    · exact (hinv.store _ hstored).grows hgrow (.refl _)
    · exact hcovers
  · intro v hv
    obtain hold | hcovers := hturns.store v hv
    · exact (hinv.store v hold).grows hgrow (.refl _)
    · exact hcovers
  · obtain ⟨-, hstream, hcount⟩ | ⟨-, hstream⟩ := hturns.delivery
    · rw [hstream, hcount]
      exact hinv.tickets
    · rw [hstream]
      exact fun _ hmem => by cases hmem
  · intro d hd
    obtain ⟨hkept | hnone, hstream, hcount⟩ | ⟨hnone, -⟩ := hturns.delivery
    · have hold := hinv.delivery d (hkept ▸ hd)
      refine ⟨hold.operation, hold.fence, ?_, fun hf => (hold.covers hf).grows hgrow (.refl _)⟩
      rw [hstream, hcount]
      exact hold.ticket
    · rw [hnone] at hd
      cases hd
    · rw [hnone] at hd
      cases hd

section Steps

variable {a : ManagedReplicaConfiguration} {c : Cluster σ} (h : ClusterInv a c)

include h

/-- The primary's engine changes: its storage keeps what it holds, what it sends is stored, and it
counts no more than what the members hold. -/
theorem clusterInv_setPrimary {e : Engine σ} (sent : List ReplicationItem)
    (hid : e.identity = (c.engines a.localIdentity).identity)
    (hgrow : Grows (c.storage a.localIdentity) e.storage) (ha : e.log.authority = some a)
    (hq : e.log.quorum.authority = some a)
    (hsent : ∀ item ∈ sent, Stored e.storage item.lsn item.data)
    (hcredit : ∀ m v, e.log.quorum.progress.get? m = some v →
      (m = a.localIdentity ∧ v ≤ appliedLsn e.storage) ∨ c.Holds a.localIdentity m v) :
    ClusterInv a { c.setEngine a.localIdentity e with items := c.items ++ sent } := by
  have hself := c.setEngine_self a.localIdentity e
  have hstorage : (c.setEngine a.localIdentity e).storage a.localIdentity = e.storage := by
    rw [Cluster.storage, hself]
  have hgrows := grows_setEngine (c := c) (m := a.localIdentity) hgrow
  refine ⟨identity_setEngine h.identity hid, hself.symm ▸ ha, hself.symm ▸ hq, ?_, ?_, ?_, ?_⟩
  · intro item hitem hf
    obtain hitem | hitem := List.mem_append.1 hitem
    · exact (h.items item hitem hf).grows (hgrows _)
    · exact hstorage.symm ▸ hsent item hitem
  · exact fun ack hack hf => (h.acks ack hack hf).grows hgrows
  · intro m hm
    have hmember := (h.members m hm).grows (.refl _) hgrow
    rw [← hstorage] at hmember
    exact (c.setEngine_of_ne e hm).symm ▸ hmember
  · intro m v hv
    have hv' : e.log.quorum.progress.get? m = some v := by
      rw [← hself]
      exact hv
    obtain ⟨rfl, hle⟩ | hheld := hcredit m v hv'
    · exact Covers.of_le_applied (hstorage.symm ▸ hle)
    · exact hheld.grows hgrows

/-- A member's engine changes: it keeps its invariant, and what it acknowledges it holds. -/
theorem clusterInv_setMember {e : Engine σ} (issued : List ReplicationAck)
    (hm : m ≠ a.localIdentity) (hid : e.identity = (c.engines m).identity)
    (hgrow : Grows (c.storage m) e.storage) (hinv : MemberInv a.fence (c.storage a.localIdentity) e)
    (hissued : ∀ ack ∈ issued, ack.fence = a.fence → ack.receiver = m ∧
      Covers e.storage (c.storage a.localIdentity) ack.appliedLsn) :
    ClusterInv a { c.setEngine m e with acks := c.acks ++ issued } := by
  have hprimary := c.setEngine_of_ne e hm.symm
  have hstorage : (c.setEngine m e).storage a.localIdentity = c.storage a.localIdentity := by
    rw [Cluster.storage, hprimary, Cluster.storage]
  have hgrows := grows_setEngine (c := c) (m := m) hgrow
  refine ⟨identity_setEngine h.identity hid, hprimary.symm ▸ h.authority,
    hprimary.symm ▸ h.quorumAuthority, ?_, ?_, ?_, ?_⟩
  · exact fun item hitem hf => (h.items item hitem hf).grows (hgrows _)
  · intro ack hack hf
    obtain hack | hack := List.mem_append.1 hack
    · exact (h.acks ack hack hf).grows hgrows
    · obtain ⟨rfl, hcovers⟩ := hissued ack hack hf
      have hself : (c.setEngine ack.receiver e).storage ack.receiver = e.storage := by
        rw [Cluster.storage, Cluster.setEngine_self]
      show Covers ((c.setEngine ack.receiver e).storage ack.receiver)
        ((c.setEngine ack.receiver e).storage a.localIdentity) ack.appliedLsn
      rw [hself, hstorage]
      exact hcovers
  · intro m' hm'
    show MemberInv a.fence ((c.setEngine m e).storage a.localIdentity) ((c.setEngine m e).engines m')
    rw [hstorage]
    by_cases heq : m' = m
    · subst heq
      rw [Cluster.setEngine_self]
      exact hinv
    · rw [Cluster.setEngine_of_ne c e heq]
      exact h.members m' hm'
  · intro m' v hv
    have hv' : (c.engines a.localIdentity).log.quorum.progress.get? m' = some v := by
      rw [← hprimary]
      exact hv
    exact (h.credit m' v hv').grows hgrows

theorem clusterInv_primaryStep {action : PrimaryAction}
    (finishes : action.Finishes (c.storage a.localIdentity))
    (arrived : ∀ ack, action.ack? = some ack → ack ∈ c.acks) :
    ClusterInv a (c.primaryStep a.localIdentity action) := by
  have hack : ∀ ack a', action.ack? = some ack →
      (c.engines a.localIdentity).log.quorum.authority = some a' →
      a'.validateAcknowledgement ack = .ok () →
      c.Holds a.localIdentity ack.receiver ack.appliedLsn := by
    intro ack a' hack ha' hv
    obtain rfl : a = a' := Option.some.inj (h.quorumAuthority.symm.trans ha')
    obtain ⟨-, -, hf⟩ := ManagedReplicaConfiguration.validateFence_eq_ok.1 hv
    exact h.acks ack (arrived ack hack) hf.symm
  have hmono : ∀ m v w, v ≤ w → c.Holds a.localIdentity m w → c.Holds a.localIdentity m v :=
    fun _ _ _ hle hw => hw.mono hle
  obtain ⟨hadv, hsent⟩ := carries_run hmono (h.quorumAuthority.trans h.authority.symm) finishes hack
  refine clusterInv_setPrimary h _ hadv.identity hadv.storage (hadv.logAuthority.trans h.authority)
    (hadv.quorumAuthority.trans h.quorumAuthority) hsent ?_
  intro m v hv
  obtain ⟨w, hw, hle⟩ | ⟨hlocal, hle⟩ | hheld := hadv.progress m v hv
  · exact .inr ((h.credit m w hw).mono hle)
  · rw [h.quorumAuthority] at hlocal
    exact .inl ⟨(Option.some.inj hlocal).symm, hle⟩
  · exact .inr hheld

theorem clusterInv_service :
    ClusterInv a (c.setEngine a.localIdentity (serviceApply.run (c.engines a.localIdentity)).2) := by
  have hset : ∀ e : Engine σ, e.identity = (c.engines a.localIdentity).identity →
      Grows (c.storage a.localIdentity) e.storage →
      e.log = (c.engines a.localIdentity).log → ClusterInv a (c.setEngine a.localIdentity e) := by
    intro e hid hgrow hlog
    have hset := clusterInv_setPrimary h [] hid hgrow (hlog ▸ h.authority)
      (hlog ▸ h.quorumAuthority) (fun _ hitem => by cases hitem)
      fun m v hv => .inr (h.credit m v (hlog ▸ hv))
    rw [List.append_nil] at hset
    exact hset
  rw [run_serviceApply]
  match (c.engines a.localIdentity).stream with
  | [] => exact hset _ rfl (.refl _) rfl
  | (ticket, operation) :: rest => exact hset _ rfl (grows_apply _ operation) rfl

theorem clusterInv_memberStep {action : MemberAction} (hm : m ≠ a.localIdentity)
    (arrived : ∀ item, action = .receive item → item ∈ c.items) :
    ClusterInv a (c.memberStep m action) := by
  obtain ⟨hfollows, hissued⟩ := follows_run (h.members m hm) action
    fun item hitem hf => h.items item (arrived item hitem) hf
  refine clusterInv_setMember h _ hm hfollows.identity hfollows.storage hfollows.inv ?_
  intro ack hack hf
  obtain ⟨hreceiver, hcovers⟩ := hissued ack (Option.mem_toList.1 hack)
  exact ⟨hreceiver.trans (h.identity m), hcovers hf⟩

theorem clusterInv_step {c' : Cluster σ} (hstep : Cluster.Step a c c') : ClusterInv a c' := by
  cases hstep with
  | primary action finishes arrived => exact clusterInv_primaryStep h finishes arrived
  | service => exact clusterInv_service h
  | member m action other arrived => exact clusterInv_memberStep h other arrived
  | turn m e other turns =>
    have hset := clusterInv_setMember h [] other turns.identity turns.storage
      ((h.members m other).turns turns) fun _ hack => by cases hack
    rw [List.append_nil] at hset
    exact hset
  | readmit e readmits =>
    have hset := clusterInv_setPrimary h [] readmits.identity readmits.storage
      readmits.authority readmits.quorumAuthority (fun _ hitem => by cases hitem)
      fun m v hv => .inl (readmits.progress m v hv)
    rw [List.append_nil] at hset
    exact hset

end Steps

/-! ## A commit is durable on a write quorum -/

section Commit

variable {a : ManagedReplicaConfiguration} {c₀ c : Cluster σ}

theorem clusterInv_run (h₀ : c₀.Admitted a) (hrun : Relation.ReflTransGen (Cluster.Step a) c₀ c) :
    ClusterInv a c := by
  induction hrun with
  | refl => exact h₀.inv
  | tail _ hstep ih => exact clusterInv_step ih hstep

/-- A quorum that the tracker counts is a quorum of members that hold the operations. -/
theorem ClusterInv.heldByQuorum (h : ClusterInv a c) {configuration : ConfigurationDescriptor}
    {lsn : Int} (hq : hasQuorum configuration
      (c.engines a.localIdentity).log.quorum.progress lsn = true) :
    c.HeldByQuorum a.localIdentity configuration lsn := by
  refine ⟨_, List.filter_sublist, of_decide_eq_true hq, fun m hm => ?_⟩
  have hle : lsn ≤ progressOf _ m.identity := of_decide_eq_true (List.mem_filter.1 hm).2
  unfold progressOf at hle
  cases hget : (c.engines a.localIdentity).log.quorum.progress.get? m.identity with
  | none =>
    rw [hget] at hle
    exact Covers.of_nonpos hle
  | some v =>
    rw [hget] at hle
    exact (h.credit m.identity v hget).mono hle

/-- Whenever the tracker finalizes a commit, a write quorum of the current configuration durably
holds the primary's operations up to it, and so does one of the previous configuration. -/
theorem finalizeCommit_durable_on_quorums (h₀ : c₀.Admitted a)
    (hrun : Relation.ReflTransGen (Cluster.Step a) c₀ c) {lsn : Int}
    (hfinal : ((c.engines a.localIdentity).log.quorum.finalizeCommit lsn).1 = .ok ()) :
    c.HeldByQuorum a.localIdentity a.currentConfiguration lsn ∧
      ∀ previous, a.previousConfiguration = some previous →
        c.HeldByQuorum a.localIdentity previous lsn := by
  have hinv := clusterInv_run h₀ hrun
  cases hready : (c.engines a.localIdentity).log.quorum.readyCommitLsn with
  | none =>
    simp only [QuorumTracker.finalizeCommit, hready] at hfinal
    cases hfinal
  | some ready =>
    simp only [QuorumTracker.finalizeCommit, hready] at hfinal
    split_ifs at hfinal with hle
    obtain ⟨a', ha', hclient⟩ := QuorumTracker.clientCommitReady_of_le_ready hready (not_lt.1 hle)
    obtain rfl : a = a' := Option.some.inj (hinv.quorumAuthority.symm.trans ha')
    simp only [clientCommitReady, Bool.and_eq_true] at hclient
    refine ⟨hinv.heldByQuorum hclient.1, fun previous hprevious => hinv.heldByQuorum ?_⟩
    have hall := hclient.2
    rw [hprevious] at hall
    exact hall

end Commit

/-! ## One write on two replicas -/

namespace TwoReplicas

def primaryIdentity : ReplicaIdentity := ⟨1, "a", "g"⟩
def secondaryIdentity : ReplicaIdentity := ⟨2, "b", "g"⟩

/-- A configuration of both replicas that needs both to commit, as admitted by one of them. -/
def authority (localIdentity : ReplicaIdentity) : ManagedReplicaConfiguration where
  localIdentity := localIdentity
  previousConfiguration := none
  currentConfiguration := ⟨"c", ⟨0, 1⟩, 1,
    [⟨primaryIdentity, .primary⟩, ⟨secondaryIdentity, .activeSecondary⟩], 2⟩
  switchoverHandoff := none
  secondaryRemoval := none
  scaleUp := none
  buildKind := .bootstrap

/-- An open replica that has admitted the configuration and has verified nothing. -/
def replica (identity : ReplicaIdentity) (role : ReplicaRole) : Engine LogStorage :=
  { Engine.new identity ⟨[], 0⟩ with
    configuration := some (authority identity)
    isOpen := true
    role := role
    writeStatus := .granted
    authority := some (authority identity)
    replicationProgress := some ⟨(authority identity).fence, 0⟩
    log := ReplicationLog.configurePrevalidated
      { ReplicationLog.new identity with isOpen := true, role := role, epoch := ⟨0, 1⟩ }
      (authority identity) 0 }

def start : Cluster LogStorage where
  engines m := if m = primaryIdentity then replica primaryIdentity .primary
    else { replica secondaryIdentity .activeSecondary with identity := m }
  items := []
  acks := []

def item : ReplicationItem :=
  ⟨primaryIdentity, secondaryIdentity, ⟨0, 1⟩, none, "c", 1, 0, [7]⟩

def ack : ReplicationAck := ⟨primaryIdentity, secondaryIdentity, ⟨0, 1⟩, none, "c", 1, 1, 0⟩

/-- The write is replicated to the secondary and acknowledged. -/
def acknowledged : Cluster LogStorage :=
  ((((((start.primaryStep primaryIdentity (.write (fun _ => none) ⟨"w", [7]⟩)).memberStep
    secondaryIdentity (.receive item)).memberStep secondaryIdentity .service).memberStep
    secondaryIdentity .confirm).memberStep secondaryIdentity .record).memberStep
    secondaryIdentity .publish).primaryStep primaryIdentity (.acknowledge ack)

theorem admitted_start : start.Admitted (authority primaryIdentity) where
  identity m := by
    by_cases h : m = primaryIdentity <;> simp [start, h, replica, Engine.new]
  authority := rfl
  quorumAuthority := rfl
  items _ h := by cases h
  acks _ h := by cases h
  members m hm := by
    have hne : m ≠ primaryIdentity := hm
    simp only [start, if_neg hne]
    refine ⟨fun r hr _ => ?_, ?_, ?_, ?_⟩
    · obtain rfl := Option.some.inj hr
      exact .of_nonpos le_rfl
    · exact fun v hv => by cases hv
    · exact fun _ hentry => by cases hentry
    · exact fun _ hdelivery => by cases hdelivery
  credit m v hv := by
    obtain ⟨-, rfl⟩ := progress_configurePrevalidated (.inl rfl) hv
    exact .of_nonpos le_rfl

theorem finalizeCommit_durable_on_two :
    ((acknowledged.engines primaryIdentity).log.quorum.finalizeCommit 1).1 = .ok () ∧
      acknowledged.HeldByQuorum primaryIdentity (authority primaryIdentity).currentConfiguration 1 := by
  have hfinal : ((acknowledged.engines primaryIdentity).log.quorum.finalizeCommit 1).1 = .ok () := by
    decide +kernel
  refine ⟨hfinal, (finalizeCommit_durable_on_quorums admitted_start ?_ hfinal).1⟩
  have hother : secondaryIdentity ≠ (authority primaryIdentity).localIdentity := by decide
  have hfinishes : ∀ action : PrimaryAction, (∀ r, action ≠ .finish r) → ∀ s : LogStorage,
      action.Finishes s := fun action h s r hr => absurd hr (h r)
  refine .tail (.tail (.tail (.tail (.tail (.tail (.tail .refl
    (.primary _ _ (hfinishes _ (by simp) _) ?_)) (.member _ _ _ hother ?_))
      (.member _ _ _ hother ?_)) (.member _ _ _ hother ?_))
    (.member _ _ _ hother ?_)) (.member _ _ _ hother ?_))
    (.primary _ _ (hfinishes _ (by simp) _) ?_)
  · exact fun _ h => by cases h
  · rintro _ ⟨⟩
    decide +kernel
  · exact fun _ h => by cases h
  · exact fun _ h => by cases h
  · exact fun _ h => by cases h
  · exact fun _ h => by cases h
  · rintro _ ⟨⟩
    decide +kernel

end TwoReplicas

end Kuberic
