import Mathlib.Logic.Relation
import Kuberic.Runtime.Fencing
import Kuberic.Runtime.WriteParts

/-!
# Runs of one engine

`EngineAction` lists what can happen to an engine: the steps of its deliveries, local writes, the work
of a configuration, crash and recovery, and the loss of data that its application reports.  A write
is one action, except that the process can stop right after its reservation is journalled.
-/

namespace Kuberic

open Effect DurableState

variable {σ : Type}

/-! ## Data loss -/

def resetAfterDataLossLocked (currentProgress committedLsn : Int) : EngineM σ Unit := do
  lockDelivery
  update fun e => { e with
    fenceGeneration := e.fenceGeneration + 1
    journal := e.journal.retain fun _ write =>
      write.phase == .committed && decide (write.lsn ≤ committedLsn)
    writeStatus := .reconfigurationPending
    log := e.log.fenceClientWrites.resetProgressAfterDataLoss currentProgress committedLsn
    currentProgress := currentProgress
    committedLsn := committedLsn
    localWrites := ∅ }

/-- `control_on_data_loss`, for an application that replaces its state by `storage` and then reports
`progress` as its last committed LSN. -/
def controlOnDataLoss (storage : σ) (progress : Int) : EngineM σ Unit := do
  requirePrimary
  update fun e => { e with
    writeStatus := .reconfigurationPending
    log := e.log.fenceClientWrites
    storage := storage }
  resetAfterDataLossLocked progress progress

section Storage

variable [DurableState σ]

/-! ## Actions -/

/-- The actions of the primary's path that hold the effect lock from the start of a write to its
end. -/
def PrimaryAction.isWrite : PrimaryAction → Bool
  | .write .. | .resume .. | .finish _ => true
  | _ => false

/-- What an action changes if it is not a write: the log, the targets of repair, or the progress
that the engine publishes. -/
theorem PrimaryAction.run_keeps {I : Engine σ → Prop} {e : Engine σ}
    {action : PrimaryAction} (hw : action.isWrite = false)
    (h : ∀ log targets, I { e with log := log, peerRepairTargets := targets })
    (hprogress : ∀ log current committed, e.currentProgress ≤ current →
      I { e with log := log, currentProgress := current, committedLsn := committed })
    (hfinalize : ∀ faults, I ((finalizeReadyCommitLocked faults).run e).2) : I (action.run e).2 := by
  have he : I e := h e.log e.peerRepairTargets
  cases action with
  | write | resume | finish => cases hw
  | acknowledge ack => exact recordAcknowledgement_keeps he (h _ e.peerRepairTargets)
  | acknowledgeInSession ack session => exact recordReplicationAck_keeps he (h _ e.peerRepairTargets)
  | registerSession peer session => exact registerPeerSession_keeps he (h _ e.peerRepairTargets)
  | repair peer progress =>
    refine (triple_repairPeerFromHistory peer progress).holds ?_ (fun _ hs => hs ▸ he) e rfl
    rintro - _ ⟨⟨targets, rfl⟩, -⟩
    exact h e.log targets
  | refresh =>
    refine run_of_triple (checks_observe.bind he ?_)
    rintro e rfl
    refine triple_update_bind (I := (· = { e with
      currentProgress := max e.currentProgress (appliedLsn e.storage)
      committedLsn := max e.committedLsn (committedLsn e.storage) })) (fun _ hs => hs ▸ rfl) ?_
    have hprogress := fun log => hprogress log _ (max e.committedLsn (committedLsn e.storage))
      (le_max_left e.currentProgress (appliedLsn e.storage))
    split_ifs
    · exact triple_zoom.post (fun _ _ h => h.2 ▸ hprogress _) fun _ h => h ▸ hprogress _
    · exact triple_pure fun _ hs => hs ▸ hprogress e.log
  | finalize faults => exact hfinalize faults

inductive EngineAction (σ : Type)
  | deliver (action : MemberAction)
  /-- `begin_write`, or `resume_local_write` of a write that is recovered. -/
  | write (faults : Faults) (write : ClientWrite) (recovering : Bool)
  /-- The process stops when the write has been journalled. -/
  | interruptWrite (write : ClientWrite)
  | serve (action : PrimaryAction)
  | changeRole (epoch : Epoch) (role : ReplicaRole)
  | updateEpoch (epoch : Epoch)
  | setAccess (read write : AccessStatus)
  | settlePrefix
  | prepare (configuration : ManagedReplicaConfiguration) (hostGeneration : Nat)
  | admitAuthority (configuration : ManagedReplicaConfiguration)
  | commit (preparation : ManagedConfigurationPreparation)
  | cancelWork
  | dropPreparation (preparation : ManagedConfigurationPreparation)
  | authorizePrefix (safeLsn : Int)
  | restart
  | openReplicator (committed : Int)
  | restore (removal : StoredRemoval) (hostGeneration : Nat)
  /-- It waits for the delivery in flight. -/
  | dataLoss (storage : σ) (progress : Int)

/-- A whole local write. -/
def localWrite (faults : Faults) (write : ClientWrite) (recovering : Bool) :
    EngineM σ PendingWrite :=
  if recovering then resumeLocalWrite faults write else beginWrite faults write

theorem localWrite_keeps {I : Engine σ → Prop} {e : Engine σ} {faults : Faults}
    {w : ClientWrite} {recovering : Bool} (h : I e)
    (hlocked : Triple (· = e) (beginWriteLocked faults w recovering) (fun _ => I) I) :
    I ((localWrite faults w recovering).run e).2 := by
  cases recovering with
  | true => exact hlocked.keeps e rfl
  | false => exact (checks_checkNoPendingConfiguration.bind h fun _ _ => hlocked).keeps e rfl

def EngineAction.run (e : Engine σ) : EngineAction σ → Engine σ
  | deliver action => (action.run e).2
  | write faults w recovering => ((localWrite faults w recovering).run e).2
  | interruptWrite w => ((beginReservation none w false).run e).2.restarted
  | serve action => if action.isWrite then e else (action.run e).2
  | changeRole epoch role => ((controlChangeRole epoch role).run e).2
  | updateEpoch epoch => ((controlUpdateEpoch epoch).run e).2
  | setAccess read w => ((do publishAccess (← prepareAccess read w)) : EngineM σ Unit).run e |>.2
  | settlePrefix => (settlePrimaryPrefix.run e).2
  | prepare c hostGeneration => ((prepareReplicaConfiguration c hostGeneration false).run e).2
  | admitAuthority c => ((admitDurably c).run e).2
  | commit p => ((commitReplicaConfiguration p).run e).2
  | cancelWork => (cancelConfigurationWork.run e).2
  | dropPreparation p => e.dropPreparation p
  | authorizePrefix safeLsn => ((authorizeFailoverPrefix safeLsn).run e).2
  | restart => e.restarted
  | openReplicator committed => ((Kuberic.openReplicator committed).run e).2
  | restore removal hostGeneration => ((restoreAuthority removal hostGeneration).run e).2
  | dataLoss storage progress =>
    if e.delivery.isSome then e else ((controlOnDataLoss storage progress).run e).2

/-- The engine after a sequence of actions. -/
def EngineAction.runAll (e : Engine σ) (actions : List (EngineAction σ)) : Engine σ :=
  actions.foldl EngineAction.run e

/-- One step of an engine: an action that is admitted, or one of the `other` steps. -/
inductive Engine.Step (admitted : Engine σ → EngineAction σ → Prop)
    (other : Engine σ → Engine σ → Prop) : Engine σ → Engine σ → Prop
  | act {e : Engine σ} (action : EngineAction σ) (h : admitted e action) :
    Engine.Step admitted other e (action.run e)
  | elsewhere {e e' : Engine σ} (h : other e e') : Engine.Step admitted other e e'

/-- A run whose actions are all admitted. -/
abbrev Engine.Run (admitted : Engine σ → EngineAction σ → Prop)
    (other : Engine σ → Engine σ → Prop) : Engine σ → Engine σ → Prop :=
  Relation.ReflTransGen (Engine.Step admitted other)

/-- Every action of the sequence is admitted where it is taken. -/
def EngineAction.AllAdmitted (admitted : Engine σ → EngineAction σ → Prop) :
    Engine σ → List (EngineAction σ) → Prop
  | _, [] => True
  | e, action :: rest => admitted e action ∧ AllAdmitted admitted (action.run e) rest

theorem Engine.run_of_allAdmitted {admitted : Engine σ → EngineAction σ → Prop}
    {other : Engine σ → Engine σ → Prop} {actions : List (EngineAction σ)} :
    ∀ {e : Engine σ}, EngineAction.AllAdmitted admitted e actions →
      Engine.Run admitted other e (EngineAction.runAll e actions) := by
  induction actions with
  | nil => exact fun _ => .refl
  | cons action rest ih => exact fun h => .head (.act action h.1) (ih h.2)

end Storage

end Kuberic
