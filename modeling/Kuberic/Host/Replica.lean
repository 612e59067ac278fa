import Kuberic.Host.Coordinator
import Kuberic.Runtime.Admission
import Kuberic.Runtime.Member
import Kuberic.Runtime.Primary

/-!
# One replica

A replica is an engine with its durable stores, the host that turns its roles, the durable agent state
and the command that is being driven.  Its actions are the steps of all of them: deliveries and writes
of the data path, the stages of a command and the effects that they execute, cancellation, crash and
recovery.  An action that is not enabled has no result.

The effect lock is held by a write from its start to its end; the functions that take the lock run
when no write is in progress.
-/

namespace Kuberic

open Effect DurableState

variable {σ : Type}

/-! ## The host -/

/-- A running process: its engine, the role that its application has, and the change of role that is
under way. -/
structure Process (σ : Type) where
  engine : Engine σ
  role : ReplicaRole
  transition : Option RoleTransition
  transitionEpoch : Option Epoch
  transitionAuthority : Option ManagedReplicaConfiguration

abbrev ProcessM (σ : Type) (α : Type) := Effect (Process σ) RuntimeError α

def onEngine {α : Type} (x : EngineM σ α) : ProcessM σ α :=
  zoom Process.engine (fun p e => { p with engine := e }) x.run

def Process.authorityEpoch (p : Process σ) : Epoch :=
  (p.engine.authority.map (·.epoch)).getD default

/-- The change of role that is under way for this authority, or a new one. -/
def Process.roleTransition (p : Process σ) (role : ReplicaRole) : Option RoleTransition :=
  let stale := p.transitionEpoch.any (fun old => decide (old < p.authorityEpoch)) ||
    p.transitionAuthority != p.engine.authority
  match if stale then none else p.transition with
  | some transition => if transition.targetRole = role then some transition else none
  | none =>
    let sameRole := p.role == role
    let completed := sameRole &&
      (p.transitionEpoch.any fun done => decide (p.authorityEpoch ≤ done)) &&
      p.transitionAuthority == p.engine.authority
    some ⟨role, sameRole, role != .primary || completed, completed⟩

/-- The replicator takes the role, unless it has done so before. -/
def turnReplicator (transition : RoleTransition) (epoch : Epoch) (role : ReplicaRole) :
    ProcessM σ Unit :=
  if transition.replicatorCompleted then pure ()
  else do
    onEngine (controlChangeRole epoch role)
    update fun p => { p with transition := some { transition with replicatorCompleted := true } }

def changeReplicatorRole (role : ReplicaRole) : ProcessM σ Unit := do
  let p ← observe
  require (p.engine.isOpen = true) .notOpen
  let transition ← demand (p.roleTransition role) .reconfigurationPending
  update fun q => { q with
    transition := some transition
    transitionEpoch := some p.authorityEpoch
    transitionAuthority := p.engine.authority }
  turnReplicator transition p.authorityEpoch role

def updateEpoch : ProcessM σ Unit := do
  let p ← observe
  let transition ← demand p.transition .reconfigurationPending
  require (transition.targetRole = .primary ∧ transition.replicatorCompleted = true)
    .reconfigurationPending
  if transition.epochCompleted then pure ()
  else do
    onEngine (controlUpdateEpoch p.authorityEpoch)
    update fun p => { p with transition := some { transition with epochCompleted := true } }

section Storage

variable [DurableState σ]

/-- `change_application_role`, up to the callback of the application. -/
def changeApplicationRole (role : ReplicaRole) : ProcessM σ Unit := do
  let p ← observe
  let transition ← demand p.transition .reconfigurationPending
  require (transition.targetRole = role ∧ transition.replicatorCompleted = true ∧
    (role ≠ .primary ∨ transition.epochCompleted = true)) .reconfigurationPending
  onlyIf (transition.applicationCompleted = false ∧ role = .primary) (onEngine settlePrimaryPrefix)
  update fun p => { p with role := role, transition := none }

/-- A primary whose prefix was certified anew settles it again. -/
def Process.requirePrimaryApplicationRefresh (p : Process σ) : Process σ :=
  if p.role = .primary ∧ p.engine.authority.any (fun a => a.localRole == some .primary) then { p with
    transition := some ⟨.primary, true, true, false⟩
    transitionEpoch := some p.authorityEpoch
    transitionAuthority := p.engine.authority }
  else p

/-! ## The effects of the stages -/

def setAccess (read write : AccessStatus) : EngineM σ Unit := do
  let preparation ← prepareAccess read write
  publishAccess preparation

/-- `retire_build` for each build of the command. -/
def retireBuilds (ids : List OperationId) : EngineM σ Unit :=
  update fun e => { e with
    builds := ids.foldl (fun builds id => builds.erase id) e.builds
    outboundBuilds := ids.foldl (fun builds id => builds.erase id) e.outboundBuilds }

/-- The effect of a stage that is one call of the runtime; the admission of the authority and the
refresh of the progress have steps of their own. -/
def stageEffect (d : Driven) : CoordinatorStage → Option (ProcessM σ StageOutcome)
  | .failoverPrefix => d.command.failoverSafeLsn.map fun safeLsn => do
      onEngine (authorizeFailoverPrefix safeLsn)
      update Process.requirePrimaryApplicationRefresh
      pure .done
  | .demote => some do
      let p ← observe
      onEngine (setAccess .reconfigurationPending p.engine.writeStatus)
      pure (.readChanged .reconfigurationPending)
  | .catchup => some do
      onEngine checkCatchUpQuorum
      pure .done
  | .deactivate => some do
      let p ← observe
      onEngine (setAccess p.engine.readStatus .reconfigurationPending)
      pure (.writeChanged .reconfigurationPending)
  | .replicatorRole => d.authority.localRole.map fun role => do
      changeReplicatorRole role
      pure .done
  | .epoch => some do
      updateEpoch
      let p ← observe
      pure (.epochUpdated p.authorityEpoch)
  | .applicationRole => d.authority.localRole.map fun role => do
      changeApplicationRole role
      pure (.applicationRoleChanged role)
  | .activate => some do
      onEngine (setAccess d.activeAccess.1 d.activeAccess.2)
      pure (.accessChanged d.activeAccess.1 d.activeAccess.2)
  | .retireBuild => some do
      onEngine (retireBuilds d.command.retireBuildIds)
      pure .done
  | .admitAuthority | .getLsn | .complete => none

end Storage

/-! ## The replica and its actions -/

/-- How far the effect of the current stage has come in this process. -/
inductive Work
  | prepared (preparation : ManagedConfigurationPreparation)
  | admitted (preparation : ManagedConfigurationPreparation)
  | refreshed
  | executed (outcome : StageOutcome)

structure Replica (σ : Type) where
  process : Process σ
  agent : AgentState
  /-- The command that holds the command lock. -/
  driven : Option Driven
  work : Option Work
  /-- The write that holds the effect lock. -/
  writing : Option RegisteredWrite
  /-- Every acknowledgement that the replica has issued. -/
  issued : List ReplicationAck

namespace Replica

def engine (r : Replica σ) : Engine σ := r.process.engine

def withEngine (r : Replica σ) (e : Engine σ) : Replica σ :=
  { r with process := { r.process with engine := e } }

/-- A new replica on the given storage. -/
def new (identity : ReplicaIdentity) (storage : σ) : Replica σ where
  process := ⟨.new identity storage, .none, none, none, none⟩
  agent := .new identity
  driven := none
  work := none
  writing := none
  issued := []

/-- The record of the command that is being driven. -/
def record? (r : Replica σ) (d : Driven) : Option ReconfigurationRecord :=
  r.agent.reconfiguration.filter fun record => record.command == d.command

/-- The command stops here; a preparation that is not committed is dropped. -/
def abandon (r : Replica σ) : Replica σ :=
  let engine := match r.work with
    | some (.prepared p) | some (.admitted p) => r.engine.dropPreparation p
    | _ => r.engine
  { r.withEngine engine with driven := none, work := none }

/-- What is left of a replica when its process stops. -/
def crash (r : Replica σ) : Replica σ :=
  { r with
    process := ⟨r.engine.restarted, .none, none, none, none⟩
    driven := none
    work := none
    writing := none }

/-- The command that has the effect of its current stage to execute, and its stage. -/
def toExecute (r : Replica σ) : Option (Driven × CoordinatorStage) :=
  if r.agent.stageResult.isSome then none
  else r.driven.bind fun d => (r.record? d).map fun record => (d, record.stage)

/-- The effect lock is free, and the effect of the current stage has not been started. -/
def idle (r : Replica σ) : Bool := r.writing.isNone && r.work.isNone

/-- Take over what a call of the runtime left: the work goes on, or the command stops. -/
def settle {α : Type} (r : Replica σ) (called : Result α × Process σ) (next : α → Work) :
    Replica σ :=
  match called with
  | (.ok a, process) => { r with process := process, work := some (next a) }
  | (.error _, process) => { r with process := process }.abandon

end Replica

/-! ## Actions -/

/-- `preserves_same_primary_scale_up_access` of the coordinator. -/
def AgentState.preservesAccess (s : AgentState) (a : ManagedReplicaConfiguration)
    (command : EnsureConfiguration) : Bool :=
  (a.scaleUp.any fun evidence => match evidence with
    | .admission _ => true
    | .failover _ => false) &&
    s.role == .primary && s.readStatus == .granted && s.writeStatus == .granted &&
    a.localRole == some .primary && a.primaryIdentity == some s.localIdentity &&
    command.primaryWriteStatus == .granted

/-- What every admitted command satisfies: the authority is that of the command, for this replica. -/
structure Driven.Admitted (d : Driven) (s : AgentState) : Prop where
  currentConfiguration : d.authority.currentConfiguration = d.command.currentConfiguration
  previousConfiguration : d.authority.previousConfiguration = d.command.previousConfiguration
  epoch : d.command.currentEpoch = d.command.currentConfiguration.epoch
  localIdentity : d.authority.localIdentity = s.localIdentity
  preserveAccess : d.preserveAccess = s.preservesAccess d.authority d.command

instance (d : Driven) (s : AgentState) : Decidable (d.Admitted s) :=
  decidable_of_iff (d.authority.currentConfiguration = d.command.currentConfiguration ∧
      d.authority.previousConfiguration = d.command.previousConfiguration ∧
      d.command.currentEpoch = d.command.currentConfiguration.epoch ∧
      d.authority.localIdentity = s.localIdentity ∧
      d.preserveAccess = s.preservesAccess d.authority d.command)
    ⟨fun ⟨h₁, h₂, h₃, h₄, h₅⟩ => ⟨h₁, h₂, h₃, h₄, h₅⟩, fun h => ⟨h.1, h.2, h.3, h.4, h.5⟩⟩

/-- The steps of the primary's path that run under the effect lock. -/
def PrimaryAction.needsEffectLock : PrimaryAction → Bool
  | .write .. | .resume .. | .finish _ | .refresh => true
  | _ => false

/-- The write that the start of a write leaves in progress. -/
def startedWrite : Result (PendingWrite ⊕ RegisteredWrite) → Option RegisteredWrite
  | .ok (.inr registered) => some registered
  | _ => none

inductive ReplicaAction
  /-- A step of the delivery path. -/
  | deliver (action : MemberAction)
  /-- A client write, or one of the journal that is resumed, takes the effect lock. -/
  | write (faults : Faults) (write : ClientWrite) (recovering : Bool)
  | finishWrite
  /-- A step of the primary's path that does not need the effect lock. -/
  | serve (action : PrimaryAction)
  /-- A command, admitted as the authority, takes the command lock. -/
  | begin (driven : Driven)
  | abandon
  /-- A newer command cancels the work of the one that is being driven. -/
  | cancelWork
  | prepare (hostGeneration : Nat)
  | admitDurable
  | commit
  | refresh (faults : Faults)
  | readProgress
  | execute
  | complete
  | advance
  | finish
  | crash
  | openEngine (committed : Int)
  | restore (removal : StoredRemoval) (hostGeneration : Nat)

namespace ReplicaAction

variable [DurableState σ]

/-- `commit_replica_configuration`, and the outcome that is read from the runtime after it. -/
def commitAndReport (preparation : ManagedConfigurationPreparation) : EngineM σ StageOutcome := do
  commitReplicaConfiguration preparation
  let e ← observe
  pure (.authorityAdmitted preparation.configuration e.readStatus e.writeStatus)

/-- The completion of an admission writes the authority that was admitted once more. -/
def completedEngine (e : Engine σ) : StageOutcome → Engine σ
  | .authorityAdmitted a _ _ => { e with configuration := some a }
  | _ => e

/-- The replica after an action, if the action is enabled. -/
def run (r : Replica σ) : ReplicaAction → Option (Replica σ)
  | deliver action =>
    some { r.withEngine (action.run r.engine).2 with
      issued := (action.run r.engine).1.toList ++ r.issued }
  | write faults w recovering =>
    if r.writing.isSome then none
    else
      let x := if recovering then startWriteLocked faults w true else startWrite faults w
      some { r.withEngine (x.run r.engine).2 with writing := startedWrite (x.run r.engine).1 }
  | finishWrite => r.writing.map fun registered =>
      { r.withEngine ((Kuberic.finishWrite registered).run r.engine).2 with writing := none }
  | serve action =>
    if action.needsEffectLock then none else some (r.withEngine (action.run r.engine).2)
  | begin d =>
    if r.driven.isSome ∨ ¬ d.Admitted r.agent then none
    else match r.agent.beginConfiguration d.command with
      | .ok (some agent) => some { r with agent := agent, driven := some d }
      | _ => none
  | abandon => some r.abandon
  | cancelWork =>
    if r.writing.isSome then none
    else some (r.withEngine (cancelConfigurationWork.run r.engine).2)
  | prepare hostGeneration =>
    if r.idle then r.toExecute.bind fun (d, stage) =>
      if stage = .admitAuthority then
        some (r.settle ((onEngine (prepareReplicaConfiguration d.authority hostGeneration false)).run
          r.process) .prepared)
      else none
    else none
  | admitDurable => match r.work with
    | some (.prepared p) => some (r.settle ((onEngine (admitDurably p.configuration)).run r.process)
        fun _ => .admitted p)
    | _ => none
  | commit => match r.work with
    | some (.admitted p) =>
      if r.writing.isSome then none
      else some (r.settle ((onEngine (commitAndReport p)).run r.process) .executed)
    | _ => none
  | refresh faults =>
    if r.idle then r.toExecute.bind fun (_, stage) =>
      if stage = .getLsn then
        some (r.settle ((onEngine (refreshApplicationProgress faults)).run r.process)
          fun _ => .refreshed)
      else none
    else none
  | readProgress => match r.work with
    | some .refreshed =>
      some { r with work := some (.executed (.progressRefreshed r.engine.currentProgress)) }
    | _ => none
  | execute =>
    if r.idle then r.toExecute.bind fun (d, stage) =>
      (stageEffect d stage).map fun x => r.settle (x.run r.process) .executed
    else none
  | complete => match r.work with
    | some (.executed outcome) =>
      some { r.withEngine (completedEngine r.engine outcome) with
        agent := r.agent.completeStage outcome
        work := none }
    | _ => none
  | advance => r.driven.bind fun d => (r.record? d).bind fun record =>
      r.agent.stageResult.bind fun outcome =>
        match r.agent.advanceConfiguration d.command.operationId record.stage
          (d.nextStage r.agent.role record.stage) (Driven.observedLsn record.stage outcome) with
        | .ok agent => some { r with agent := agent }
        | .error _ => none
  | finish => r.driven.bind fun d => match r.agent.completeConfiguration d.command.operationId with
      | .ok agent => some { r with agent := agent, driven := none, work := none }
      | .error _ => none
  | crash => some r.crash
  | openEngine committed =>
    if r.writing.isSome then none
    else some (r.withEngine ((openReplicator committed).run r.engine).2)
  | restore removal hostGeneration =>
    if r.writing.isSome then none
    else some (r.withEngine ((restoreAuthority removal hostGeneration).run r.engine).2)

end ReplicaAction

end Kuberic
