import Kuberic.Lib.AssocMap
import Kuberic.Protocol.Command
import Kuberic.Replicator.Configuration

/-!
# The coordinator of a configuration command

A replica drives a command through fixed stages and keeps the command, its stage and what it observed
in the durable agent state, so that a new process continues where the last one stopped.  The effect of
a stage is journalled under the command and the stage; `stageResult` is the result that the journal
retains for the stage that the command is at.

Left out of the agent state is what concerns the other commands: builds, switchover preparations,
secondary removals and the public operations.
-/

namespace Kuberic

/-- A change of role that is under way. -/
structure RoleTransition where
  targetRole : ReplicaRole
  replicatorCompleted : Bool
  epochCompleted : Bool
  applicationCompleted : Bool
  deriving DecidableEq

inductive HostError
  | commandRejected (message : String)
  | durableEffectConflict (message : String)
  | staleEffectCompletion (message : String)
  | corrupt (message : String)
  | runtime (error : RuntimeError)
  deriving DecidableEq

inductive CoordinatorStage
  | admitAuthority
  | failoverPrefix
  | demote
  | getLsn
  | catchup
  | deactivate
  | replicatorRole
  | epoch
  | applicationRole
  | activate
  | retireBuild
  | complete
  deriving DecidableEq

structure ReconfigurationRecord where
  command : EnsureConfiguration
  stage : CoordinatorStage
  observedLsn : Option Int
  deriving DecidableEq

/-- The promise of a replica to the elections of an epoch. -/
structure DeactivationState where
  epoch : Epoch
  deactivatedLsn : Int
  deriving DecidableEq

structure RetainedCommandResult where
  command : EnsureConfiguration
  role : ReplicaRole
  epoch : Epoch
  deriving DecidableEq

/-- What the runtime reports when the effect of a stage is done. -/
inductive StageOutcome
  | authorityAdmitted (authority : ManagedReplicaConfiguration) (read write : AccessStatus)
  | progressRefreshed (currentProgress : Int)
  | readChanged (read : AccessStatus)
  | writeChanged (write : AccessStatus)
  | accessChanged (read write : AccessStatus)
  | epochUpdated (epoch : Epoch)
  | applicationRoleChanged (role : ReplicaRole)
  | done
  deriving DecidableEq

structure AgentState where
  localIdentity : ReplicaIdentity
  highestEpoch : Epoch
  previousConfiguration : Option ConfigurationDescriptor
  currentConfiguration : Option ConfigurationDescriptor
  role : ReplicaRole
  readStatus : AccessStatus
  writeStatus : AccessStatus
  deactivation : Option DeactivationState
  reconfiguration : Option ReconfigurationRecord
  stageResult : Option StageOutcome
  retainedCommand : Option RetainedCommandResult
  removalCommands : AssocMap OperationId RetainedCommandResult

namespace AgentState

def new (localIdentity : ReplicaIdentity) : AgentState where
  localIdentity := localIdentity
  highestEpoch := default
  previousConfiguration := none
  currentConfiguration := none
  role := .none
  readStatus := .notPrimary
  writeStatus := .notPrimary
  deactivation := none
  reconfiguration := none
  stageResult := none
  retainedCommand := none
  removalCommands := ∅

def isAccessOnlyConfiguration (s : AgentState) (command : EnsureConfiguration) : Bool :=
  !command.currentOnly && command.previousConfiguration.isNone && s.previousConfiguration.isNone &&
    s.currentConfiguration == some command.currentConfiguration &&
    command.currentEpoch == s.highestEpoch && command.failoverSafeLsn.isNone &&
    command.retireBuildIds.isEmpty &&
    ((command.switchoverHandoff.isNone && command.retireSwitchoverPreparationIds.isEmpty) ||
      command.isSwitchoverRestoration) &&
    (command.currentConfiguration.members.find? fun m => m.identity == s.localIdentity).any
      fun m => m.role == s.role

/-- The record that a command starts with. -/
def startRecord (s : AgentState) (command : EnsureConfiguration) : ReconfigurationRecord :=
  ⟨command, if s.isAccessOnlyConfiguration command then .activate else .admitAuthority, none⟩

/-- `begin_configuration`; `none` stands for a command that is already complete. -/
def beginConfiguration (s : AgentState) (command : EnsureConfiguration) :
    Except HostError (Option AgentState) :=
  match s.removalCommands.get? command.operationId with
  | some retained =>
    if retained.command = command then .ok none
    else .error (.durableEffectConflict "removal command operation was mutated")
  | none =>
    match s.retainedCommand.filter fun r => r.command.operationId == command.operationId with
    | some retained =>
      if retained.command = command then .ok none
      else .error (.durableEffectConflict
        "operation ID was reused with different configuration authority")
    | none =>
      match s.reconfiguration with
      | some pending =>
        if pending.command = command then .ok (some s)
        else if command.currentEpoch ≤ pending.command.currentEpoch then
          .error (.durableEffectConflict "another configuration command is pending")
        else .ok (some { s with
          reconfiguration := some ⟨command, .admitAuthority, none⟩
          stageResult := none })
      | none => .ok (some { s with
          reconfiguration := some (s.startRecord command)
          stageResult := none })

def advanceConfiguration (s : AgentState) (operationId : OperationId)
    (expected next : CoordinatorStage) (observedLsn : Option Int) : Except HostError AgentState :=
  match s.reconfiguration with
  | none => .error (.durableEffectConflict "configuration command is not pending")
  | some record =>
    if record.command.operationId ≠ operationId ∨ record.stage ≠ expected then
      .error (.durableEffectConflict "configuration stage does not match durable command")
    else
      let observed := observedLsn.or record.observedLsn
      .ok { s with
        reconfiguration := some { record with stage := next, observedLsn := observed }
        stageResult := none
        deactivation := if expected = .deactivate then
          some ⟨record.command.currentEpoch, observed.getD 0⟩ else s.deactivation }

def completeConfiguration (s : AgentState) (operationId : OperationId) :
    Except HostError AgentState :=
  match s.reconfiguration with
  | none => .error (.durableEffectConflict "configuration command is not pending")
  | some record =>
    if record.command.operationId ≠ operationId ∨ record.stage ≠ .complete then
      .error (.durableEffectConflict "configuration command has not reached its terminal stage")
    else
      let result : RetainedCommandResult := ⟨record.command, s.role, s.highestEpoch⟩
      .ok { s with
        reconfiguration := none
        stageResult := none
        removalCommands := if record.command.transitionKind = .secondaryScaleDown then
          s.removalCommands.insert operationId result else s.removalCommands
        retainedCommand := some result }

/-- `complete_effect` for the effect of a stage. -/
def completeStage (s : AgentState) (outcome : StageOutcome) : AgentState :=
  let s := { s with stageResult := some outcome }
  match outcome with
  | .authorityAdmitted a read write => { s with
      readStatus := read
      writeStatus := write
      previousConfiguration := a.previousConfiguration
      currentConfiguration := some a.currentConfiguration
      highestEpoch := max s.highestEpoch a.epoch }
  | .readChanged read => { s with readStatus := read }
  | .writeChanged write => { s with writeStatus := write }
  | .accessChanged read write => { s with readStatus := read, writeStatus := write }
  | .epochUpdated epoch => { s with highestEpoch := max s.highestEpoch epoch }
  | .applicationRoleChanged role => { s with role := role }
  | .progressRefreshed _ | .done => s

end AgentState

/-! ## Stages -/

/-- A command that is being driven, with the authority it was admitted as. -/
structure Driven where
  command : EnsureConfiguration
  authority : ManagedReplicaConfiguration
  /-- The primary keeps its access across an increase of the membership. -/
  preserveAccess : Bool
  deriving DecidableEq

namespace Driven

variable (d : Driven)

def isFailover : Bool := d.command.transitionKind == .failover

def isLocalPrimary : Bool := d.authority.localRole == some .primary

/-- The stage that `drive_configuration` moves to when the effect of a stage is done; `role` is the
role in the agent state. -/
def nextStage (role : ReplicaRole) : CoordinatorStage → CoordinatorStage
  | .admitAuthority =>
    if d.preserveAccess then .activate
    else if d.isFailover && d.command.failoverSafeLsn.isSome then .failoverPrefix
    else .demote
  | .failoverPrefix => .demote
  | .demote => if d.isFailover then .replicatorRole else .getLsn
  | .getLsn =>
    if d.isFailover then
      if d.isLocalPrimary && (d.command.primaryWriteStatus == .granted ||
          (d.command.failoverSafeLsn.isSome && d.authority.scaleUp.isSome)) then .catchup
      else .deactivate
    else if d.command.transitionKind != .plannedSwitchover && role == .primary &&
        !d.isLocalPrimary then .catchup
    else .deactivate
  | .catchup =>
    if d.isFailover then .deactivate else if d.isLocalPrimary then .activate else .deactivate
  | .deactivate => if d.isFailover then .activate else .replicatorRole
  | .replicatorRole => if d.isLocalPrimary then .epoch else .applicationRole
  | .epoch => .applicationRole
  | .applicationRole =>
    if d.isFailover then .getLsn
    else if d.isLocalPrimary && (d.command.primaryWriteStatus == .granted ||
        d.command.transitionKind == .plannedSwitchover) then .catchup
    else .activate
  | .activate =>
    if d.command.retireBuildIds.isEmpty && d.command.retireSwitchoverPreparationIds.isEmpty then
      .complete
    else .retireBuild
  | .retireBuild => .complete
  | .complete => .complete

/-- The access that the last stage of a command gives. -/
def activeAccess : AccessStatus × AccessStatus :=
  let provisional := d.isLocalPrimary && d.command.primaryWriteStatus != .granted &&
    (d.isFailover || d.command.transitionKind == .plannedSwitchover ||
      d.command.transitionKind == .secondaryScaleDown)
  (if provisional then .reconfigurationPending
    else if d.isLocalPrimary || d.authority.localRole == some .activeSecondary then .granted
    else .notPrimary,
  if d.isLocalPrimary then d.command.primaryWriteStatus else .notPrimary)

/-- The LSN that a stage hands to the record. -/
def observedLsn : CoordinatorStage → StageOutcome → Option Int
  | .getLsn, .progressRefreshed lsn => some lsn
  | _, _ => none

end Driven

end Kuberic
