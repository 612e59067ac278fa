import Kuberic.Controller.Evidence

/-!
# Commands that the evaluator sends

An `EnsureConfiguration` command gives one member the authority of a pair of configurations, or of
the current configuration alone.  The commands of a failover, a replacement and of the accepted
configuration differ in their kind, in the access that they grant and in what they retire.
Operation ids are derived from the transition, so that a repeated command is recognised.
-/

namespace Kuberic.Controller

variable [Sha256]

/-! ## Configuration commands -/

/-- A command without membership evidence for one member of `current`. -/
def memberCommand (kind : TransitionKind) (previous : Option ConfigurationDescriptor)
    (current : ConfigurationDescriptor) (member : ConfigurationMember) (policy : EffectivePolicy)
    (operationId : OperationId) (failoverSafeLsn : Option Int) (primaryWriteStatus : AccessStatus)
    (currentOnly : Bool) (retireBuildIds : List OperationId) : EnsureConfiguration where
  previousPolicy := none
  secondaryRemovalEvidence := none
  scaleUpEvidence := none
  operationId := operationId
  previousConfiguration := previous
  currentConfiguration := current
  previousEpoch := previous.map (·.epoch)
  currentEpoch := current.epoch
  effectivePolicy := policy
  localReplicaId := member.identity.replicaId
  expectedInstanceId := member.identity.instanceId
  expectedAgentGeneration := member.identity.agentGeneration
  transitionKind := kind
  failoverSafeLsn := failoverSafeLsn
  primaryWriteStatus := primaryWriteStatus
  currentOnly := currentOnly
  retireBuildIds := retireBuildIds
  switchoverHandoff := none
  retireSwitchoverPreparationIds := []

/-- The previous configuration of a command, which a current-only command does not carry. -/
def unlessCurrentOnly (currentOnly : Bool) (previous : ConfigurationDescriptor) :
    Option ConfigurationDescriptor :=
  if currentOnly then none else some previous

def failoverConfigurationCommand (previous current : ConfigurationDescriptor)
    (member : ConfigurationMember) (policy : EffectivePolicy) (operationId : OperationId)
    (failoverSafeLsn : Option Int) (primaryWriteStatus : AccessStatus) (currentOnly : Bool)
    (retireBuildIds : List OperationId) : EnsureConfiguration :=
  memberCommand .failover (unlessCurrentOnly currentOnly previous) current member policy
    operationId failoverSafeLsn primaryWriteStatus currentOnly retireBuildIds

def replacementConfigurationCommand (previous current : ConfigurationDescriptor)
    (member : ConfigurationMember) (policy : EffectivePolicy) (operationId : OperationId)
    (grantWrite currentOnly : Bool) (retireBuildId : Option OperationId) : EnsureConfiguration :=
  memberCommand .replacement (unlessCurrentOnly currentOnly previous) current member policy
    operationId none (if grantWrite then .granted else .reconfigurationPending) currentOnly
    retireBuildId.toList

def ensureConfigurationCommand (configuration : ConfigurationDescriptor)
    (member : ConfigurationMember) (policy : EffectivePolicy) (operationId : OperationId)
    (primaryWriteStatus : AccessStatus) (currentOnly : Bool) : EnsureConfiguration :=
  memberCommand .bootstrap none configuration member policy operationId none
    primaryWriteStatus currentOnly []

/-! ## Operation ids -/

def memberOperationId (transition : TransitionIntent) (tag : String)
    (member : ConfigurationMember) : OperationId :=
  transition.transitionId ++ ":" ++ tag ++ ":" ++ toString member.identity.replicaId

def failoverInstallOperationId (transition : TransitionIntent) (member : ConfigurationMember) :
    OperationId :=
  memberOperationId transition "election" member

def failoverCurrentOnlyOperationId (transition : TransitionIntent)
    (member : ConfigurationMember) : OperationId :=
  memberOperationId transition "current-only" member

def replacementInstallOperationId (transition : TransitionIntent) (member : ConfigurationMember) :
    OperationId :=
  memberOperationId transition "pc-cc" member

def replacementCurrentOnlyOperationId (transition : TransitionIntent)
    (member : ConfigurationMember) : OperationId :=
  memberOperationId transition "current-only" member

/-! ## Other commands -/

/-- The build of a copy of `source` at `target`, without frozen authority. -/
def replicaBuildCommand (operationId : OperationId) (source target : ReplicaIdentity) :
    EnsureReplicaBuild where
  operationId := operationId
  localReplicaId := source.replicaId
  expectedInstanceId := source.instanceId
  expectedAgentGeneration := source.agentGeneration
  target := target
  authority := none
  sourceSessionId := none
  retire := false

/-- A transition that carries neither evidence nor a repair. -/
def plainTransition (transitionId : TransitionId) (kind : TransitionKind)
    (specGeneration : Nat) (policy : EffectivePolicy)
    (previousConfigurationId : Option ConfigurationId) (current : ConfigurationDescriptor) :
    TransitionIntent where
  transitionId := transitionId
  kind := kind
  specGeneration := specGeneration
  effectivePolicy := policy
  previousConfigurationId := previousConfigurationId
  currentConfiguration := current
  electionLsn := none
  buildId := none
  repair := none
  switchover := none
  secondaryScaleDown := none
  secondaryRemovalEvidence := none
  scaleUp := none
  scaleUpFailover := none

end Kuberic.Controller
