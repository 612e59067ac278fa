import Kuberic.Protocol.Types

/-!
# Validation errors

The reasons why accepted authority or an observation is refused, with the text that each is shown
as.  `debugString` is the debug form of a string: quoted, with the characters escaped that the
configuration ids and reasons of this model can contain.
-/

namespace Kuberic

def debugString (s : String) : String :=
  String.ofList ('"' :: (s.toList.flatMap fun c =>
    if c = '"' then ['\\', '"'] else if c = '\\' then ['\\', '\\']
    else if c = '\n' then ['\\', 'n'] else if c = '\r' then ['\\', 'r']
    else if c = '\t' then ['\\', 't'] else [c]) ++ ['"'])

def debugOption : Option String → String
  | none => "None"
  | some s => "Some(" ++ debugString s ++ ")"

def debugInts (l : List Int) : String := "[" ++ ", ".intercalate (l.map toString) ++ "]"

def Epoch.debug (e : Epoch) : String :=
  "Epoch \x7b data_loss_number: " ++ toString e.dataLossNumber ++ ", configuration_number: " ++
    toString e.configurationNumber ++ " \x7d"

inductive ValidationError
  | invalidScaleUp (reason : String)
  | invalidSecondaryScaleDown (reason : String)
  | desiredReplicasZero
  | initializedWithoutTopology
  | initializedWithoutPolicy
  | policyBeforeInitialization
  | transitionPolicyMismatch
  | topologyBeforeInitialization
  | provisioningAndTransition
  | provisioningWithoutTopology
  | configurationIdMismatch (actual expected : String)
  | emptyConfiguration
  | invalidConfigurationEpoch
  | duplicateReplicaIds (ids : List Int)
  | invalidReplicaId (replicaId : Int)
  | duplicateReplicaIdentity (identity : String)
  | missingPrimary (replicaId : Int)
  | invalidPrimaryCount (count : Nat)
  | replicaSetSizeMismatch (actual expected : Nat)
  | writeQuorumMismatch (actual expected : Nat)
  | invalidEffectivePolicy (size : Nat)
  | bootstrapHasPreviousConfiguration
  | bootstrapHasTopology
  | transitionWithoutTopology
  | previousConfigurationMismatch (actual : Option String) (expected : String)
  | transitionDataLossChanged
  | transitionEpochNotNewer
  | transitionLogicalMembershipChanged
  | failoverMembershipChanged
  | failoverReplacementWithoutBuild
  | invalidFailoverRepairTarget
  | invalidFailoverElectionLsn
  | invalidReplacementMembership
  | invalidReplacementCleanup
  | replacementPrimaryChanged
  | provisioningReusesAcceptedIncarnation
  | invalidProvisioningReplacement
  | replicaObservationKeyMismatch (key reported : String)
  | kubernetesObservationKeyMismatch
  | replicaResourceMismatch (replicaId : Int)
  | staleReportSequence (replicaId : Int) (observed previous : Nat)
  | staleReplicaEpoch (replicaId : Int) (observed accepted : Epoch)
  | conflictingReplicaConfiguration (replicaId : Int) (epoch : Epoch)
  | conflictingReplicaIdentity (replicaId : Int)
  | establishedStoreMissing (replicaId : Int)
  | invalidReplicaReportAuthority (replicaId : Int)
  | unauthorizedReplicaEpoch (replicaId : Int) (observed authorized : Epoch)
  | provisioningClaimsAuthority (replicaId : Int)
  | unrelatedReplicaClaimsAuthority (replicaId : Int)
  | bootstrapHasUnrelatedAuthority
  | bootstrapWriteGranted (replicaId : Int)
  | bootstrapRoleConflict (replicaId : Int)
  | conflictingPrimaryClaims (ids : List Int)
  | uninitializedScaffoldingMismatch
  | uninitializedProvisioningMismatch
  | bootstrapReportHasPreviousConfiguration (replicaId : Int)
  | reportedPreviousConfigurationMismatch (replicaId : Int)
  | primaryFailureMismatch
  | quorumLossMismatch
  | unexpectedSwitchoverIntent
  | missingSwitchoverIntent
  | invalidSwitchoverSource
  | invalidSwitchoverTarget
  | invalidSwitchoverResolution
  | invalidSwitchoverEvidence
  | invalidSwitchoverHandoff
  | invalidSwitchoverReceipt
  | buildSourceNotPrimary
  | invalidBootstrapBuildTarget
  | provisioningBuildTargetInAuthority
  | negativeBuildBoundary
  deriving DecidableEq

def ValidationError.message : ValidationError → String
  | invalidScaleUp reason => "invalid scale-up authority: " ++ reason
  | invalidSecondaryScaleDown reason => "invalid secondary scale-down authority: " ++ reason
  | desiredReplicasZero => "desired replica count must be greater than zero"
  | initializedWithoutTopology => "initialized status has no accepted topology"
  | initializedWithoutPolicy => "initialized status has no frozen effective policy"
  | policyBeforeInitialization => "never-initialized status contains a frozen effective policy"
  | transitionPolicyMismatch =>
    "active transition effective policy differs from frozen status policy"
  | topologyBeforeInitialization => "never-initialized status contains an accepted topology"
  | provisioningAndTransition =>
    "status cannot contain provisioning and a PC/CC transition simultaneously"
  | provisioningWithoutTopology => "provisioning intent requires initialized accepted topology"
  | configurationIdMismatch actual expected =>
    "configuration ID " ++ actual ++ " does not match canonical ID " ++ expected
  | emptyConfiguration => "configuration must contain at least one member"
  | invalidConfigurationEpoch => "configuration epoch values must not be negative"
  | duplicateReplicaIds ids => "configuration has duplicate logical replica IDs: " ++ debugInts ids
  | invalidReplicaId id =>
    "configuration contains invalid replica ID " ++ toString id ++ "; IDs must be positive"
  | duplicateReplicaIdentity identity =>
    "configuration has duplicate exact replica identity " ++ identity
  | missingPrimary id => "configuration primary " ++ toString id ++ " is not a Primary member"
  | invalidPrimaryCount n =>
    "configuration has " ++ toString n ++ " Primary members; expected exactly one"
  | replicaSetSizeMismatch actual expected => "configuration member count " ++ toString actual ++
      " does not match frozen size " ++ toString expected
  | writeQuorumMismatch actual expected => "configuration write quorum " ++ toString actual ++
      " does not match fixed quorum " ++ toString expected
  | invalidEffectivePolicy size =>
    "effective policy quorum values do not match fixed policy for size " ++ toString size
  | bootstrapHasPreviousConfiguration =>
    "bootstrap transition must not reference a Previous Configuration"
  | bootstrapHasTopology => "bootstrap transition cannot coexist with accepted topology"
  | transitionWithoutTopology =>
    "non-bootstrap transition has no accepted Previous Configuration"
  | previousConfigurationMismatch actual expected => "transition Previous Configuration " ++
      debugOption actual ++ " does not match topology " ++ expected
  | transitionDataLossChanged =>
    "Current Configuration data-loss epoch differs from Previous Configuration"
  | transitionEpochNotNewer =>
    "Current Configuration epoch must be newer than Previous Configuration"
  | transitionLogicalMembershipChanged =>
    "Previous and Current Configuration logical membership differs"
  | failoverMembershipChanged => "failover must preserve exact membership"
  | failoverReplacementWithoutBuild =>
    "failover carrying replacement membership must retain its build authority"
  | invalidFailoverRepairTarget =>
    "failover repair target must be an exact non-primary Current Configuration member"
  | invalidFailoverElectionLsn => "failover requires a non-negative election-safe LSN"
  | invalidReplacementMembership =>
    "replacement must change exactly one non-primary incarnation"
  | invalidReplacementCleanup =>
    "replacement cleanup must identify an exact excluded incarnation"
  | replacementPrimaryChanged => "replacement must preserve the accepted primary"
  | provisioningReusesAcceptedIncarnation =>
    "provisioning target reuses the accepted exact incarnation"
  | invalidProvisioningReplacement =>
    "provisioning does not replace one accepted non-primary incarnation"
  | replicaObservationKeyMismatch key reported => "replica observation key " ++ key ++
      " does not match reported identity " ++ reported
  | kubernetesObservationKeyMismatch =>
    "replica observation key does not match Kubernetes Pod identity"
  | replicaResourceMismatch id =>
    "replica " ++ toString id ++ " reports a different resource UID"
  | staleReportSequence id observed previous => "replica " ++ toString id ++ " report sequence " ++
      toString observed ++ " did not advance past " ++ toString previous
  | staleReplicaEpoch id observed accepted => "replica " ++ toString id ++
      " reports stale epoch " ++ observed.debug ++ " below accepted " ++ accepted.debug
  | conflictingReplicaConfiguration id epoch => "replica " ++ toString id ++
      " contradicts accepted configuration at epoch " ++ epoch.debug
  | conflictingReplicaIdentity id =>
    "replica " ++ toString id ++ " identity contradicts accepted member identity"
  | establishedStoreMissing id => "replica " ++ toString id ++
      " reports missing storage for an established authority incarnation"
  | invalidReplicaReportAuthority id => "replica " ++ toString id ++
      " report epoch or role contradicts its installed configuration"
  | unauthorizedReplicaEpoch id observed authorized => "replica " ++ toString id ++
      " reports epoch " ++ observed.debug ++ " newer than authorized " ++ authorized.debug
  | provisioningClaimsAuthority id =>
    "provisioning replica " ++ toString id ++ " claims replication or write authority"
  | unrelatedReplicaClaimsAuthority id =>
    "unrelated replica " ++ toString id ++ " claims primary or write authority"
  | bootstrapHasUnrelatedAuthority =>
    "bootstrap observed initialized authority outside its frozen Current Configuration"
  | bootstrapWriteGranted id =>
    "bootstrap replica " ++ toString id ++ " granted writes before topology acceptance"
  | bootstrapRoleConflict id =>
    "bootstrap replica " ++ toString id ++ " claims Primary contrary to frozen role"
  | conflictingPrimaryClaims ids =>
    "multiple replicas claim Primary for the same accepted authority: " ++ debugInts ids
  | uninitializedScaffoldingMismatch =>
    "uninitialized agent identity does not match observed Pod/PVC scaffolding"
  | uninitializedProvisioningMismatch =>
    "uninitialized agent identity does not match authorized provisioning"
  | bootstrapReportHasPreviousConfiguration id =>
    "bootstrap replica " ++ toString id ++ " reports a Previous Configuration"
  | reportedPreviousConfigurationMismatch id => "replica " ++ toString id ++
      " reports a Previous Configuration that differs from frozen authority"
  | primaryFailureMismatch => "primary failure observation does not match the accepted primary"
  | quorumLossMismatch =>
    "quorum-loss observation does not match the accepted configuration"
  | unexpectedSwitchoverIntent =>
    "non-switchover transition contains planned switchover authority"
  | missingSwitchoverIntent =>
    "planned switchover transition is missing its frozen request authority"
  | invalidSwitchoverSource => "planned switchover source is not the accepted exact primary"
  | invalidSwitchoverTarget =>
    "planned switchover target is not an accepted exact non-primary member"
  | invalidSwitchoverResolution =>
    "planned switchover Current Configuration primary contradicts its resolution"
  | invalidSwitchoverEvidence =>
    "planned switchover contains unrelated election, build, or repair authority"
  | invalidSwitchoverHandoff => "planned switchover handoff certificate is malformed"
  | invalidSwitchoverReceipt => "planned switchover receipt is malformed"
  | buildSourceNotPrimary => "build source is not the exact Current Configuration primary"
  | invalidBootstrapBuildTarget =>
    "bootstrap build target must be an exact non-primary genesis member"
  | provisioningBuildTargetInAuthority =>
    "provisioning build target must remain outside configuration authority"
  | negativeBuildBoundary => "build replication boundary must not be negative"

end Kuberic
