import Mathlib.Data.List.Dedup
import Kuberic.Protocol.Status

/-!
# The executable replication configuration

The projection of the durable authority that the replication engine runs under, the envelopes that
travel between replicas, and the fence check that binds every envelope to one authority.

`primaryIdentity` and `localRole` end in an `expect` in the source; here they are `none` where the
source would stop.
-/

namespace Kuberic

abbrev Bytes := List UInt8

inductive RuntimeError
  | closed
  | notOpen
  | notPrimary
  | operationCancelled
  | reconfigurationPending
  | queueFull
  | writeClosed (status : AccessStatus)
  | authorityNotAdmitted
  | authorityMismatch (message : String)
  | invalidReplication (message : String)
  | application (message : String)
  | localWritePending (operationId : OperationId)
  | writeCompletionClosed
  | dataLossFenced
  deriving DecidableEq

/-- The result of a fallible runtime function. -/
abbrev Result (α : Type) := Except RuntimeError α

structure Operation where
  lsn : Int
  committedLsn : Int
  data : Bytes
  deriving DecidableEq

structure ClientWrite where
  operationId : OperationId
  data : Bytes
  deriving DecidableEq

structure ReplicationItem where
  sender : ReplicaIdentity
  receiver : ReplicaIdentity
  epoch : Epoch
  previousConfigurationId : Option ConfigurationId
  currentConfigurationId : ConfigurationId
  lsn : Int
  committedLsn : Int
  data : Bytes
  deriving DecidableEq

structure ReplicationAck where
  sender : ReplicaIdentity
  receiver : ReplicaIdentity
  epoch : Epoch
  previousConfigurationId : Option ConfigurationId
  currentConfigurationId : ConfigurationId
  receivedLsn : Int
  appliedLsn : Int
  committedLsn : Int
  deriving DecidableEq

structure AuthorityFence where
  epoch : Epoch
  previousConfigurationId : Option ConfigurationId
  currentConfigurationId : ConfigurationId
  deriving DecidableEq

/-- The authority that an item was sent under. -/
def ReplicationItem.fence (item : ReplicationItem) : AuthorityFence :=
  ⟨item.epoch, item.previousConfigurationId, item.currentConfigurationId⟩

def ReplicationAck.fence (ack : ReplicationAck) : AuthorityFence :=
  ⟨ack.epoch, ack.previousConfigurationId, ack.currentConfigurationId⟩

structure ReplicationProgress where
  fence : AuthorityFence
  verifiedLsn : Int
  deriving DecidableEq

/-- What a build has reached, as the store keeps it and as the runtime reports it. -/
structure BuildProgress where
  authority : BuildAuthority
  lastSequence : Nat
  durableLsn : Int
  completed : Bool
  catchUpBoundaryLsn : Option Int
  deriving DecidableEq

/-- Engine-owned projection of the controller's durable authority. -/
structure ManagedReplicaConfiguration where
  localIdentity : ReplicaIdentity
  previousConfiguration : Option ConfigurationDescriptor
  currentConfiguration : ConfigurationDescriptor
  switchoverHandoff : Option SwitchoverHandoff
  secondaryRemoval : Option SecondaryRemovalEvidence
  scaleUp : Option ScaleUpConfigurationEvidence
  buildKind : BuildAuthorityKind
  deriving DecidableEq

/-- The member that a configuration names as its primary. -/
def ConfigurationDescriptor.primaryMember (c : ConfigurationDescriptor) :
    Option ConfigurationMember :=
  c.members.find? fun m => m.identity.replicaId == c.primaryId && m.role == .primary

def ConfigurationDescriptor.hasIdentity (c : ConfigurationDescriptor)
    (identity : ReplicaIdentity) : Bool :=
  c.members.any fun m => m.identity == identity

namespace ManagedReplicaConfiguration

def epoch (a : ManagedReplicaConfiguration) : Epoch := a.currentConfiguration.epoch

def containsMember (a : ManagedReplicaConfiguration) (identity : ReplicaIdentity) : Bool :=
  a.currentConfiguration.hasIdentity identity ||
    a.previousConfiguration.any fun previous => previous.hasIdentity identity

def validate (a : ManagedReplicaConfiguration) : Result Unit :=
  if !a.containsMember a.localIdentity then
    .error (.authorityMismatch "local identity is outside executable replication configuration")
  else if a.previousConfiguration.any fun previous => a.currentConfiguration.epoch ≤ previous.epoch
  then
    .error (.authorityMismatch "executable replication configuration did not advance its epoch")
  else .ok ()

def isCurrentOnlyCompletionOf (a existing : ManagedReplicaConfiguration) : Bool :=
  a.localIdentity == existing.localIdentity &&
    a.currentConfiguration == existing.currentConfiguration &&
    existing.previousConfiguration.isSome && a.previousConfiguration.isNone &&
    a.switchoverHandoff == existing.switchoverHandoff && a.scaleUp == existing.scaleUp &&
    match a.secondaryRemoval, existing.secondaryRemoval with
    | some next, some old => next.preparation == old.preparation &&
        next.previousReadQuorum == old.previousReadQuorum &&
        (old.reducedWriteQuorum.isEmpty || next.reducedWriteQuorum == old.reducedWriteQuorum)
    | none, none => true
    | _, _ => false

def fence (a : ManagedReplicaConfiguration) : AuthorityFence :=
  ⟨a.currentConfiguration.epoch, a.previousConfiguration.map (·.configurationId),
    a.currentConfiguration.configurationId⟩

def primaryIdentity (a : ManagedReplicaConfiguration) : Option ReplicaIdentity :=
  a.currentConfiguration.primaryMember.map (·.identity)

def localRole (a : ManagedReplicaConfiguration) : Option ReplicaRole :=
  let isLocal := fun m : ConfigurationMember => m.identity == a.localIdentity
  ((a.currentConfiguration.members.find? isLocal).or
    (a.previousConfiguration.bind fun previous => previous.members.find? isLocal)).map (·.role)

/-- The identities of both configurations, each once. -/
def members (a : ManagedReplicaConfiguration) : List ReplicaIdentity :=
  ((a.currentConfiguration.members ++
    (a.previousConfiguration.map (·.members)).getD []).map (·.identity)).dedup

def validateFence (a : ManagedReplicaConfiguration) (sender receiver : ReplicaIdentity)
    (epoch : Epoch) (previousConfigurationId : Option ConfigurationId)
    (currentConfigurationId : ConfigurationId) : Result Unit :=
  if some sender ≠ a.primaryIdentity then
    .error (.authorityMismatch "replication sender is not the exact configured primary")
  else if !a.containsMember receiver then
    .error (.authorityMismatch "replication receiver is outside executable configuration")
  else if epoch ≠ a.currentConfiguration.epoch ∨
      currentConfigurationId ≠ a.currentConfiguration.configurationId ∨
      previousConfigurationId ≠ a.previousConfiguration.map (·.configurationId) then
    .error (.authorityMismatch "replication epoch or configuration fence is stale")
  else .ok ()

def validateEnvelope (a : ManagedReplicaConfiguration) (item : ReplicationItem) : Result Unit :=
  a.validateFence item.sender item.receiver item.epoch item.previousConfigurationId
    item.currentConfigurationId

def validateAcknowledgement (a : ManagedReplicaConfiguration) (ack : ReplicationAck) :
    Result Unit :=
  a.validateFence ack.sender ack.receiver ack.epoch ack.previousConfigurationId
    ack.currentConfigurationId

theorem validateFence_eq_ok {a : ManagedReplicaConfiguration} {sender receiver : ReplicaIdentity}
    {epoch : Epoch} {previousId : Option ConfigurationId} {currentId : ConfigurationId} :
    a.validateFence sender receiver epoch previousId currentId = .ok () ↔
      a.primaryIdentity = some sender ∧ a.containsMember receiver = true ∧
        a.fence = ⟨epoch, previousId, currentId⟩ := by
  unfold validateFence fence
  split_ifs with h₁ h₂ h₃
  · simp [Ne.symm h₁]
  · simp_all
  · simp only [false_iff, not_and]
    intro _ _ h
    injection h with he hp hc
    rcases h₃ with h | h | h
    · exact h he.symm
    · exact h hc.symm
    · exact h hp.symm
  · simp only [not_or, not_not] at h₁ h₃
    simp only [true_iff]
    refine ⟨h₁.symm, by simpa using h₂, ?_⟩
    rw [h₃.1, h₃.2.1, h₃.2.2]

theorem mem_members_iff {a : ManagedReplicaConfiguration} {identity : ReplicaIdentity} :
    identity ∈ a.members ↔ a.containsMember identity = true := by
  unfold members containsMember ConfigurationDescriptor.hasIdentity
  cases a.previousConfiguration <;> simp

end ManagedReplicaConfiguration

end Kuberic
