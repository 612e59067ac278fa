import Mathlib.Data.List.Sort
import Mathlib.Data.Prod.Lex
import Mathlib.Algebra.Order.Ring.Int

/-!
# Identities, epochs and configurations

The canonical identities of the replication protocol and the configuration descriptor whose
`configurationId` is derived from its content.  String newtypes of the source are plain strings,
`i64` is `Int` and `u32`, `u64` are `Nat`; an addition that the source performs unchecked is the
unbounded addition here, and `checkedAddOne` is the source's `checked_add(1)` on `i64`.

The hash function is the only part of the model that the source takes from outside: it is the
single operation of the class `Sha256`.
-/

namespace Kuberic

abbrev ResourceUid := String
abbrev PodUid := String
abbrev PvcUid := String
abbrev ReplicaInstanceId := String
abbrev AgentGeneration := String
abbrev ProcessSessionId := String
abbrev ConfigurationId := String
abbrev TransitionId := String
abbrev InitializationId := String
abbrev OperationId := String
abbrev SwitchoverRequestId := String
abbrev ReplicaId := Int

/-- The largest value of an `i64`. -/
def i64Max : Int := 9223372036854775807

/-- `checked_add(1)` on an `i64`. -/
def checkedAddOne (n : Int) : Option Int := if n + 1 ≤ i64Max then some (n + 1) else none

/-! ## Epochs -/

/-- Monotonic replication authority version, ordered by data loss then configuration. -/
@[ext] structure Epoch where
  dataLossNumber : Int
  configurationNumber : Int
  deriving DecidableEq

namespace Epoch

instance : Inhabited Epoch := ⟨⟨0, 0⟩⟩

/-- The pair an epoch is compared by. -/
def key (e : Epoch) : Int ×ₗ Int := toLex (e.dataLossNumber, e.configurationNumber)

theorem key_injective : Function.Injective key := by
  intro a b h
  have h' := toLex.injective h
  simp only [Prod.mk.injEq] at h'
  exact Epoch.ext h'.1 h'.2

instance : LinearOrder Epoch := LinearOrder.lift' key key_injective

theorem lt_iff {a b : Epoch} : a < b ↔ a.dataLossNumber < b.dataLossNumber ∨
    a.dataLossNumber = b.dataLossNumber ∧ a.configurationNumber < b.configurationNumber :=
  Prod.Lex.toLex_lt_toLex

/-- The epoch with the next configuration number. -/
def next (e : Epoch) : Epoch := ⟨e.dataLossNumber, e.configurationNumber + 1⟩

end Epoch

/-! ## Roles and identities -/

/-- Runtime role of one exact replica incarnation. -/
inductive ReplicaRole
  | primary
  | activeSecondary
  | idleSecondary
  | none
  deriving DecidableEq, Inhabited

/-- Current write-access decision exposed by the replica runtime. -/
inductive AccessStatus
  | granted
  | reconfigurationPending
  | notPrimary
  | noWriteQuorum
  deriving DecidableEq, Inhabited

inductive FaultType
  | transient
  | permanent
  deriving DecidableEq

/-- Exact authority identity: logical replica, Pod incarnation, and durable generation. -/
structure ReplicaIdentity where
  replicaId : ReplicaId
  instanceId : ReplicaInstanceId
  agentGeneration : AgentGeneration
  deriving DecidableEq, Inhabited

structure ConfigurationMember where
  identity : ReplicaIdentity
  role : ReplicaRole
  deriving DecidableEq, Inhabited

/-! ## Digests -/

/-- The hash function, which the source takes from the `sha2` crate. -/
class Sha256 where
  digest : List UInt8 → List UInt8

/-- `to_be_bytes` of an unsigned integer of `width` bytes. -/
def beBytes (width n : Nat) : List UInt8 :=
  (List.range width).reverse.map fun k => UInt8.ofNat (n / 256 ^ k)

/-- `to_be_bytes` of an `i64`. -/
def i64Bytes (n : Int) : List UInt8 := beBytes 8 (n % 2 ^ 64).toNat

def stringBytes (s : String) : List UInt8 := s.toUTF8.data.toList

/-- `update_digest_string`: the length of the string, then its bytes. -/
def digestString (s : String) : List UInt8 :=
  beBytes 8 (stringBytes s).length ++ stringBytes s

/-- A short checksum in place of the hash function, to evaluate the model on concrete inputs. -/
@[reducible] def checksum : Sha256 where
  digest bytes := beBytes 8 (bytes.foldl (fun h b => (31 * h + b.toNat) % 2 ^ 64) 7)

def hexDigit (n : Nat) : Char := "0123456789abcdef".toList.getD n '0'

def formatDigest (bytes : List UInt8) : String :=
  String.ofList (bytes.flatMap fun b => [hexDigit (b.toNat / 16), hexDigit (b.toNat % 16)])

/-- The bytes hashed by `digest_parts`. -/
def digestPartsBytes (parts : List String) : List UInt8 := parts.flatMap digestString

def digestParts [Sha256] (parts : List String) : String :=
  formatDigest (Sha256.digest (digestPartsBytes parts))

def roleTag : ReplicaRole → UInt8
  | .primary => 1
  | .activeSecondary => 2
  | .idleSecondary => 3
  | .none => 4

/-! ## Configurations -/

/-- Members in replica-id order, as `sort_by_key` leaves them. -/
def sortMembers (members : List ConfigurationMember) : List ConfigurationMember :=
  members.insertionSort fun a b => a.identity.replicaId ≤ b.identity.replicaId

/-- Canonical Current or Previous Configuration with a content-derived id. -/
structure ConfigurationDescriptor where
  configurationId : ConfigurationId
  epoch : Epoch
  primaryId : ReplicaId
  members : List ConfigurationMember
  writeQuorum : Nat
  deriving DecidableEq, Inhabited

namespace ConfigurationDescriptor

/-- The bytes that one member contributes to a configuration id. -/
def memberBytes (m : ConfigurationMember) : List UInt8 :=
  i64Bytes m.identity.replicaId ++ digestString m.identity.instanceId ++
    digestString m.identity.agentGeneration ++ [roleTag m.role]

/-- The bytes hashed by `calculate_id`. -/
def idBytes (epoch : Epoch) (primaryId : ReplicaId) (members : List ConfigurationMember)
    (writeQuorum : Nat) : List UInt8 :=
  stringBytes "kuberic-configuration-v1" ++ i64Bytes epoch.dataLossNumber ++
    i64Bytes epoch.configurationNumber ++ i64Bytes primaryId ++ beBytes 4 writeQuorum ++
    beBytes 8 members.length ++ (sortMembers members).flatMap memberBytes

def calculateId [Sha256] (epoch : Epoch) (primaryId : ReplicaId)
    (members : List ConfigurationMember) (writeQuorum : Nat) : ConfigurationId :=
  "cfg-" ++ formatDigest (Sha256.digest (idBytes epoch primaryId members writeQuorum))

def new [Sha256] (epoch : Epoch) (primaryId : ReplicaId) (members : List ConfigurationMember)
    (writeQuorum : Nat) : ConfigurationDescriptor where
  configurationId := calculateId epoch primaryId (sortMembers members) writeQuorum
  epoch := epoch
  primaryId := primaryId
  members := sortMembers members
  writeQuorum := writeQuorum

def expectedId [Sha256] (c : ConfigurationDescriptor) : ConfigurationId :=
  calculateId c.epoch c.primaryId c.members c.writeQuorum

end ConfigurationDescriptor

/-- Fixed replica-set size and majority quorum values frozen for an operation. -/
structure EffectivePolicy where
  replicaSetSize : Nat
  writeQuorum : Nat
  readQuorum : Nat
  failoverDelaySeconds : Nat
  deriving DecidableEq, Inhabited

def EffectivePolicy.fixed (replicaSetSize failoverDelaySeconds : Nat) : Option EffectivePolicy :=
  if replicaSetSize = 0 then none
  else
    let writeQuorum := replicaSetSize / 2 + 1
    some ⟨replicaSetSize, writeQuorum, replicaSetSize - writeQuorum + 1, failoverDelaySeconds⟩

end Kuberic
