import Mathlib.Algebra.Order.Ring.Int

/-!
# Identities of durable executions

Executions, hosts, activities and attempts.  Names and attempts carry the checks of their
constructors.  `u32`, `u64` are `Nat` and `i64` is `Int`; a checked operation of the source compares
with the largest value of its type.
-/

namespace Kuberic.Dex

/-- Bytes compared and persisted without normalization. -/
abbrev ExactBytes := List UInt8

def u32Max : Nat := 2 ^ 32 - 1

def u64Max : Nat := 2 ^ 64 - 1

def i64Max : Int := 2 ^ 63 - 1

def i64Min : Int := -2 ^ 63

/-- `checked_add` on `u64`, and on `usize`, which has the same width. -/
def checkedAdd (a b : Nat) : Option Nat := if a + b ≤ u64Max then some (a + b) else none

/-- Caller-supplied identity of sixteen bytes. -/
abbrev Bytes16 := { bytes : List UInt8 // bytes.length = 16 }

/-- Sixteen times the same byte. -/
def Bytes16.filled (byte : UInt8) : Bytes16 := ⟨List.replicate 16 byte, List.length_replicate⟩

abbrev ExecutionId := Bytes16

/-- Caller-supplied identity for one host epoch. -/
abbrev HostEpoch := Bytes16

/-- Immutable caller authority for one durable execution. -/
structure ExecutionSpec where
  executionId : ExecutionId
  workflowInput : ExactBytes
  maxTerminalPayloadBytes : Nat
  deriving DecidableEq

inductive IdentityError
  | emptyActivityName
  | zeroActivityVersion
  | zeroActivityAttempts
  | zeroAttemptCounter
  deriving DecidableEq

/-- Immutable caller-supplied activity name with an explicit positive version. -/
structure ActivityName where
  name : String
  version : Nat
  name_ne : name ≠ ""
  version_ne : version ≠ 0
  deriving DecidableEq

def ActivityName.new (name : String) (version : Nat) : Except IdentityError ActivityName :=
  if hname : name = "" then .error .emptyActivityName
  else if hversion : version = 0 then .error .zeroActivityVersion
  else .ok ⟨name, version, hname, hversion⟩

theorem ActivityName.new_eq (n : ActivityName) : ActivityName.new n.name n.version = .ok n := by
  rw [ActivityName.new, dif_neg n.name_ne, dif_neg n.version_ne]

/-- Replay-matched scheduling semantics for one logical activity. -/
structure ActivityOptions where
  maxAttempts : Nat
  initialBackoffMillis : Nat
  actionDeadlineUnixMillis : Option Int
  attemptTimeoutMillis : Option Nat
  deriving DecidableEq

namespace ActivityOptions

def new (maxAttempts initialBackoffMillis : Nat) (actionDeadlineUnixMillis : Option Int)
    (attemptTimeoutMillis : Option Nat) : Except IdentityError ActivityOptions :=
  if maxAttempts = 0 then .error .zeroActivityAttempts
  else .ok ⟨maxAttempts, initialBackoffMillis, actionDeadlineUnixMillis, attemptTimeoutMillis⟩

instance : Inhabited ActivityOptions := ⟨⟨3, 1000, none, none⟩⟩

/-- The time before which the attempt after `completedAttempt` is not made. -/
def retryNotBeforeUnixMillis (o : ActivityOptions) (completedAttempt : Nat)
    (observedAtUnixMillis : Int) : Option Int :=
  if o.maxAttempts ≤ completedAttempt then none
  else
    let shift := min (completedAttempt - 1) 63
    -- `checked_shl` only refuses shifts of 64 and more: bits above the word are dropped.
    let delay : Int := ((o.initialBackoffMillis * 2 ^ shift) % 2 ^ 64 : Nat)
    if delay ≤ i64Max then
      let at_ := observedAtUnixMillis + delay
      if at_ ≤ i64Max then some at_ else none
    else none

end ActivityOptions

/-- Immutable semantics of one workflow activity declaration. -/
structure ActivitySpec where
  name : ActivityName
  input : ExactBytes
  maxInputBytes : Nat
  maxResultBytes : Nat
  options : ActivityOptions
  deriving DecidableEq

/-- One dispatch attempt.  Counter zero is reserved and rejected. -/
structure AttemptId where
  hostEpoch : HostEpoch
  counter : Nat
  counter_ne : counter ≠ 0
  deriving DecidableEq

def AttemptId.new (hostEpoch : HostEpoch) (counter : Nat) : Except IdentityError AttemptId :=
  if h : counter = 0 then .error .zeroAttemptCounter else .ok ⟨hostEpoch, counter, h⟩

theorem AttemptId.new_eq (a : AttemptId) : AttemptId.new a.hostEpoch a.counter = .ok a := by
  rw [AttemptId.new, dif_neg a.counter_ne]

/-- Complete semantic identity of a logical activity. -/
structure LogicalActivityId where
  executionId : ExecutionId
  sequence : Nat
  spec : ActivitySpec
  deriving DecidableEq

end Kuberic.Dex
