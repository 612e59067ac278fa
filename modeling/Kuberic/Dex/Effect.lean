import Kuberic.Dex.Identity

/-!
# Durable effects

The classification of completed activities, the ledger of at most two dispatch attempts of a
strict effect, and the exact command that a strict effect was prepared with.
-/

namespace Kuberic.Dex

/-- Immutable framework classification authenticated with completed history. -/
inductive CompletionClass
  | externalEffect
  | passiveObservation
  deriving DecidableEq

inductive EffectContractError
  | commandTooLarge (actualBytes maxBytes : Nat)
  | completionCountOverflow
  | completionCountMismatch (completed classified : Nat)
  | tooManyAttempts (actual : Nat)
  | invalidRedelivery
  | duplicateAttemptIdentity
  deriving DecidableEq

def EffectContractError.message : EffectContractError → String
  | .commandTooLarge actualBytes maxBytes => "effect command is " ++ toString actualBytes ++
      " bytes, exceeding the " ++ toString maxBytes ++ "-byte bound"
  | .completionCountOverflow => "completed activity count overflow"
  | .completionCountMismatch completed classified => "completed activity count " ++
      toString completed ++ " differs from classified activity count " ++ toString classified
  | .tooManyAttempts actual =>
      "a durable effect may record at most two attempts, found " ++ toString actual
  | .invalidRedelivery =>
      "redelivery requires a first attempt proven not admitted and a distinct attempt identity"
  | .duplicateAttemptIdentity => "redelivery attempt identity must differ from the first attempt"

/-- Kernel-authenticated summary retained after activity history compaction. -/
structure CompletionMetadata where
  completedActivityCount : Nat
  externalEffectCount : Nat
  passiveObservationCount : Nat
  deriving DecidableEq

namespace CompletionMetadata

def fromCounts (completed external passive : Nat) :
    Except EffectContractError CompletionMetadata :=
  match checkedAdd external passive with
  | none => .error .completionCountOverflow
  | some classified =>
    if classified ≠ completed then .error (.completionCountMismatch completed classified)
    else .ok ⟨completed, external, passive⟩

/-- The counts after one more class. -/
def count (c : CompletionMetadata) (k : CompletionClass) :
    Except EffectContractError CompletionMetadata :=
  match checkedAdd c.completedActivityCount 1, k with
  | none, _ => .error .completionCountOverflow
  | some completed, .externalEffect =>
    match checkedAdd c.externalEffectCount 1 with
    | none => .error .completionCountOverflow
    | some external => .ok { c with completedActivityCount := completed, externalEffectCount := external }
  | some completed, .passiveObservation =>
    match checkedAdd c.passiveObservationCount 1 with
    | none => .error .completionCountOverflow
    | some passive =>
      .ok { c with completedActivityCount := completed, passiveObservationCount := passive }

def fromClasses (classes : List CompletionClass) : Except EffectContractError CompletionMetadata := do
  let c ← classes.foldlM count ⟨0, 0, 0⟩
  fromCounts c.completedActivityCount c.externalEffectCount c.passiveObservationCount

end CompletionMetadata

/-- Auditable state of one dispatch attempt in a bounded effect ledger. -/
inductive EffectAttemptState
  | exposed
  | provenNoAdmission
  | observed
  deriving DecidableEq

structure EffectAttempt where
  attemptId : AttemptId
  state : EffectAttemptState
  deriving DecidableEq

/-- The framework's at-most-two-attempt redelivery model. -/
def validateEffectAttempts : List EffectAttempt → Except EffectContractError Unit
  | [] => .ok ()
  | [_] => .ok ()
  | [first, second] =>
    if first.state = .provenNoAdmission ∧ first.attemptId ≠ second.attemptId then .ok ()
    else if first.attemptId = second.attemptId then .error .duplicateAttemptIdentity
    else .error .invalidRedelivery
  | attempts => .error (.tooManyAttempts attempts.length)

theorem validateEffectAttempts_eq_ok {attempts : List EffectAttempt} :
    validateEffectAttempts attempts = .ok () ↔ attempts.length ≤ 1 ∨ ∃ first second,
      attempts = [first, second] ∧ first.state = .provenNoAdmission ∧
        first.attemptId ≠ second.attemptId := by
  match attempts with
  | [] => simp [validateEffectAttempts]
  | [_] => simp [validateEffectAttempts]
  | [first, second] =>
    have hpair : (∃ a b, [first, second] = [a, b] ∧ a.state = .provenNoAdmission ∧
        a.attemptId ≠ b.attemptId) ↔
        first.state = .provenNoAdmission ∧ first.attemptId ≠ second.attemptId := by
      constructor
      · rintro ⟨a, b, heq, h⟩
        cases heq
        exact h
      · exact fun h => ⟨first, second, rfl, h⟩
    rw [hpair, validateEffectAttempts]
    split_ifs with h h' <;> simp [h]
  | _ :: _ :: _ :: _ => simp [validateEffectAttempts]

/-- How an authoritative typed observation advances an exposed attempt. -/
inductive EffectObservationDisposition
  | completed
  | provenNoAdmission
  deriving DecidableEq

/-- Persistable exact prepared command, independent of the logical request. -/
structure PreparedCommand where
  bytes : ExactBytes
  maxBytes : Nat
  deriving DecidableEq

def PreparedCommand.new (bytes : ExactBytes) (maxBytes : Nat) :
    Except EffectContractError PreparedCommand :=
  if maxBytes < bytes.length then .error (.commandTooLarge bytes.length maxBytes)
  else .ok ⟨bytes, maxBytes⟩

/-- Immutable metadata carried from a typed effect definition into history. -/
structure EffectMetadata where
  maxCommandBytes : Nat
  completionClass : CompletionClass
  deriving DecidableEq

/-- Deterministic failure while resolving a logical activity. -/
inductive PreparedActivityError
  | derivation
  | validation
  | encoding
  | inputTooLarge (actualBytes maxBytes : Nat)
  | resultBoundTooLarge (actualBytes maxBytes : Nat)
  | commandTooLarge (actualBytes maxBytes : Nat)
  | commandBoundMismatch (actualBytes maxBytes : Nat)
  deriving DecidableEq

end Kuberic.Dex
