import Kuberic.Dex.Envelope

/-!
# Reading back what was written

An encoded payload decodes to itself.  Encoding applies the limit of the payload's lifecycle state,
while decoding first applies the limit of active checkpoints to every envelope: a terminal checkpoint
above that limit is written and cannot be read.
-/

namespace Kuberic.Dex

open Check

namespace CheckpointEnvelope

variable {p : CheckpointPayload} {limits : CheckpointLimits} {e : CheckpointEnvelope}

theorem payload_encode (p : CheckpointPayload) : (encode p).payload? = some p := by
  simp [payload?, encode, Json.fromSlice_toVec]

theorem validate_self (h : p.validateInternal limits = .ok ()) :
    p.validate p.execution.spec limits = .ok () := by
  simp [CheckpointPayload.validate, h]

theorem encodeWithLimits_eq_ok :
    encodeWithLimits p limits = .ok e ↔ e = encode p ∧ p.validateInternal limits = .ok () ∧
      ∃ n, (encode p).encodedLen = .ok n ∧ checkLifecycleSize limits n p.state = .ok () := by
  simp only [encodeWithLimits, validateLifecycleEncodedSize, bind_eq_ok, pure, Except.pure,
    Except.ok.injEq]
  constructor
  · rintro ⟨⟨⟩, hvalid, ⟨⟩, ⟨n, hn, hsize⟩, rfl⟩
    exact ⟨rfl, hvalid, n, hn, hsize⟩
  · rintro ⟨rfl, hvalid, n, hn, hsize⟩
    exact ⟨(), hvalid, (), ⟨n, hn, hsize⟩, rfl⟩

/-- Decoding checks the size limit of active checkpoints and then reads the payload back. -/
theorem decodeAndValidate_encode {n : Nat} (hvalid : p.validateInternal limits = .ok ())
    (hn : (encode p).encodedLen = .ok n) (hsize : checkLifecycleSize limits n p.state = .ok ()) :
    (encode p).decodeAndValidate p.execution.spec limits =
      if limits.maxActiveEncodedBytes < n then
        .error (.encodedCheckpointLimitExceeded n limits.maxActiveEncodedBytes)
      else .ok p := by
  have hversion : (encode p).formatVersion = checkpointFormatVersion := rfl
  have hread := validate_self hvalid
  simp only [decodeAndValidate, validateActiveEncodedSize, validateLifecycleEncodedSize,
    payload_encode, hn, hversion, ne_eq, not_true_eq_false, rejectIf, if_false, bind, Except.bind,
    demand]
  split_ifs with hactive
  · rfl
  · simp [hsize, hread, pure, Except.pure]

end CheckpointEnvelope

open CheckpointEnvelope

variable {p : CheckpointPayload}

theorem decodeAndValidate_iff_size {limits : CheckpointLimits} {e : CheckpointEnvelope}
    (h : encodeWithLimits p limits = .ok e) :
    (e.decodeAndValidate p.execution.spec limits = .ok p ↔
      ∃ n, e.encodedLen = .ok n ∧ n ≤ limits.maxActiveEncodedBytes) ∧
    ((p.activeActivities ≠ none ∨ limits.maxTerminalEncodedBytes ≤ limits.maxActiveEncodedBytes) →
      e.decodeAndValidate p.execution.spec limits = .ok p) := by
  obtain ⟨rfl, hvalid, n, hn, hsize⟩ := encodeWithLimits_eq_ok.1 h
  have hiff : (encode p).decodeAndValidate p.execution.spec limits = .ok p ↔
      n ≤ limits.maxActiveEncodedBytes := by
    rw [decodeAndValidate_encode hvalid hn hsize]
    split_ifs with hactive <;> simp <;> omega
  refine ⟨hiff.trans ⟨fun hle => ⟨n, hn, hle⟩, ?_⟩, fun hcase => hiff.2 ?_⟩
  · rintro ⟨m, hm, hle⟩
    rw [hn] at hm
    cases hm
    exact hle
  · -- An active checkpoint was checked against the active limit when it was encoded.
    cases hstate : p.state with
    | active activities =>
      rw [hstate] at hsize
      simpa [checkLifecycleSize] using hsize
    | terminal outcome count metadata =>
      rw [hstate] at hsize
      simp only [checkLifecycleSize, rejectIf_eq_ok, not_lt] at hsize
      have hterminal : p.activeActivities = none := by
        simp [CheckpointPayload.activeActivities, hstate]
      exact hsize.trans (hcase.resolve_left fun hne => hne hterminal)

/-! ## Lengths of given checkpoints -/

theorem fromCounts_max : effectContract (CompletionMetadata.fromCounts u64Max u64Max 0) =
    .ok ⟨u64Max, u64Max, 0⟩ := rfl

theorem fromCounts_split : effectContract (CompletionMetadata.fromCounts u64Max (10 ^ 19)
    (u64Max - 10 ^ 19)) = .ok ⟨u64Max, 10 ^ 19, u64Max - 10 ^ 19⟩ := rfl

/-- The largest of projected lengths. -/
def largestProjected (payloadLen : Nat) (lengths : List Nat) : Except CheckpointError Nat :=
  lengths.foldlM (fun largest length => do
    return max largest (← projectedEncodedLen length payloadLen)) 0

theorem maximumTerminalEncodedLen_eq {lengths : List Nat} {payloadLen : Nat}
    (hpayload : base64Len p.execution.spec.maxTerminalPayloadBytes = some payloadLen)
    (hlengths : (CheckpointPayload.terminalCandidates p.execution ⟨u64Max, u64Max, 0⟩
      ⟨u64Max, 10 ^ 19, u64Max - 10 ^ 19⟩).map CheckpointPayload.innerLen = lengths) :
    p.maximumTerminalEncodedLen = largestProjected payloadLen lengths := by
  rw [CheckpointPayload.maximumTerminalEncodedLen, hpayload, fromCounts_max, fromCounts_split,
    largestProjected, ← hlengths, List.foldlM_map]
  rfl

theorem encodedLen_encode {n : Nat} (hn : p.innerLen = n) :
    (encode p).encodedLen = (orOverflow (base64Len n)).bind fun payloadLen =>
      orOverflow (checkedAdd (toJson ⟨checkpointFormatVersion, []⟩).toVec.length payloadLen) := by
  rw [← hn]
  rfl

theorem validateInternal_of_state {limits : CheckpointLimits} {n : Nat}
    (hmax : p.maximumTerminalEncodedLen = .ok n) (hn : n ≤ p.execution.admittedTerminal)
    (hterminal : limits.maxTerminalEncodedBytes = p.execution.admittedTerminal)
    (hactive : limits.maxActiveEncodedBytes = p.execution.admittedMaxEncodedCheckpointBytes)
    (hstate : validateState p limits = .ok ()) : p.validateInternal limits = .ok () := by
  simp only [CheckpointPayload.validateInternal, hmax, bind, Except.bind]
  simp [rejectIf, hterminal, hactive, hstate, Nat.not_lt.2 hn]

theorem encodedLen_of_innerLen {inner outer : Nat} (hinner : p.innerLen = inner)
    (houter : ((orOverflow (base64Len inner)).bind fun payloadLen =>
      orOverflow (checkedAdd 33 payloadLen)) = .ok outer) : (encode p).encodedLen = .ok outer := by
  have hfixed : (toJson ⟨checkpointFormatVersion, []⟩).toVec.length = 33 := by
    rw [Json.length_toVec]
    decide +kernel
  rw [encodedLen_encode hinner, hfixed, houter]

theorem stored_of_encodedLen {limits : CheckpointLimits} {records : List ActivityRecord} {n : Nat}
    (hstate : p.state = .active records) (hvalid : p.validateInternal limits = .ok ())
    (hn : (encode p).encodedLen = .ok n) (hle : n ≤ limits.maxActiveEncodedBytes) :
    encodeWithLimits p limits = .ok (encode p) ∧
      (encode p).decodeAndValidate p.execution.spec limits = .ok p := by
  have hsize : checkLifecycleSize limits n p.state = .ok () := by
    rw [hstate]
    exact Check.rejectIf_eq_ok.2 (Nat.not_lt.2 hle)
  refine ⟨encodeWithLimits_eq_ok.2 ⟨rfl, hvalid, n, hn, hsize⟩, ?_⟩
  have hdecode := decodeAndValidate_encode hvalid hn hsize
  rwa [if_neg (Nat.not_lt.2 hle)] at hdecode

/-! ## A terminal checkpoint above the active limit -/

namespace LargeOutcome

def limits : CheckpointLimits := ⟨1, 450, 1200, by decide, by decide, by decide⟩

def execution : ExecutionContract :=
  ⟨⟨⟨List.replicate 16 0, by decide⟩, [], 100⟩, 450, some 1200⟩

def initial : CheckpointPayload := .active execution []

def terminal : CheckpointPayload := .terminal execution (.succeeded (List.replicate 100 0)) 0

theorem maximumTerminalEncodedLen_execution (h : p.execution = execution) :
    p.maximumTerminalEncodedLen = .ok 905 := by
  have hlengths : (CheckpointPayload.terminalCandidates execution ⟨u64Max, u64Max, 0⟩
      ⟨u64Max, 10 ^ 19, u64Max - 10 ^ 19⟩).map CheckpointPayload.innerLen =
        [351, 348, 498, 495, 516, 513] := by
    unfold CheckpointPayload.innerLen
    simp only [Json.length_toVec]
    decide +kernel
  have hpayload : base64Len p.execution.spec.maxTerminalPayloadBytes = some 136 := by
    rw [h]
    decide
  rw [← h] at hlengths
  rw [maximumTerminalEncodedLen_eq hpayload hlengths]
  decide +kernel

theorem innerLen_initial : initial.innerLen = 271 := by
  rw [CheckpointPayload.innerLen, Json.length_toVec]
  decide +kernel

theorem innerLen_terminal : terminal.innerLen = 468 := by
  rw [CheckpointPayload.innerLen, Json.length_toVec]
  decide +kernel

theorem encodedLen_initial : (CheckpointEnvelope.encode initial).encodedLen = .ok 397 := by
  rw [encodedLen_encode innerLen_initial]
  decide +kernel

theorem encodedLen_terminal : (CheckpointEnvelope.encode terminal).encodedLen = .ok 657 := by
  rw [encodedLen_encode innerLen_terminal]
  decide +kernel

theorem validateInternal_initial : initial.validateInternal limits = .ok () :=
  validateInternal_of_state (maximumTerminalEncodedLen_execution rfl) (by decide) rfl rfl rfl

theorem validateInternal_terminal : terminal.validateInternal limits = .ok () :=
  validateInternal_of_state (maximumTerminalEncodedLen_execution rfl) (by decide) rfl rfl rfl

theorem encode_initial :
    encodeWithLimits initial limits = .ok (CheckpointEnvelope.encode initial) :=
  encodeWithLimits_eq_ok.2 ⟨rfl, validateInternal_initial, 397, encodedLen_initial, rfl⟩

/-- The initial checkpoint becomes a terminal one that is written and is refused when it is read. -/
theorem terminal_unreadable :
    initial.intoTerminal (.succeeded (List.replicate 100 0)) 0 = .ok terminal ∧
      encodeWithLimits terminal limits = .ok (CheckpointEnvelope.encode terminal) ∧
      (CheckpointEnvelope.encode terminal).decodeAndValidate execution.spec limits =
        .error (.encodedCheckpointLimitExceeded 657 450) := by
  refine ⟨by decide +kernel, ?_, ?_⟩
  · exact encodeWithLimits_eq_ok.2 ⟨rfl, validateInternal_terminal, 657, encodedLen_terminal, rfl⟩
  · exact decodeAndValidate_encode validateInternal_terminal encodedLen_terminal rfl

theorem decodeAndValidate_iff_size_initial :
    (CheckpointEnvelope.encode initial).decodeAndValidate execution.spec limits = .ok initial :=
  (decodeAndValidate_iff_size encode_initial).2 (Or.inl (by decide))

end LargeOutcome

end Kuberic.Dex
