import Kuberic.Dex.Reservation

/-!
# Room for the terminal checkpoint

An execution is admitted only if its largest terminal checkpoint fits.  The size is measured on
terminal payloads with an empty outcome, counts of twenty digits and, for classified histories, a
split of the count with as many digits as there can be: two numbers whose sum is a `u64` are not
both of twenty digits.  Every terminal payload of the execution is at most as large as one of them
and its outcome.
-/

namespace Kuberic.Dex

open Check Json Serde Serde.Codec CheckpointEnvelope

/-! ## Sizes of terminal payloads -/

/-- The number of digits of a count. -/
def digits (n : Nat) : Nat := (Nat.toDigits 10 n).length

theorem size_nat (n : Nat) : (nat.encode n).size = digits n := by
  have hsize := size_num n
  rwa [if_neg (by omega), Nat.zero_add, Int.natAbs_natCast] at hsize

theorem digits_le {n k : Nat} (hk : 0 < k) (h : n < 10 ^ k) : digits n ≤ k :=
  (Nat.length_toDigits_le_iff (by decide) hk).2 h

/-- A summary of a `u64` number of activities. -/
structure CompletionMetadata.Sums (m : CompletionMetadata) : Prop where
  sum : m.externalEffectCount + m.passiveObservationCount = m.completedActivityCount
  word : m.completedActivityCount ≤ u64Max

def CompletionMetadata.digits (m : CompletionMetadata) : Nat :=
  Dex.digits m.completedActivityCount + Dex.digits m.externalEffectCount +
    Dex.digits m.passiveObservationCount

variable {m : CompletionMetadata}

theorem CompletionMetadata.Sums.digits_le (h : m.Sums) : m.digits ≤ 59 := by
  have hword := h.word
  have hsum := h.sum
  rw [u64Max] at hword
  have htwenty : ∀ n, n ≤ 2 ^ 64 - 1 → Dex.digits n ≤ 20 := fun n hn =>
    Dex.digits_le (by decide) (by omega)
  have hcompleted := htwenty _ hword
  have hexternal := htwenty m.externalEffectCount (by omega)
  have hpassive := htwenty m.passiveObservationCount (by omega)
  unfold digits
  rcases Nat.lt_or_ge m.externalEffectCount (10 ^ 19) with hlt | hge
  · have hshort : Dex.digits m.externalEffectCount ≤ 19 := Dex.digits_le (by decide) hlt
    omega
  · have hshort : Dex.digits m.passiveObservationCount ≤ 19 :=
      Dex.digits_le (by decide) (by omega)
    omega

theorem CompletionMetadata.size_encode (m : CompletionMetadata) :
    (Codec.completionMetadata.encode m).size = m.digits + 83 := by
  have hnames : utf8Length (stringTail "completed_activity_count".toList) = 25 ∧
      utf8Length (stringTail "external_effect_count".toList) = 22 ∧
      utf8Length (stringTail "passive_observation_count".toList) = 26 := by decide +kernel
  simp only [Codec.completionMetadata]
  rw [size_obj (by simp)]
  simp only [List.map_cons, List.map_nil, List.sum_cons, List.sum_nil, fieldSize, hnames, size_nat,
    digits]
  omega

/-- The outcome of the same kind without a payload. -/
def TerminalOutcome.emptied : TerminalOutcome → TerminalOutcome
  | .succeeded _ => .succeeded []
  | .failed _ => .failed []

theorem TerminalOutcome.size_encode (o : TerminalOutcome) :
    (Codec.terminalOutcome.encode o).size =
      (Codec.terminalOutcome.encode o.emptied).size + 4 * ((o.payload.length + 2) / 3) := by
  cases o <;> simp only [Codec.terminalOutcome, emptied, payload] <;>
    rw [size_obj (by simp), size_obj (by simp)] <;>
    simp only [List.map_cons, List.map_nil, List.sum_cons, List.sum_nil, fieldSize, size_base64,
      List.length_nil] <;> omega

def metadataSize (metadata : Option CompletionMetadata) : Nat :=
  fieldsSize (Fields.ofOption Codec.completionMetadata "completion_metadata" metadata)

theorem metadataSize_some (m : CompletionMetadata) : metadataSize (some m) = m.digits + 106 := by
  have hname : utf8Length (stringTail "completion_metadata".toList) = 20 := by decide +kernel
  rw [metadataSize, Fields.ofOption, Option.map_some, Option.toList_some, fieldsSize_singleton,
    fieldSize, hname, m.size_encode]
  omega

theorem size_terminalState (o : TerminalOutcome) (count : Nat) (metadata : Option CompletionMetadata) :
    (Codec.checkpointState.encode (.terminal o count metadata)).size =
      fieldSize ("lifecycle", .str "terminal") + fieldSize ("outcome", Codec.terminalOutcome.encode o) +
        fieldSize ("completed_activity_count", nat.encode count) + metadataSize metadata + 1 := by
  simp only [Codec.checkpointState]
  rw [size_obj (by simp)]
  change fieldsSize _ + 1 = _
  rw [fieldsSize_append, ← metadataSize]
  simp only [fieldsSize, List.map_cons, List.map_nil, List.sum_cons, List.sum_nil]
  omega

theorem innerLen_terminal (execution : ExecutionContract) : ∃ fixed, ∀ o count metadata,
    (CheckpointPayload.mk execution (.terminal o count metadata)).innerLen =
      fixed + (Codec.terminalOutcome.encode o).size + digits count + metadataSize metadata := by
  refine ⟨fieldSize ("execution", Codec.executionContract.encode execution) +
    utf8Length (stringTail "state".toList) + fieldSize ("lifecycle", .str "terminal") +
    utf8Length (stringTail "outcome".toList) +
    utf8Length (stringTail "completed_activity_count".toList) + 11, fun o count metadata => ?_⟩
  have hstate := size_terminalState o count metadata
  have houtcome : fieldSize ("outcome", Codec.terminalOutcome.encode o) =
      utf8Length (stringTail "outcome".toList) + (Codec.terminalOutcome.encode o).size + 3 := rfl
  have hcount : fieldSize ("completed_activity_count", nat.encode count) =
      utf8Length (stringTail "completed_activity_count".toList) + (nat.encode count).size + 3 := rfl
  have hfield : fieldSize ("state", Codec.checkpointState.encode (.terminal o count metadata)) =
      utf8Length (stringTail "state".toList) +
        (Codec.checkpointState.encode (.terminal o count metadata)).size + 3 := rfl
  rw [size_nat] at hcount
  rw [CheckpointPayload.innerLen_eq]
  simp only [Codec.checkpointPayload]
  rw [size_obj (by simp)]
  simp only [List.map_cons, List.map_nil, List.sum_cons, List.sum_nil]
  omega

/-! ## What is reserved -/

theorem projected_le_of_largestProjected {payloadLen n : Nat} {lengths : List Nat}
    (h : largestProjected payloadLen lengths = .ok n) {length : Nat} (hmem : length ∈ lengths) :
    ∃ m, projectedEncodedLen length payloadLen = .ok m ∧ m ≤ n := by
  -- The fold only grows, from any value that it starts with.
  have hfold : ∀ (lengths : List Nat) (start n : Nat), lengths.foldlM (fun largest length => do
      return max largest (← projectedEncodedLen length payloadLen)) start = .ok n →
      start ≤ n ∧ ∀ length ∈ lengths, ∃ m, projectedEncodedLen length payloadLen = .ok m ∧ m ≤ n := by
    intro lengths
    induction lengths with
    | nil =>
      intro start n hn
      cases hn
      exact ⟨le_rfl, fun _ hmem => absurd hmem List.not_mem_nil⟩
    | cons length lengths ih =>
      intro start n hn
      simp only [List.foldlM_cons, bind_eq_ok, pure, Except.pure, Except.ok.injEq] at hn
      obtain ⟨largest, ⟨m, hm, rfl⟩, hrest⟩ := hn
      obtain ⟨hle, hall⟩ := ih _ _ hrest
      refine ⟨(le_max_left _ _).trans hle, fun length' hmem => ?_⟩
      rcases List.mem_cons.1 hmem with rfl | hmem
      · exact ⟨m, hm, (le_max_right _ _).trans hle⟩
      · exact hall length' hmem
  exact (hfold lengths 0 n h).2 length hmem

theorem checkedAdd_eq_some {a b c : Nat} :
    checkedAdd a b = some c ↔ a + b ≤ u64Max ∧ a + b = c := by
  simp [checkedAdd]

variable {p : CheckpointPayload}

theorem encodedLen_le_projected {inner content m : Nat} (hinner : p.innerLen ≤ inner + content)
    (hm : projectedEncodedLen inner content = .ok m) :
    ∃ n, (encode p).encodedLen = .ok n ∧ n ≤ m := by
  simp only [projectedEncodedLen, encodedLen, bind_eq_ok, orOverflow_eq_ok] at hm
  obtain ⟨projected, hprojected, length, hlength, empty, ⟨none', hnone, hempty⟩, hm⟩ := hm
  obtain rfl : none' = 0 := (Option.some.inj hnone).symm
  simp only [checkedAdd_eq_some, Nat.add_zero] at hprojected hempty hm
  obtain ⟨-, rfl⟩ := hprojected
  obtain ⟨-, rfl⟩ := hempty
  obtain ⟨hword, rfl⟩ := hm
  obtain ⟨length', hlength', hle⟩ := base64Len_mono hinner hlength
  refine ⟨(toJson ⟨checkpointFormatVersion, []⟩).toVec.length + length', ?_, by omega⟩
  rw [encodedLen_encode rfl]
  refine Check.bind_eq_ok.2 ⟨length', orOverflow_eq_ok.2 hlength', ?_⟩
  rw [orOverflow_eq_ok, checkedAdd_eq_some]
  exact ⟨by omega, rfl⟩

theorem CompletionMetadata.fromCounts_eq_ok {completed external passive : Nat}
    (h : fromCounts completed external passive = .ok m) :
    m = ⟨completed, external, passive⟩ ∧ m.Sums := by
  unfold fromCounts at h
  cases hadd : checkedAdd external passive with
  | none => simp [hadd] at h
  | some classified =>
    obtain ⟨hword, rfl⟩ := checkedAdd_eq_some.1 hadd
    simp only [hadd] at h
    split_ifs at h with hne
    obtain rfl := not_not.1 hne
    cases h
    exact ⟨rfl, rfl, hword⟩

theorem CompletionMetadata.sums_of_fromClasses {classes : List CompletionClass}
    (h : fromClasses classes = .ok m) : m.Sums := by
  obtain ⟨counts, -, hcounts⟩ := bind_eq_ok.1 h
  exact (fromCounts_eq_ok hcounts).2

theorem innerLen_le_candidate {execution : ExecutionContract} (outcome : TerminalOutcome)
    {count : Nat} {metadata : Option CompletionMetadata} (hcount : count ≤ u64Max)
    (hmetadata : ∀ m ∈ metadata, m.Sums) :
    ∃ candidate ∈ CheckpointPayload.terminalCandidates execution ⟨u64Max, u64Max, 0⟩
      ⟨u64Max, 10 ^ 19, u64Max - 10 ^ 19⟩,
      (CheckpointPayload.mk execution (.terminal outcome count metadata)).innerLen ≤
        candidate.innerLen + 4 * ((outcome.payload.length + 2) / 3) := by
  obtain ⟨fixed, hfixed⟩ := innerLen_terminal execution
  have hdigits : digits u64Max = 20 := by decide
  have hshort : digits count ≤ digits u64Max := by
    rw [hdigits]
    exact digits_le (by decide) (by rw [u64Max] at hcount; omega)
  have houtcome := outcome.size_encode
  cases metadata with
  | none =>
    refine ⟨.terminal execution outcome.emptied u64Max, ?_, ?_⟩
    · cases outcome <;> simp [CheckpointPayload.terminalCandidates, TerminalOutcome.emptied]
    · rw [CheckpointPayload.terminal, hfixed, hfixed]
      omega
  | some m =>
    have hsplit : (CompletionMetadata.mk u64Max (10 ^ 19) (u64Max - 10 ^ 19)).digits = 59 := by
      decide
    have hm := (hmetadata m rfl).digits_le
    refine ⟨.terminalWithMetadata execution outcome.emptied ⟨u64Max, 10 ^ 19, u64Max - 10 ^ 19⟩,
      ?_, ?_⟩
    · cases outcome <;> simp [CheckpointPayload.terminalCandidates, TerminalOutcome.emptied]
    · change _ ≤ (CheckpointPayload.mk execution (.terminal outcome.emptied u64Max
        (some ⟨u64Max, 10 ^ 19, u64Max - 10 ^ 19⟩))).innerLen + _
      rw [hfixed, hfixed, metadataSize_some, metadataSize_some]
      omega

theorem maximumTerminalEncodedLen_congr {q : CheckpointPayload} (h : q.execution = p.execution) :
    q.maximumTerminalEncodedLen = p.maximumTerminalEncodedLen := by
  rw [CheckpointPayload.maximumTerminalEncodedLen, CheckpointPayload.maximumTerminalEncodedLen, h]

theorem maximumTerminalEncodedLen_eq_ok {reserved : Nat}
    (h : p.maximumTerminalEncodedLen = .ok reserved) :
    largestProjected (4 * ((p.execution.spec.maxTerminalPayloadBytes + 2) / 3))
      ((CheckpointPayload.terminalCandidates p.execution ⟨u64Max, u64Max, 0⟩
        ⟨u64Max, 10 ^ 19, u64Max - 10 ^ 19⟩).map CheckpointPayload.innerLen) = .ok reserved := by
  cases hpayload : base64Len p.execution.spec.maxTerminalPayloadBytes with
  | none => simp [CheckpointPayload.maximumTerminalEncodedLen, hpayload, orOverflow, bind, Except.bind] at h
  | some payloadLen =>
    have hlength : 4 * ((p.execution.spec.maxTerminalPayloadBytes + 2) / 3) = payloadLen := by
      simp only [base64Len, Option.ite_none_right_eq_some, Option.some.injEq] at hpayload
      exact hpayload.2
    rw [hlength, ← maximumTerminalEncodedLen_eq hpayload rfl, h]

theorem capacities_of_validateInternal {limits : CheckpointLimits} {reserved : Nat}
    (hreserved : p.maximumTerminalEncodedLen = .ok reserved)
    (h : p.validateInternal limits = .ok ()) :
    reserved ≤ p.execution.admittedTerminal ∧
      limits.maxTerminalEncodedBytes = p.execution.admittedTerminal ∧
      limits.maxActiveEncodedBytes = p.execution.admittedMaxEncodedCheckpointBytes := by
  obtain ⟨required, hrequired, h⟩ := bind_eq_ok.1 h
  obtain rfl : reserved = required := Except.ok.inj (hreserved.symm.trans hrequired)
  simp only [seq_eq_ok, rejectIf_eq_ok, not_not, not_lt] at h
  obtain ⟨hadmitted, hterminal, hbelow, habove, -⟩ := h
  exact ⟨hadmitted, hterminal, le_antisymm habove hbelow⟩

theorem CompletionMetadata.Sums.fromCounts (h : m.Sums) :
    CompletionMetadata.fromCounts m.completedActivityCount m.externalEffectCount
      m.passiveObservationCount = .ok m := by
  have hadd : checkedAdd m.externalEffectCount m.passiveObservationCount =
      some m.completedActivityCount := checkedAdd_eq_some.2 ⟨h.sum ▸ h.word, h.sum⟩
  simp [CompletionMetadata.fromCounts, hadd]

theorem validateState_terminal {execution : ExecutionContract} {outcome : TerminalOutcome}
    {count : Nat} {metadata : Option CompletionMetadata} {limits : CheckpointLimits}
    (houtcome : outcome.payload.length ≤ execution.spec.maxTerminalPayloadBytes)
    (hmetadata : ∀ m ∈ metadata, m.Sums ∧ m.completedActivityCount = count) :
    validateState ⟨execution, .terminal outcome count metadata⟩ limits = .ok () := by
  refine seq_eq_ok.2 ⟨if_neg (Nat.not_lt.2 houtcome), onSome_eq_ok.2 fun m hm => ?_⟩
  obtain ⟨hsums, rfl⟩ := hmetadata m hm
  simp only [validateCompletionMetadata, hsums.fromCounts, effectContract, rejectIf, ne_eq,
    not_true_eq_false, if_false]
  rfl

/-- The reserved terminal space covers every terminal payload of the execution, and with it an
execution that passed the reservation check stores its terminal checkpoint. -/
theorem terminal_within_reserved {q t : CheckpointPayload} {outcome : TerminalOutcome}
    {count reserved : Nat} (hreserved : p.maximumTerminalEncodedLen = .ok reserved)
    (hexecution : q.execution = p.execution) (hcount : count ≤ u64Max)
    (hterminal : q.intoTerminal outcome count = .ok t) :
    (∃ n, (encode t).encodedLen = .ok n ∧ n ≤ reserved) ∧
      ∀ limits, p.validateInternal limits = .ok () → encodeWithLimits t limits = .ok (encode t) := by
  obtain ⟨houtcome, metadata, rfl, hretained⟩ := intoTerminal_eq_ok hterminal
  have hmetadata : ∀ m ∈ metadata, m.Sums ∧ m.completedActivityCount = count := by
    intro m hm
    obtain ⟨hcount', classes, hclasses⟩ := hretained m hm
    exact ⟨CompletionMetadata.sums_of_fromClasses hclasses, hcount'⟩
  rw [hexecution] at houtcome ⊢
  have hfits : ∃ n, (encode ⟨p.execution, .terminal outcome count metadata⟩).encodedLen = .ok n ∧
      n ≤ reserved := by
    obtain ⟨candidate, hcandidate, hinner⟩ :=
      innerLen_le_candidate outcome hcount fun m hm => (hmetadata m hm).1
    obtain ⟨projected, hprojected, hle⟩ := projected_le_of_largestProjected
      (maximumTerminalEncodedLen_eq_ok hreserved) (List.mem_map_of_mem hcandidate)
    obtain ⟨n, hn, hn'⟩ := encodedLen_le_projected (hinner.trans (by omega)) hprojected
    exact ⟨n, hn, hn'.trans hle⟩
  refine ⟨hfits, fun limits hvalid => ?_⟩
  obtain ⟨n, hn, hle⟩ := hfits
  obtain ⟨hadmitted, hterminal, hactive⟩ := capacities_of_validateInternal hreserved hvalid
  have hreserved' : (CheckpointPayload.mk p.execution
      (.terminal outcome count metadata)).maximumTerminalEncodedLen = .ok reserved := by
    rw [← hreserved]
    exact maximumTerminalEncodedLen_congr rfl
  have hvalid' := validateInternal_of_state hreserved' hadmitted hterminal hactive
    (validateState_terminal houtcome hmetadata)
  have hsize : checkLifecycleSize limits n (.terminal outcome count metadata) = .ok () :=
    rejectIf_eq_ok.2 (by omega)
  exact encodeWithLimits_eq_ok.2 ⟨rfl, hvalid', n, hn, hsize⟩

theorem terminal_within_reserved_largest :
    LargeOutcome.initial.maximumTerminalEncodedLen = .ok 905 ∧
      ∃ t, LargeOutcome.initial.intoTerminal (.succeeded (List.replicate 100 0)) 0 = .ok t ∧
        encodeWithLimits t LargeOutcome.limits = .ok (encode t) := by
  have hreserved : LargeOutcome.initial.maximumTerminalEncodedLen = .ok 905 :=
    LargeOutcome.maximumTerminalEncodedLen_execution rfl
  have hterminal : LargeOutcome.initial.intoTerminal (.succeeded (List.replicate 100 0)) 0 =
      .ok LargeOutcome.terminal := by decide +kernel
  exact ⟨hreserved, _, hterminal,
    (terminal_within_reserved hreserved rfl (by decide) hterminal).2 _
      LargeOutcome.validateInternal_initial⟩

end Kuberic.Dex
