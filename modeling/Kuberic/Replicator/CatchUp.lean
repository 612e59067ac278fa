import Kuberic.Protocol.Growth
import Kuberic.Replicator.TrackerRun

/-!
# Catch-up of a configuration change

A configuration change is caught up when a write quorum of the current configuration has reached the
boundary that the tracker derived when the authority was installed.  The boundary is kept apart from
the authority: a data-loss reset drops it and keeps the authority, so that from then on catch-up is
reported complete whatever the peers hold.
-/

namespace Kuberic

/-! ## The progress of a write quorum -/

/-- In a descending list, the element at `k` is at least `x` exactly when more than `k` elements
are. -/
theorem le_getElem_iff_of_descending {α : Type*} [LinearOrder α] {l : List α}
    (hl : l.Pairwise (· ≥ ·)) (x : α) {k : Nat} (hk : k < l.length) :
    x ≤ l[k] ↔ k < (l.filter fun y => x ≤ y).length := by
  induction l generalizing k with
  | nil => cases hk
  | cons y l ih =>
    obtain ⟨hhead, htail⟩ := List.pairwise_cons.1 hl
    by_cases hx : x ≤ y
    · rw [List.filter_cons_of_pos (by simpa using hx), List.length_cons]
      cases k with
      | zero => simp [hx]
      | succ k =>
        rw [List.getElem_cons_succ, ih htail (Nat.lt_of_succ_lt_succ hk), Nat.succ_lt_succ_iff]
    · -- Everything is at most the head, which is below `x`.
      have hbelow : ∀ z ∈ y :: l, ¬x ≤ z := by
        intro z hz hxz
        rcases List.mem_cons.1 hz with rfl | hz
        · exact hx hxz
        · exact hx (hxz.trans (hhead z hz))
      have hfilter : (y :: l).filter (fun z => x ≤ z) = [] := by
        rw [List.filter_eq_nil_iff]
        simpa using hbelow
      simp [hfilter, hbelow _ (List.getElem_mem hk)]

variable {c : ConfigurationDescriptor}

theorem le_quorumProgress_iff (progress : AssocMap ReplicaIdentity Int) (hpos : 1 ≤ c.writeQuorum)
    (hc : c.writeQuorum ≤ c.members.length) (lsn : Int) :
    lsn ≤ quorumProgress c progress ↔
      c.writeQuorum ≤ (c.holders (progressOf progress) lsn).length := by
  have hperm := List.perm_insertionSort (· ≥ ·) (c.members.map fun m => progressOf progress m.identity)
  have hk : c.writeQuorum - 1 <
      ((c.members.map fun m => progressOf progress m.identity).insertionSort (· ≥ ·)).length := by
    rw [hperm.length_eq, List.length_map]
    omega
  rw [quorumProgress, List.getD_eq_getElem?_getD, List.getElem?_eq_getElem hk, Option.getD_some,
    le_getElem_iff_of_descending (List.pairwise_insertionSort (· ≥ ·) _) lsn hk,
    (hperm.filter _).length_eq, List.filter_map, List.length_map, ConfigurationDescriptor.holders]
  simp only [Function.comp_def]
  omega

/-- A write quorum of members holds the quorum progress. -/
theorem writeQuorum_le_holders_quorumProgress (progress : AssocMap ReplicaIdentity Int)
    (hc : c.writeQuorum ≤ c.members.length) :
    c.writeQuorum ≤ (c.holders (progressOf progress) (quorumProgress c progress)).length := by
  rcases Nat.eq_zero_or_pos c.writeQuorum with hzero | hpos
  · omega
  · exact (le_quorumProgress_iff progress hpos hc _).1 le_rfl

/-! ## What a validated authority says -/

section

variable [Sha256]

theorem writeQuorum_le_of_policy {p : EffectivePolicy} (hp : validatePolicy p = .ok ())
    (hc : validateConfiguration c (some p) = .ok ()) : c.writeQuorum ≤ c.members.length := by
  obtain ⟨hpos, hwrite, -⟩ := validatePolicy_eq_ok.1 hp
  obtain ⟨-, hlength, hquorum⟩ := validateConfiguration_some_eq_ok.1 hc
  omega

theorem writeQuorum_le_of_configuration (hc : validateConfiguration c none = .ok ()) :
    c.writeQuorum ≤ c.members.length := by
  obtain ⟨hvalid, hpolicy⟩ := validateConfiguration_eq_ok.1 hc
  have hpos := List.length_pos_of_ne_nil hvalid.members_ne_nil
  simp only [Option.none_or, EffectivePolicy.fixed, Nat.ne_of_gt hpos, if_false] at hpolicy
  have hquorum := (hpolicy _ rfl).2
  simp only at hquorum
  omega

variable {identity : ReplicaIdentity}

namespace AdmittedAuthority

variable {a : AdmittedAuthority}

theorem removal_of_validated {e : SecondaryRemovalEvidence} (h : a.validate = .ok ())
    (he : a.secondaryRemoval = some e) : ValidRemoval e.preparation.intent := by
  simp only [validate, he, validateRemoval, Check.seq_eq_ok, mismatch_eq_ok] at h
  exact .of_validate (scaleDown_of_evidence h.1)

theorem writeQuorum_le (h : a.validate = .ok ()) :
    a.currentConfiguration.writeQuorum ≤ a.currentConfiguration.members.length := by
  rcases he : a.secondaryRemoval with _ | e
  · rcases hs : a.scaleUp with _ | s
    · simp only [validate, he, hs, validateOrdinary, Check.seq_eq_ok, mismatch_eq_ok] at h
      exact writeQuorum_le_of_configuration h.1
    · simp only [validate, he, hs] at h
      cases s with
      | admission i =>
        simp only [validateIncrease, Check.seq_eq_ok, mismatch_eq_ok, Check.rejectIf_eq_ok, not_or,
          not_not] at h
        obtain ⟨hintent, -, ⟨hcurrent, -⟩, -⟩ := h
        have hi := ValidIncrease.of_validate hintent
        rw [hcurrent]
        exact writeQuorum_le_of_policy hi.currentPolicy hi.current
      | failover e =>
        simp only [validateIncrease, Check.seq_eq_ok, mismatch_eq_ok] at h
        obtain ⟨-, -, -, htransition, -⟩ := h
        simp only [validateScaleUpFailoverTransition, validateFailoverConfiguration,
          Check.seq_eq_ok] at htransition
        obtain ⟨-, ⟨hpolicy, hcurrent, -⟩, -⟩ := htransition
        exact writeQuorum_le_of_policy hpolicy hcurrent
  · have hi := removal_of_validated h he
    rw [(removal_of_validate h he).1]
    exact writeQuorum_le_of_policy hi.currentPolicy hi.current

theorem hasPrimary_of_removal {e : SecondaryRemovalEvidence} {p : ConfigurationDescriptor}
    (h : a.validate = .ok ()) (he : a.secondaryRemoval = some e)
    (hp : a.previousConfiguration = some p) (hprimary : a.primaryIdentity = some identity) :
    p.HasPrimary identity := by
  have hi := removal_of_validated h he
  obtain ⟨hcurrent, hprevious⟩ := removal_of_validate h he
  obtain ⟨m, hm, rfl⟩ := Option.map_eq_some_iff.1 hprimary
  have hmem := List.mem_of_find?_eq_some hm
  have hrole := List.find?_some hm
  simp only [Bool.and_eq_true, beq_iff_eq] at hrole
  replace hmem : m ∈ a.currentConfiguration.members := hmem
  rw [hcurrent] at hmem
  rw [hprevious p hp]
  have hold := (hi.members_perm.mem_iff.1 hmem)
  exact ⟨m, (List.mem_filter.1 hold).1, rfl, hrole.2⟩

end AdmittedAuthority

namespace QuorumTracker

/-! ## Histories -/

/-- A run of the tracker with the boundary that its authority had to catch up to when it was
installed, and whether the progress has been reset since. -/
structure History where
  tracker : QuorumTracker
  boundary : Option Int
  lost : Bool

namespace History

def step (h : History) (op : TrackerOp) : History :=
  let tracker := h.tracker.apply op
  match op with
  | .configurePrevalidated a localProgress =>
    if h.tracker.authority = some a then { h with tracker }
    else ⟨tracker, boundaryOf a (max h.tracker.highestLsn localProgress), false⟩
  | .resetProgressAfterDataLoss _ _ _ => { h with tracker, lost := true }
  | _ => { h with tracker }

def run (ops : List TrackerOp) : History := ops.foldl step ⟨empty, none, false⟩

theorem step_tracker (h : History) (op : TrackerOp) : (h.step op).tracker = h.tracker.apply op := by
  cases op with
  | configurePrevalidated a localProgress =>
    simp only [step]
    split_ifs <;> rfl
  | _ => rfl

theorem run_tracker (ops : List TrackerOp) : (run ops).tracker = QuorumTracker.run ops := by
  induction ops using List.reverseRecOn with
  | nil => rfl
  | append_singleton ops op ih =>
    rw [run_append_singleton, ← ih, run, List.foldl_append]
    exact step_tracker _ op

/-- The tracker has the boundary and the required replicas of its authority, until a reset. -/
structure Tracks (h : History) : Prop where
  validated : ∀ a, h.tracker.authority = some a → a.Validated
  boundary : ∀ a, h.tracker.authority = some a → ∃ highestLsn, h.boundary = boundaryOf a highestLsn
  kept : ∀ a, h.tracker.authority = some a → h.lost = false →
    h.tracker.catchUpBoundary = h.boundary ∧ h.tracker.mustCatchUp = deriveMustCatchUp a

end History

/-- Only a configuration or a reset touches the authority and its boundary. -/
theorem apply_frame {t : QuorumTracker} {op : TrackerOp}
    (hconfigure : ∀ a localProgress, op ≠ .configurePrevalidated a localProgress)
    (hreset : ∀ localIdentity currentProgress committedLsn,
      op ≠ .resetProgressAfterDataLoss localIdentity currentProgress committedLsn) :
    (t.apply op).authority = t.authority ∧ (t.apply op).catchUpBoundary = t.catchUpBoundary ∧
      (t.apply op).mustCatchUp = t.mustCatchUp := by
  refine apply_rule (P := fun t' => t'.authority = t.authority ∧
      t'.catchUpBoundary = t.catchUpBoundary ∧ t'.mustCatchUp = t.mustCatchUp) ?_
    (fun _ _ _ _ h _ _ _ => h) ?_ (fun _ _ _ _ h _ _ _ => h) (fun _ _ _ _ h _ _ => h)
    (fun a l h => absurd h (hconfigure a l)) (fun l p c h => absurd h (hreset l p c))
    ⟨rfl, rfl, rfl⟩
  · intro t₁ t₂ hsame h
    rw [hsame.authority, hsame.catchUpBoundary, hsame.mustCatchUp]
    exact h
  · intro t₁ lsn h
    unfold recordVerifiedLocalProgress
    split
    · exact h
    · exact h

namespace History

theorem Tracks.step {h : History} {op : TrackerOp} (hop : op.Valid) (ht : h.Tracks) :
    (h.step op).Tracks := by
  by_cases hconfigure : ∃ a l, op = .configurePrevalidated a l
  · obtain ⟨a, localProgress, rfl⟩ := hconfigure
    rcases Classical.em (h.tracker.authority = some a) with hsame | hother
    · simp only [History.step, hsame, if_true]
      refine ⟨?_, ?_, ?_⟩ <;> intro a' ha' <;> cases ha'
      · exact hop
      · exact ht.boundary a hsame
      · intro hlost
        have hkept := ht.kept a hsame hlost
        simpa [QuorumTracker.apply, configurePrevalidated, hsame] using hkept
    · simp only [History.step, hother, if_false]
      refine ⟨?_, ?_, ?_⟩ <;> intro a' ha' <;> cases ha'
      · exact hop
      · exact ⟨_, rfl⟩
      · intro _
        simp [QuorumTracker.apply, configurePrevalidated, hother]
  by_cases hreset : ∃ l p c, op = .resetProgressAfterDataLoss l p c
  · obtain ⟨l, p, c, rfl⟩ := hreset
    exact ⟨ht.validated, ht.boundary, fun _ _ hlost => by cases hlost⟩
  · push Not at hconfigure hreset
    obtain ⟨hauthority, hboundary, hmust⟩ := apply_frame (t := h.tracker) hconfigure hreset
    have hstep : h.step op = { h with tracker := h.tracker.apply op } := by
      cases op with
      | configurePrevalidated a l => exact absurd rfl (hconfigure a l)
      | resetProgressAfterDataLoss l p c => exact absurd rfl (hreset l p c)
      | _ => rfl
    rw [hstep]
    refine ⟨?_, ?_, ?_⟩
    · rw [hauthority]
      exact ht.validated
    · rw [hauthority]
      exact ht.boundary
    · rw [hauthority, hboundary, hmust]
      exact ht.kept

theorem tracks_run {ops : List TrackerOp} (hvalid : ∀ op ∈ ops, op.Valid) : (run ops).Tracks := by
  induction ops using List.reverseRecOn with
  | nil => exact ⟨by simp [run, empty], by simp [run, empty], by simp [run, empty]⟩
  | append_singleton ops op ih =>
    rw [run, List.foldl_append]
    exact (ih fun op' hop' => hvalid op' (List.mem_append_left _ hop')).step (hvalid op (by simp))

/-! ## Soundness of catch-up -/

/-- The tracker has recorded that the identity reached `lsn`: as verified progress during a removal,
else in its progress map, where an identity without an entry counts as `0`. -/
def Recorded (t : QuorumTracker) (a : ManagedReplicaConfiguration) (lsn : Int)
    (identity : ReplicaIdentity) : Prop :=
  match a.secondaryRemoval with
  | some _ => ∃ v ∈ t.verified.get? identity, lsn ≤ v.2
  | none => (∃ p ∈ t.progress.get? identity, lsn ≤ p) ∨
      (t.progress.get? identity = none ∧ lsn ≤ 0)

instance (t : QuorumTracker) (a : ManagedReplicaConfiguration) (lsn : Int)
    (identity : ReplicaIdentity) : Decidable (Recorded t a lsn identity) := by
  unfold Recorded
  split <;> infer_instance

omit [Sha256] in
theorem recorded_iff {t : QuorumTracker} {a : ManagedReplicaConfiguration} {lsn : Int}
    (ha : a.secondaryRemoval = none) :
    Recorded t a lsn identity ↔ lsn ≤ progressOf t.progress identity := by
  simp only [Recorded, ha, progressOf]
  cases t.progress.get? identity <;> simp

/-- A primary that was not the primary before, and the target of an increase, must have caught up
themselves. -/
def MustReach (a : ManagedReplicaConfiguration) (identity : ReplicaIdentity) : Prop :=
  (∃ previous ∈ a.previousConfiguration, a.primaryIdentity = some identity ∧
    ¬previous.HasPrimary identity) ∨ ∃ evidence ∈ a.scaleUp, evidence.intent.target = identity

/-- A write quorum of the current configuration has reached the boundary of the authority, and the
replicas that must have reached all that a write quorum has. -/
def CaughtUp (h : History) (a : ManagedReplicaConfiguration) : Prop :=
  ∃ boundary, h.boundary = some boundary ∧
    a.currentConfiguration.writeQuorum ≤ (a.currentConfiguration.members.filter fun m =>
      Recorded h.tracker a boundary m.identity).length ∧
    ∀ identity, MustReach a identity → ∃ p, h.tracker.progress.get? identity = some p ∧
      quorumProgress a.currentConfiguration h.tracker.progress ≤ p

omit [Sha256] in
theorem mem_deriveMustCatchUp {a : ManagedReplicaConfiguration} (h : MustReach a identity) :
    identity ∈ deriveMustCatchUp a := by
  unfold deriveMustCatchUp
  rcases h with ⟨previous, hprevious, hprimary, hnot⟩ | ⟨evidence, hevidence, rfl⟩
  · obtain ⟨m, hm, rfl⟩ := Option.map_eq_some_iff.1 hprimary
    rw [Option.mem_def] at hprevious
    have hany : (previous.members.any fun n => n.identity == m.identity && n.role == .primary) =
        false := by
      rw [List.any_eq_false]
      intro n hn hboth
      simp only [Bool.and_eq_true, beq_iff_eq] at hboth
      exact hnot ⟨n, hn, hboth⟩
    simp [hprevious, hm, hany]
  · rw [Option.mem_def] at hevidence
    have hmem : evidence.intent.target ∈
        (a.scaleUp.map fun evidence => evidence.intent.target).toList := by simp [hevidence]
    dsimp only
    split
    · split_ifs
      · exact hmem
      · exact List.mem_append_left _ hmem
    · exact hmem

omit [Sha256] in
theorem exists_boundaryOf {a : ManagedReplicaConfiguration} (highestLsn : Int)
    (h : a.previousConfiguration.isSome ∨ a.scaleUp.isSome) :
    ∃ boundary, boundaryOf a highestLsn = some boundary := by
  rw [← Option.isSome_iff_exists]
  rcases h with h | h <;> simp [boundaryOf, h]

/-- During a removal the verified reports themselves are counted. -/
theorem Tracks.caughtUp_of_removal {h : History} {a : ManagedReplicaConfiguration}
    {evidence : SecondaryRemovalEvidence} (ht : h.Tracks) (ha : h.tracker.authority = some a)
    (he : a.secondaryRemoval = some evidence) (hcomplete : h.tracker.catchUpComplete = true) :
    CaughtUp h a := by
  obtain ⟨admitted, hvalid, rfl⟩ := ht.validated a ha
  obtain ⟨highestLsn, hboundary⟩ := ht.boundary _ ha
  have hscale := CreditInvariant.exclusive_of_validated ⟨admitted, hvalid, rfl⟩ (by simp [he])
  simp only [boundaryOf, he, hscale, Option.map_none, Option.none_or, Option.map_some,
    Option.some_or] at hboundary
  refine ⟨_, hboundary, ?_, ?_⟩
  · simp only [catchUpComplete, ha, Option.bind_some, he, Option.map_some, Bool.and_eq_true,
      decide_eq_true_eq] at hcomplete
    refine hcomplete.2.trans_eq (congrArg List.length (List.filter_congr fun m _ => ?_))
    simp only [Recorded, he]
    cases h.tracker.verified.get? m.identity <;> simp
  · rintro identity (⟨previous, hprevious, hprimary, hnot⟩ | ⟨increase, hincrease, -⟩)
    · exact absurd (AdmittedAuthority.hasPrimary_of_removal hvalid he hprevious hprimary) hnot
    · rw [Option.mem_def, hscale] at hincrease
      cases hincrease

/-- Otherwise the quorum progress has passed the boundary of the authority. -/
theorem Tracks.caughtUp_of_progress {h : History} {a : ManagedReplicaConfiguration}
    (ht : h.Tracks) (ha : h.tracker.authority = some a) (he : a.secondaryRemoval = none)
    (hchange : a.previousConfiguration.isSome ∨ a.scaleUp.isSome) (hlost : h.lost = false)
    (hcomplete : h.tracker.catchUpComplete = true) : CaughtUp h a := by
  obtain ⟨admitted, hvalid, heq⟩ := ht.validated a ha
  obtain ⟨hkept, hmust⟩ := ht.kept a ha hlost
  obtain ⟨highestLsn, hboundary⟩ := ht.boundary a ha
  obtain ⟨boundary, hsome⟩ := exists_boundaryOf highestLsn hchange
  rw [hsome] at hboundary
  simp only [catchUpComplete, ha, Option.bind_some, he, Option.map_none, hkept, hboundary, hmust,
    currentConfigurationQuorumProgress, Option.map_some, Option.getD_some, Bool.and_eq_true,
    decide_eq_true_eq, List.all_eq_true] at hcomplete
  refine ⟨boundary, hboundary, ?_, ?_⟩
  · have hle : a.currentConfiguration.writeQuorum ≤ a.currentConfiguration.members.length := by
      rw [← heq]
      exact AdmittedAuthority.writeQuorum_le hvalid
    refine (writeQuorum_le_holders_quorumProgress h.tracker.progress hle).trans ?_
    refine (List.monotone_filter_right _ fun m hm => ?_).length_le
    rw [decide_eq_true_eq] at hm
    exact decide_eq_true ((recorded_iff he).2 (hcomplete.1.trans hm))
  · intro identity hidentity
    have hany := hcomplete.2 identity (mem_deriveMustCatchUp hidentity)
    obtain ⟨p, hp, hle⟩ := (Option.any_eq_true _ _).1 hany
    exact ⟨p, hp, of_decide_eq_true hle⟩

/-- Catch-up is sound as long as the progress has not been reset under the authority: whenever it is
complete during a change, a write quorum has reached the boundary and the required replicas have
reached the progress of the quorum.  A removal is sound even after a reset. -/
theorem catchUpComplete_sound {ops : List TrackerOp} (hvalid : ∀ op ∈ ops, op.Valid)
    {a : ManagedReplicaConfiguration} (ha : (QuorumTracker.run ops).authority = some a)
    (hchange : a.previousConfiguration.isSome ∨ a.scaleUp.isSome ∨ a.secondaryRemoval.isSome)
    (hkept : (run ops).lost = true → a.secondaryRemoval.isSome)
    (hcomplete : (QuorumTracker.run ops).catchUpComplete = true) : CaughtUp (run ops) a := by
  rw [← run_tracker] at ha hcomplete
  have ht := tracks_run hvalid
  rcases he : a.secondaryRemoval with _ | evidence
  · refine ht.caughtUp_of_progress ha he ?_ ?_ hcomplete
    · simpa [he] using hchange
    · simpa [he] using hkept
  · exact ht.caughtUp_of_removal ha he hcomplete

end History

end QuorumTracker

end

/-! ## A reset during an increase

Replica 2 is the primary of an increase from three to four replicas, whose boundary is 7.  Its peers
have acknowledged nothing when its progress is reset. -/

namespace QuorumTracker.ResetDuringIncrease

attribute [local instance] checksum

open ThreeToFour

def authority : AdmittedAuthority where
  localIdentity := identity 2
  transitionKind := some .scaleUp
  previousConfiguration := some intent.previousConfiguration
  currentConfiguration := intent.currentConfiguration
  switchoverHandoff := none
  secondaryRemoval := none
  scaleUp := some (.admission intent)

def configured : List TrackerOp := [.configurePrevalidated authority.managed 7]

def reset : List TrackerOp := configured ++ [.resetProgressAfterDataLoss (identity 2) 7 7]

theorem reset_valid : ∀ op ∈ reset, op.Valid := by
  have hvalid : authority.validate = .ok () := by decide +kernel
  simp only [reset, configured, List.cons_append, List.nil_append, List.forall_mem_cons,
    List.not_mem_nil, false_imp_iff, implies_true, and_true]
  exact ⟨⟨authority, hvalid, rfl⟩, trivial⟩

open History in
theorem complete_without_quorum : (∀ op ∈ reset, op.Valid) ∧
    (QuorumTracker.run reset).authority = some authority.managed ∧
    (QuorumTracker.run reset).catchUpComplete = true ∧ ¬CaughtUp (History.run reset) authority.managed := by
  refine ⟨reset_valid, by decide +kernel, by decide +kernel, ?_⟩
  rintro ⟨boundary, hboundary, hquorum, -⟩
  have hseven : (History.run reset).boundary = some 7 := by decide +kernel
  cases hseven.symm.trans hboundary
  -- Only the primary itself is recorded at the boundary.
  have hcount : (authority.managed.currentConfiguration.members.filter fun m =>
      Recorded (History.run reset).tracker authority.managed 7 m.identity).length = 1 := by decide +kernel
  have hwrite : authority.managed.currentConfiguration.writeQuorum = 3 := by decide +kernel
  omega

def ack (id : ReplicaId) : ReplicationAck where
  sender := identity 2
  receiver := identity id
  epoch := authority.managed.fence.epoch
  previousConfigurationId := authority.managed.fence.previousConfigurationId
  currentConfigurationId := authority.managed.fence.currentConfigurationId
  receivedLsn := 7
  appliedLsn := 7
  committedLsn := 7

def acknowledged : List TrackerOp := configured ++ [.acknowledge (ack 1), .acknowledge (ack 3)]

open History in
theorem catchUpComplete_sound_acknowledged : CaughtUp (History.run acknowledged) authority.managed := by
  have hvalid : ∀ op ∈ acknowledged, op.Valid := by
    intro op hop
    rcases List.mem_append.1 hop with hop | hop
    · exact reset_valid op (List.mem_append_left _ hop)
    · simp only [List.mem_cons, List.not_mem_nil, or_false] at hop
      rcases hop with rfl | rfl <;> exact trivial
  exact catchUpComplete_sound hvalid (by decide +kernel) (.inl rfl) (by decide +kernel)
    (by decide +kernel)

end QuorumTracker.ResetDuringIncrease

end Kuberic
