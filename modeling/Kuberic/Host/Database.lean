import Kuberic.Protocol.Growth
import Kuberic.Protocol.RemovalCertificate
import Kuberic.Runtime.Copy

/-!
# The database of a replica

The tables that the runtime of a replica writes: the durable authority and the rows of a secondary
removal, the replication progress, the journal of local writes, and the builds with the one that is
selected for each target.  Every operation is one transaction, so a rejected one leaves the database
as it is.  Of the agent state there is what the operations read and what writes the tables again:
the host closes builds, records the retirement of the replica, and completes an admission, which
writes its authority a second time and unchecked.  `Changes` says once what a call can do.
-/

namespace Kuberic

open Check

/-- The build that is selected for a target. -/
structure BuildSelection where
  authority : BuildAuthority
  generation : Nat
  deriving DecidableEq

structure AgentDatabase where
  localIdentity : ReplicaIdentity
  resourceUid : ResourceUid
  /-- The retirement in the agent state. -/
  retiredAuthority : Option RetiredAuthority := none
  /-- The admission in the agent state that is applied and not complete. -/
  appliedAdmission : Option AdmittedAuthority := none
  authority : Option AdmittedAuthority := none
  preparation : Option SecondaryRemovalPreparation := none
  retirementStarted : Option RetiredAuthority := none
  retired : Option RetiredAuthority := none
  commit : Option SecondaryScaleDownCleanup := none
  replicationProgress : AssocMap AuthorityFence ReplicationProgress := ∅
  localWrites : AssocMap OperationId DurableLocalWrite := ∅
  builds : BuildStore := ⟨∅, ∅, []⟩
  /-- The rows `build-selection/` of the replica ids. -/
  selections : AssocMap ReplicaId BuildSelection := ∅

def LocalWritePhase.tag : LocalWritePhase → Int
  | .reserved => 0
  | .registered => 1
  | .committed => 2

namespace AgentDatabase

def new (localIdentity : ReplicaIdentity) (resourceUid : ResourceUid) : AgentDatabase :=
  { localIdentity, resourceUid }

/-! ## Operations -/

section Operations

variable [Sha256] (db : AgentDatabase)

/-- The retirement of the replica has begun. -/
def Retiring : Prop :=
  db.retired ≠ none ∨ db.retirementStarted ≠ none ∨ db.retiredAuthority ≠ none

instance : Decidable db.Retiring := by
  unfold Retiring
  infer_instance

/-- The `admit` of the source. -/
def admitAuthority (a : AdmittedAuthority) : Result AgentDatabase := do
  a.validate
  rejectIf (db.Retiring ∨ a.localIdentity ≠ db.localIdentity)
    (.authorityMismatch "retired or mismatched local authority")
  match db.authority with
  | none => return { db with authority := some a }
  | some existing =>
    if existing = a then return db
    rejectIf (a.epoch < existing.epoch) (.authorityMismatch "replica authority epoch regressed")
    rejectIf (a.epoch = existing.epoch ∧ a.isCurrentOnlyCompletionOf existing = false)
      (.authorityMismatch "replica authority changed without a newer epoch")
    return { db with authority := some a }

def recordSecondaryRemoval (p : SecondaryRemovalPreparation) : Result AgentDatabase := do
  mismatch (validateSecondaryRemovalPreparation p)
  rejectIf (p.intent.primary ≠ db.localIdentity ∨ p.intent.resourceUid ≠ db.resourceUid ∨
      db.retiredAuthority ≠ none)
    (.authorityMismatch "preparation belongs to another primary")
  match db.preparation with
  | none => return { db with preparation := some p }
  | some existing =>
    if existing = p then return db
    rejectIf (existing.operationId = p.operationId ∨
        p.intent.previousConfiguration.epoch < existing.intent.currentConfiguration.epoch)
      (.authorityMismatch "preparation regresses durable high-water authority")
    return { db with preparation := some p }

def recordSecondaryRemovalCommit (c : SecondaryScaleDownCleanup) : Result AgentDatabase := do
  mismatch (validateSecondaryScaleDownCleanup c)
  rejectIf (∀ a ∈ db.authority, a.previousConfiguration ≠ none ∨
      a.secondaryRemoval ≠ some c.evidence)
    (.authorityMismatch "commit differs from admitted reduction")
  rejectIf (∃ old ∈ db.commit, old ≠ c ∧
      c.evidence.preparation.intent.currentConfiguration.epoch ≤
        old.evidence.preparation.intent.currentConfiguration.epoch)
    (.authorityMismatch "commit was mutated or regressed")
  return { db with commit := some c }

/-- `validate_retirement`: the replica is retired already if the result is `true`. -/
def validateRetirement (r : RetiredAuthority) : Result Bool := do
  r.validate db.localIdentity
  rejectIf (r.report.intent.resourceUid ≠ db.resourceUid)
    (.authorityMismatch "retirement resource differs")
  rejectIf (∃ old ∈ [db.retired, db.retirementStarted, db.retiredAuthority].reduceOption, old ≠ r)
    (.authorityMismatch "conflicting durable retirement")
  if db.retired ≠ none then return true
  rejectIf (∃ a ∈ db.authority, a.localIdentity ≠ db.localIdentity ∨
      a.currentConfiguration ≠ r.report.intent.previousConfiguration ∨
      a.previousConfiguration ≠ none)
    (.authorityMismatch "retirement differs from installed authority")
  return false

def recordRetirementStarted (r : RetiredAuthority) : Result AgentDatabase := do
  if ← db.validateRetirement r then return db
  return { db with retirementStarted := some r }

def retire (r : RetiredAuthority) : Result AgentDatabase := do
  if ← db.validateRetirement r then return db
  return { db with retired := some r, authority := none, retirementStarted := none }

omit [Sha256] in
def recordReplicationProgress (p : ReplicationProgress) : Result AgentDatabase := do
  rejectIf (∃ existing ∈ db.replicationProgress.get? p.fence, p.verifiedLsn < existing.verifiedLsn)
    (.authorityMismatch "replication progress regressed")
  return { db with replicationProgress := db.replicationProgress.insert p.fence p }

omit [Sha256] in
def recordLocalWrite (w : DurableLocalWrite) : Result AgentDatabase := do
  rejectIf (∃ existing ∈ db.localWrites.get? w.operationId, existing.lsn ≠ w.lsn ∨
      existing.committedLsn ≠ w.committedLsn ∨ existing.data ≠ w.data)
    (.authorityMismatch "local write identity or payload changed")
  rejectIf (∃ existing ∈ db.localWrites.get? w.operationId, w.phase.tag < existing.phase.tag)
    (.authorityMismatch "local write phase regressed")
  return { db with localWrites := db.localWrites.insert w.operationId w }

omit [Sha256] in
def resetLocalWritesAfterDataLoss (committedLsn : Int) : AgentDatabase :=
  { db with
    localWrites := db.localWrites.retain fun _ w => w.phase = .committed ∧ w.lsn ≤ committedLsn }

def admitBuild (a : BuildAuthority) : Result AgentDatabase := do
  return { db with builds := ← db.builds.admitBuild a }

omit [Sha256] in
def selectBuild (a : BuildAuthority) : Result (BuildSelection × AgentDatabase) := do
  rejectIf (db.builds.authorities.get? a.buildId ≠ some a ∨ a.buildId ∈ db.builds.closed)
    (.authorityMismatch "custom build authority is not admitted")
  match db.selections.get? a.target.replicaId with
  | none =>
    let selection := ⟨a, 1⟩
    return (selection, { db with selections := db.selections.insert a.target.replicaId selection })
  | some previous =>
    if previous.authority = a then return (previous, db)
    rejectIf (a.currentConfiguration.epoch < previous.authority.currentConfiguration.epoch)
      (.authorityMismatch "custom build epoch regressed")
    -- The generation is a `u64`.
    rejectIf (2 ^ 64 ≤ previous.generation + 1)
      (.authorityMismatch "build selection generation exhausted")
    let selection := ⟨a, previous.generation + 1⟩
    return (selection, { db with
      selections := db.selections.insert a.target.replicaId selection
      -- The build that was selected before is abandoned.
      builds := { db.builds with closed := previous.authority.buildId :: db.builds.closed } })

omit [Sha256] in
/-- `complete_effect` of an admission writes the authority of its result. -/
def completeAdmission : AgentDatabase :=
  { db with authority := db.appliedAdmission.or db.authority, appliedAdmission := none }

omit [Sha256] in
/-- `record_build_progress_inner`; a build of a selected target names its selection. -/
def recordBuildProgress (p : BuildProgress) (selection : Option BuildSelection) :
    Result AgentDatabase := do
  rejectIf (∃ s ∈ selection, db.selections.get? p.authority.target.replicaId ≠ some s ∨
      s.authority ≠ p.authority)
    (.authorityMismatch "custom build selection was superseded")
  return { db with builds := ← db.builds.recordBuildProgress p }

end Operations

end AgentDatabase

/-! ## Runs -/

/-- The write `w'` is the write `w` at the same or a later phase. -/
structure DurableLocalWrite.Continues (w w' : DurableLocalWrite) : Prop where
  lsn : w'.lsn = w.lsn
  committedLsn : w'.committedLsn = w.committedLsn
  data : w'.data = w.data
  phase : w.phase.tag ≤ w'.phase.tag

namespace DurableLocalWrite.Continues

variable {w w' w'' : DurableLocalWrite}

theorem refl (w : DurableLocalWrite) : w.Continues w := ⟨rfl, rfl, rfl, le_rfl⟩

theorem trans (h : w.Continues w') (h' : w'.Continues w'') : w.Continues w'' :=
  ⟨h'.lsn.trans h.lsn, h'.committedLsn.trans h.committedLsn, h'.data.trans h.data,
    h.phase.trans h'.phase⟩

theorem committed (h : w.Continues w') (hw : w.phase = .committed) : w'.phase = .committed := by
  have hphase := h.phase
  rw [hw] at hphase
  cases hp : w'.phase <;> simp_all [LocalWritePhase.tag]

end DurableLocalWrite.Continues

inductive DatabaseCall
  | admitAuthority (a : AdmittedAuthority)
  /-- The host marks an admission as applied; its result is the authority that the engine loads. -/
  | markAdmissionApplied
  | completeAdmission
  | recordSecondaryRemoval (p : SecondaryRemovalPreparation)
  | recordSecondaryRemovalCommit (c : SecondaryScaleDownCleanup)
  | recordRetirementStarted (r : RetiredAuthority)
  | retire (r : RetiredAuthority)
  | recordReplicationProgress (p : ReplicationProgress)
  | recordLocalWrite (w : DurableLocalWrite)
  | resetLocalWritesAfterDataLoss (committedLsn : Int)
  | admitBuild (a : BuildAuthority)
  | selectBuild (a : BuildAuthority)
  | recordBuildProgress (p : BuildProgress) (selection : Option BuildSelection)
  /-- The host retires or abandons a build. -/
  | closeBuild (buildId : OperationId)
  /-- The host records the retirement in the agent state. -/
  | recordRetired (r : RetiredAuthority)

variable [Sha256]

/-- What a call does.  While an admission is applied and not complete no other effect begins, neither
another admission nor a retirement. -/
def DatabaseCall.run (db : AgentDatabase) : DatabaseCall → Result AgentDatabase
  | .admitAuthority a =>
    if ∃ applied ∈ db.appliedAdmission, applied ≠ a then .ok db else db.admitAuthority a
  | .markAdmissionApplied => .ok { db with appliedAdmission := db.authority }
  | .completeAdmission => .ok db.completeAdmission
  | .recordSecondaryRemoval p => db.recordSecondaryRemoval p
  | .recordSecondaryRemovalCommit c => db.recordSecondaryRemovalCommit c
  | .recordRetirementStarted r => db.recordRetirementStarted r
  | .retire r => if db.appliedAdmission ≠ none then .ok db else db.retire r
  | .recordReplicationProgress p => db.recordReplicationProgress p
  | .recordLocalWrite w => db.recordLocalWrite w
  | .resetLocalWritesAfterDataLoss lsn => .ok (db.resetLocalWritesAfterDataLoss lsn)
  | .admitBuild a => db.admitBuild a
  | .selectBuild a => (db.selectBuild a).map Prod.snd
  | .recordBuildProgress p selection => db.recordBuildProgress p selection
  | .closeBuild id => .ok { db with builds := { db.builds with closed := id :: db.builds.closed } }
  | .recordRetired r => .ok { db with retiredAuthority := some r }

/-- The database after a sequence of calls; a call that is rejected is rolled back. -/
def AgentDatabase.after (db : AgentDatabase) (calls : List DatabaseCall) : AgentDatabase :=
  calls.foldl (fun db call => (call.run db).toOption.getD db) db

/-! ## What a call changes -/

/-- The authority `a'` may take the place of `a`: it is of a newer epoch, or it completes the
transition of `a`. -/
def AdmittedAuthority.Succeeds (a a' : AdmittedAuthority) : Prop :=
  a' = a ∨ a.epoch < a'.epoch ∨ a'.isCurrentOnlyCompletionOf a = true

namespace AdmittedAuthority

variable {a a' a'' : AdmittedAuthority}

theorem currentConfiguration_of_completion (h : a'.isCurrentOnlyCompletionOf a = true) :
    a'.currentConfiguration = a.currentConfiguration ∧ a.previousConfiguration ≠ none ∧
      a'.previousConfiguration = none := by
  simp only [isCurrentOnlyCompletionOf, Bool.and_eq_true, beq_iff_eq, Option.isNone_iff_eq_none] at h
  obtain ⟨⟨⟨⟨⟨⟨⟨-, hcurrent⟩, hprevious⟩, hnone⟩, -⟩, -⟩, -⟩, -⟩ := h
  exact ⟨hcurrent, Option.ne_none_iff_isSome.2 hprevious, hnone⟩

theorem Succeeds.trans (h : a.Succeeds a') (h' : a'.Succeeds a'') : a.Succeeds a'' := by
  obtain rfl | hlt | hcompletes := h
  · exact h'
  · obtain rfl | hlt' | hcompletes' := h'
    · exact .inr (.inl hlt)
    · exact .inr (.inl (hlt.trans hlt'))
    · obtain ⟨hcurrent, -⟩ := currentConfiguration_of_completion hcompletes'
      refine .inr (.inl ?_)
      rwa [epoch, epoch, hcurrent]
  · obtain rfl | hlt' | hcompletes' := h'
    · exact .inr (.inr hcompletes)
    · obtain ⟨hcurrent, -⟩ := currentConfiguration_of_completion hcompletes
      refine .inr (.inl ?_)
      rwa [epoch, ← hcurrent]
    · -- a completion has no transition left to complete
      exact absurd (currentConfiguration_of_completion hcompletes).2.2
        (currentConfiguration_of_completion hcompletes').2.1

theorem epoch_lt_of_successor {previous current p : ConfigurationDescriptor} {policy : EffectivePolicy}
    (h : validateTransitionRelationship.validateSuccessor (some previous) current policy = .ok p) :
    previous.epoch < current.epoch := by
  simp only [validateTransitionRelationship.validateSuccessor, then_eq_ok, demand_bind_eq_ok,
    rejectIf_eq_ok, not_not, not_le] at h
  obtain ⟨-, -, _, heq, -, hdata, hnumber, -⟩ := h
  cases heq
  exact Epoch.lt_iff.2 (.inr ⟨hdata.symm, hnumber⟩)

/-- The checks of the database imply those that the engine makes. -/
theorem managed_validate (h : a.validate = .ok ()) : a.managed.validate = .ok () := by
  have hruns (hmember : a.managed.containsMember a.localIdentity = true)
      (hepoch : ∀ previous, a.previousConfiguration = some previous → previous.epoch < a.epoch) :
      a.managed.validate = .ok () := by
    rw [ManagedReplicaConfiguration.validate, if_neg, if_neg]
    · intro hany
      obtain ⟨previous, hprevious, hle⟩ := (Option.any_eq_true ..).1 hany
      exact not_le.2 (hepoch previous hprevious) (of_decide_eq_true hle)
    · rw [Bool.not_eq_true, Bool.not_eq_false']
      exact hmember
  have hmember : (∃ m ∈ a.currentConfiguration.members, m.identity = a.localIdentity) →
      a.managed.containsMember a.localIdentity = true := by
    rintro ⟨m, hm, heq⟩
    exact Bool.or_eq_true_iff.2 (.inl (List.any_eq_true.2 ⟨m, hm, beq_iff_eq.2 heq⟩))
  have hnewer {c : ConfigurationDescriptor}
      (hc : a.previousConfiguration = a.previousConfiguration.map fun _ => c)
      (hlt : c.epoch < a.epoch) :
      ∀ previous, a.previousConfiguration = some previous → previous.epoch < a.epoch := by
    intro previous hp
    rw [hp] at hc
    rwa [Option.some.inj hc]
  unfold validate at h
  split at h
  · simp only [validateRemoval, seq_eq_ok, mismatch_eq_ok, rejectIf_eq_ok, not_or, not_not] at h
    obtain ⟨hevidence, hcurrent, hprevious, -, -, -, hlocal⟩ := h
    refine hruns (hmember (hcurrent ▸ hlocal)) (hnewer hprevious ?_)
    rw [epoch, hcurrent]
    exact (ValidRemoval.of_validate (scaleDown_of_evidence hevidence)).epoch_lt
  split at h
  · next evidence _ =>
    simp only [validateIncrease, seq_eq_ok, mismatch_eq_ok] at h
    obtain ⟨hintent, -, h⟩ := h
    have hlt : evidence.intent.previousConfiguration.epoch <
        evidence.intent.currentConfiguration.epoch := by
      rw [(ValidIncrease.of_validate hintent).epoch]
      exact Epoch.lt_iff.2 (.inr ⟨rfl, Int.lt_succ _⟩)
    cases evidence with
    | admission intent =>
      simp only [seq_eq_ok, rejectIf_eq_ok, not_or, not_not] at h
      obtain ⟨⟨hcurrent, hprevious, -⟩, hlocal⟩ := h
      refine hruns (hmember hlocal) (hnewer hprevious ?_)
      rwa [epoch, hcurrent]
    | failover evidence =>
      simp only [seq_eq_ok, mismatch_eq_ok, rejectIf_eq_ok, not_or, not_not, not_le,
        validateScaleUpFailoverTransition, validateFailoverConfiguration] at h
      obtain ⟨-, ⟨-, ⟨-, -, ⟨-, hdata, hnumber⟩, -⟩, -⟩, ⟨hprevious, -⟩, hlocal⟩ := h
      refine hruns (hmember hlocal) (hnewer hprevious (hlt.trans ?_))
      exact Epoch.lt_iff.2 (.inr ⟨hdata.symm, hnumber⟩)
  · simp only [validateOrdinary, seq_eq_ok, demand_bind_eq_ok, rejectIf_eq_ok, Bool.not_eq_false] at h
    obtain ⟨-, policy, -, h, -, hlocal⟩ := h
    refine hruns hlocal fun previous hp => ?_
    rw [validateKind, hp] at h
    generalize a.transitionKind = kind at h
    obtain _ | kind := kind
    · cases h
    cases kind with
    | replacement | failover | plannedSwitchover =>
      obtain ⟨_, hsuccessor, -⟩ := bind_eq_ok.1 (mismatch_eq_ok.1 h)
      exact epoch_lt_of_successor hsuccessor
    | _ => cases h

end AdmittedAuthority

namespace AgentDatabase

/-- The effect of a call that is not rejected. -/
inductive Changes (db : AgentDatabase) (call : DatabaseCall) : AgentDatabase → Prop
  | same : Changes db call db
  | authority {a : AdmittedAuthority} : a.validate = .ok () → a.localIdentity = db.localIdentity →
      ¬db.Retiring → (∀ existing ∈ db.authority, existing.Succeeds a) →
      (∀ applied ∈ db.appliedAdmission, applied = a) →
      Changes db call { db with authority := some a }
  | applied : Changes db call { db with appliedAdmission := db.authority }
  | completed : Changes db call db.completeAdmission
  | preparation {p : SecondaryRemovalPreparation} : validateSecondaryScaleDown p.intent = .ok () →
      (∀ existing ∈ db.preparation, existing.intent.currentConfiguration.epoch ≤
        p.intent.previousConfiguration.epoch) →
      Changes db call { db with preparation := some p }
  | commit {c : SecondaryScaleDownCleanup} :
      (∀ old ∈ db.commit, old = c ∨ old.evidence.preparation.intent.currentConfiguration.epoch <
        c.evidence.preparation.intent.currentConfiguration.epoch) →
      Changes db call { db with commit := some c }
  | retirementStarted {r : RetiredAuthority} : db.retired = none →
      Changes db call { db with retirementStarted := some r }
  | retired {r : RetiredAuthority} : db.retired = none → db.appliedAdmission = none → Changes db call
      { db with retired := some r, authority := none, retirementStarted := none }
  | retiredAuthority {r : RetiredAuthority} :
      Changes db call { db with retiredAuthority := some r }
  | replicationProgress {p : ReplicationProgress} :
      (∀ existing ∈ db.replicationProgress.get? p.fence, existing.verifiedLsn ≤ p.verifiedLsn) →
      Changes db call { db with replicationProgress := db.replicationProgress.insert p.fence p }
  | localWrite {w : DurableLocalWrite} :
      (∀ existing ∈ db.localWrites.get? w.operationId, existing.Continues w) →
      Changes db call { db with localWrites := db.localWrites.insert w.operationId w }
  | reset {lsn : Int} : call = .resetLocalWritesAfterDataLoss lsn →
      Changes db call (db.resetLocalWritesAfterDataLoss lsn)
  | buildAuthority {a : BuildAuthority} : (∀ existing ∈ db.builds.authorities.get? a.buildId,
        existing = a) →
      Changes db call { db with builds := { db.builds with
        authorities := db.builds.authorities.upsert a.buildId a id } }
  | buildProgress {p : BuildProgress} : p.authority.buildId ∉ db.builds.closed →
      (∀ existing ∈ db.builds.progress.get? p.authority.buildId,
        ¬BuildStore.Regresses p existing) →
      Changes db call { db with builds := { db.builds with
        progress := db.builds.progress.insert p.authority.buildId p } }
  | closed {buildId : OperationId} : Changes db call { db with
      builds := { db.builds with closed := buildId :: db.builds.closed } }
  | selected {a : BuildAuthority} : db.selections.get? a.target.replicaId = none →
      Changes db call { db with selections := db.selections.insert a.target.replicaId ⟨a, 1⟩ }
  | superseded {a : BuildAuthority} {previous : BuildSelection} :
      db.selections.get? a.target.replicaId = some previous →
      previous.authority.currentConfiguration.epoch ≤ a.currentConfiguration.epoch →
      Changes db call { db with
        selections := db.selections.insert a.target.replicaId ⟨a, previous.generation + 1⟩
        builds := { db.builds with closed := previous.authority.buildId :: db.builds.closed } }

variable {db db' : AgentDatabase} {call : DatabaseCall}

theorem changes_of_admitAuthority {a : AdmittedAuthority}
    (happlied : ∀ applied ∈ db.appliedAdmission, applied = a)
    (h : db.admitAuthority a = .ok db') : Changes db call db' := by
  simp only [admitAuthority, then_eq_ok, rejectIf_eq_ok, not_or, not_not] at h
  obtain ⟨hvalid, ⟨hretiring, hidentity⟩, h⟩ := h
  split at h
  · next hnone =>
    obtain rfl := Except.ok.inj h
    exact .authority hvalid hidentity hretiring (by simp [hnone]) happlied
  · next existing hsome =>
    split_ifs at h with hsame
    · obtain rfl := Except.ok.inj h
      exact .same
    · simp only [then_eq_ok, rejectIf_eq_ok, not_and, Bool.not_eq_false] at h
      obtain ⟨hepoch, hcompletes, h⟩ := h
      obtain rfl := Except.ok.inj h
      refine .authority hvalid hidentity hretiring (fun old hold => ?_) happlied
      obtain rfl : existing = old := Option.some.inj (hsome ▸ hold)
      obtain hlt | heq := (not_lt.1 hepoch).lt_or_eq
      · exact .inr (.inl hlt)
      · exact .inr (.inr (hcompletes heq.symm))

theorem changes_of_recordSecondaryRemoval {p : SecondaryRemovalPreparation}
    (h : db.recordSecondaryRemoval p = .ok db') : Changes db call db' := by
  simp only [recordSecondaryRemoval, then_eq_ok, mismatch_eq_ok, rejectIf_eq_ok] at h
  obtain ⟨hvalid, -, h⟩ := h
  have hintent : validateSecondaryScaleDown p.intent = .ok () := by
    simp only [validateSecondaryRemovalPreparation, seq_eq_ok] at hvalid
    exact hvalid.1
  split at h
  · next hnone =>
    obtain rfl := Except.ok.inj h
    exact .preparation hintent (by simp [hnone])
  · next existing hsome =>
    split_ifs at h with hsame
    · obtain rfl := Except.ok.inj h
      exact .same
    · simp only [then_eq_ok, rejectIf_eq_ok, not_or, not_lt] at h
      obtain ⟨⟨-, hepoch⟩, h⟩ := h
      obtain rfl := Except.ok.inj h
      refine .preparation hintent fun old hold => ?_
      obtain rfl : existing = old := Option.some.inj (hsome ▸ hold)
      exact hepoch

theorem changes_of_retirement {r : RetiredAuthority} {written : AgentDatabase}
    (h : (do if ← db.validateRetirement r then return db else return written) = .ok db')
    (hwritten : db.retired = none → Changes db call written) : Changes db call db' := by
  obtain ⟨known, hvalid, h⟩ := bind_eq_ok.1 h
  simp only [validateRetirement, then_eq_ok] at hvalid
  obtain ⟨-, -, -, hvalid⟩ := hvalid
  split_ifs at hvalid with hretired
  · cases hvalid
    cases h
    exact .same
  · cases known <;> cases h
    exacts [hwritten (not_not.1 hretired), .same]

theorem changes_of_selectBuild {a : BuildAuthority} {selection : BuildSelection}
    (h : db.selectBuild a = .ok (selection, db')) : Changes db call db' := by
  simp only [selectBuild, then_eq_ok] at h
  obtain ⟨-, h⟩ := h
  split at h
  · next hnone =>
    obtain rfl := (Prod.mk.inj (Except.ok.inj h)).2
    exact .selected hnone
  · next previous hsome =>
    split_ifs at h
    · obtain rfl := (Prod.mk.inj (Except.ok.inj h)).2
      exact .same
    · simp only [then_eq_ok, rejectIf_eq_ok, not_lt] at h
      obtain ⟨hepoch, -, h⟩ := h
      obtain rfl := (Prod.mk.inj (Except.ok.inj h)).2
      exact .superseded hsome hepoch

theorem changes_of_run (h : call.run db = .ok db') : Changes db call db' := by
  cases call with
  | admitAuthority a =>
    simp only [DatabaseCall.run] at h
    split_ifs at h with happlied
    · obtain rfl := Except.ok.inj h
      exact .same
    · exact changes_of_admitAuthority (fun b hb => not_not.1 fun hne => happlied ⟨b, hb, hne⟩) h
  | markAdmissionApplied =>
    obtain rfl := Except.ok.inj h
    exact .applied
  | completeAdmission =>
    obtain rfl := Except.ok.inj h
    exact .completed
  | recordSecondaryRemoval p => exact changes_of_recordSecondaryRemoval h
  | recordSecondaryRemovalCommit c =>
    simp only [DatabaseCall.run, recordSecondaryRemovalCommit, then_eq_ok, rejectIf_eq_ok] at h
    obtain ⟨-, -, hnewer, h⟩ := h
    obtain rfl := Except.ok.inj h
    refine .commit fun old hold => ?_
    by_contra hcon
    rw [not_or, not_lt] at hcon
    exact hnewer ⟨old, hold, hcon⟩
  | recordRetirementStarted r => exact changes_of_retirement h .retirementStarted
  | retire r =>
    simp only [DatabaseCall.run] at h
    split_ifs at h with happlied
    · obtain rfl := Except.ok.inj h
      exact .same
    · exact changes_of_retirement h fun hnone => .retired hnone (not_not.1 happlied)
  | recordReplicationProgress p =>
    simp only [DatabaseCall.run, recordReplicationProgress, then_eq_ok, rejectIf_eq_ok] at h
    obtain ⟨hprogress, h⟩ := h
    obtain rfl := Except.ok.inj h
    exact .replicationProgress fun old hold => not_lt.1 fun hlt => hprogress ⟨old, hold, hlt⟩
  | recordLocalWrite w =>
    simp only [DatabaseCall.run, recordLocalWrite, then_eq_ok, rejectIf_eq_ok] at h
    obtain ⟨hpayload, hphase, h⟩ := h
    obtain rfl := Except.ok.inj h
    refine .localWrite fun old hold => ?_
    have hsame : ¬(old.lsn ≠ w.lsn ∨ old.committedLsn ≠ w.committedLsn ∨ old.data ≠ w.data) :=
      fun hne => hpayload ⟨old, hold, hne⟩
    simp only [not_or, not_not] at hsame
    exact ⟨hsame.1.symm, hsame.2.1.symm, hsame.2.2.symm,
      not_lt.1 fun hlt => hphase ⟨old, hold, hlt⟩⟩
  | resetLocalWritesAfterDataLoss lsn =>
    obtain rfl := Except.ok.inj h
    exact .reset rfl
  | admitBuild a =>
    obtain ⟨builds, hbuilds, h⟩ := bind_eq_ok.1 h
    obtain rfl := Except.ok.inj h
    simp only [BuildStore.admitBuild, then_eq_ok, rejectIf_eq_ok] at hbuilds
    obtain ⟨-, -, hreused, hbuilds⟩ := hbuilds
    obtain rfl := Except.ok.inj hbuilds
    exact .buildAuthority fun old hold => not_not.1 fun hne => hreused ⟨old, hold, hne⟩
  | selectBuild a =>
    obtain ⟨⟨selection, db'⟩, hselect, rfl⟩ : ∃ p, db.selectBuild a = .ok p ∧ p.2 = db' := by
      cases hselect : db.selectBuild a with
      | ok p => exact ⟨p, rfl, by simpa [DatabaseCall.run, hselect, Except.map] using h⟩
      | error e => simp [DatabaseCall.run, hselect, Except.map] at h
    exact changes_of_selectBuild hselect
  | recordBuildProgress p selection =>
    simp only [DatabaseCall.run, recordBuildProgress, then_eq_ok] at h
    obtain ⟨-, h⟩ := h
    obtain ⟨builds, hbuilds, h⟩ := bind_eq_ok.1 h
    obtain rfl := Except.ok.inj h
    simp only [BuildStore.recordBuildProgress, then_eq_ok, rejectIf_eq_ok, not_not] at hbuilds
    obtain ⟨hopen, -, hregress, hbuilds⟩ := hbuilds
    obtain rfl := Except.ok.inj hbuilds
    exact .buildProgress hopen fun old hold hbad => hregress ⟨old, hold, hbad⟩
  | closeBuild id =>
    obtain rfl := Except.ok.inj h
    exact .closed
  | recordRetired r =>
    obtain rfl := Except.ok.inj h
    exact .retiredAuthority

/-- A run relates the database before it to the one after it as every call does, where `P` holds and
is kept. -/
theorem rel_after {P : AgentDatabase → Prop} {R : AgentDatabase → AgentDatabase → Prop}
    (hrefl : ∀ db, R db db) (htrans : ∀ {a b c}, P b → R a b → R b c → R a c)
    {calls : List DatabaseCall}
    (hcall : ∀ call ∈ calls, ∀ {db db'}, Changes db call db' → P db → P db' ∧ R db db')
    {db : AgentDatabase} (h : P db) : R db (db.after calls) := by
  induction calls generalizing db with
  | nil => exact hrefl db
  | cons call calls ih =>
    have hstep : P ((call.run db).toOption.getD db) ∧ R db ((call.run db).toOption.getD db) := by
      cases hrun : call.run db with
      | ok db' => exact hcall call List.mem_cons_self (changes_of_run hrun) h
      | error e => exact ⟨h, hrefl db⟩
    exact htrans hstep.1 hstep.2 (ih (fun c hc => hcall c (List.mem_cons_of_mem _ hc)) hstep.1)

/-- What holds of a new database and is kept by every call. -/
theorem inv_after {P : AgentDatabase → Prop} {identity : ReplicaIdentity} {uid : ResourceUid}
    (hnew : P (new identity uid)) (hcall : ∀ {call db db'}, Changes db call db' → P db → P db')
    (calls : List DatabaseCall) : P ((new identity uid).after calls) :=
  rel_after (P := P) (R := fun db db' => P db → P db') (fun _ => id) (fun _ h h' => h' ∘ h)
    (fun _ _ _ _ hc hp => ⟨hcall hc hp, hcall hc⟩) hnew hnew

end AgentDatabase

end Kuberic
