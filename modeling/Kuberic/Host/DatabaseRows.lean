import Kuberic.Host.Database

/-!
# The rows of the database only advance

Over every sequence of calls, with crashes between any two of them, the durable authority moves to a
newer epoch or completes the transition that it is in, the rows of a removal move to newer epochs, the
progress and the journal keep what they hold, and a build that another one supersedes is closed for
good.  Each part is a relation between two states that every change keeps.
-/

namespace Kuberic

namespace AgentDatabase

variable [Sha256] {db db' : AgentDatabase} {call : DatabaseCall}

/-! ## The durable authority -/

/-- What a run leaves of the durable authority and of the retirement. -/
structure AuthorityKept (db db' : AgentDatabase) : Prop where
  stored : ∀ a ∈ db.authority, (∃ a' ∈ db'.authority, a.Succeeds a') ∨
    db'.authority = none ∧ db'.retired ≠ none
  retiring : db.Retiring → db'.Retiring ∧ (db'.authority = db.authority ∨ db'.authority = none)
  retired : ∀ r ∈ db.retired, db'.retired = some r

theorem AuthorityKept.refl (db : AgentDatabase) : AuthorityKept db db :=
  ⟨fun a ha => .inl ⟨a, ha, .inl rfl⟩, fun h => ⟨h, .inl rfl⟩, fun _ hr => hr⟩

variable {db₁ db₂ db₃ : AgentDatabase}

theorem AuthorityKept.trans (h : AuthorityKept db₁ db₂) (h' : AuthorityKept db₂ db₃) :
    AuthorityKept db₁ db₃ := by
  refine ⟨fun a ha => ?_, fun hretiring => ?_, fun r hr => h'.retired r (h.retired r hr)⟩
  · obtain ⟨a₂, ha₂, hsucceeds⟩ | ⟨hnone, hretired⟩ := h.stored a ha
    · obtain ⟨a₃, ha₃, hsucceeds'⟩ | hgone := h'.stored a₂ ha₂
      · exact .inl ⟨a₃, ha₃, hsucceeds.trans hsucceeds'⟩
      · exact .inr hgone
    · obtain ⟨r, hr⟩ := Option.ne_none_iff_exists'.1 hretired
      refine .inr ⟨?_, by simp [h'.retired r hr]⟩
      obtain ⟨-, hsame | hgone⟩ := h'.retiring (.inl hretired)
      · rw [hsame, hnone]
      · exact hgone
  · obtain ⟨hretiring₂, hsame | hgone⟩ := h.retiring hretiring
    · exact hsame ▸ h'.retiring hretiring₂
    · obtain ⟨hretiring₃, hsame | hgone'⟩ := h'.retiring hretiring₂
      · exact ⟨hretiring₃, .inr (hsame.trans hgone)⟩
      · exact ⟨hretiring₃, .inr hgone'⟩

/-- What holds of the durable authority at any time. -/
structure AuthorityInv (identity : ReplicaIdentity) (db : AgentDatabase) : Prop where
  localIdentity : db.localIdentity = identity
  valid : ∀ a ∈ db.authority, a.validate = .ok () ∧ a.localIdentity = identity
  retired : db.retired ≠ none → db.authority = none
  applied : ∀ a ∈ db.appliedAdmission, db.authority = some a

variable {identity : ReplicaIdentity}

theorem AuthorityInv.completed (h : AuthorityInv identity db) :
    db.completeAdmission = { db with appliedAdmission := none } := by
  unfold completeAdmission
  cases happlied : db.appliedAdmission with
  | none => rfl
  | some a => simp [h.applied a happlied]

theorem AuthorityKept.of_changes (hinv : AuthorityInv identity db) (h : Changes db call db') :
    AuthorityKept db db' := by
  obtain ⟨hstored, hkept, hretired⟩ := AuthorityKept.refl db
  cases h with
  | completed =>
    rw [hinv.completed]
    exact ⟨hstored, hkept, hretired⟩
  | @authority a _ _ hretiring hsucceeds =>
    exact ⟨fun old hold => .inl ⟨a, rfl, hsucceeds old hold⟩, fun h => absurd h hretiring, hretired⟩
  | retirementStarted => exact ⟨hstored, fun _ => ⟨.inr (.inl nofun), .inl rfl⟩, hretired⟩
  | retired hnone =>
    refine ⟨fun _ _ => .inr ⟨rfl, nofun⟩, fun _ => ⟨.inl nofun, .inr rfl⟩, fun r hr => ?_⟩
    rw [hnone] at hr
    cases hr
  | retiredAuthority => exact ⟨hstored, fun _ => ⟨.inr (.inr nofun), .inl rfl⟩, hretired⟩
  | _ => exact ⟨hstored, hkept, hretired⟩

theorem AuthorityInv.of_changes (h : Changes db call db') (hinv : AuthorityInv identity db) :
    AuthorityInv identity db' := by
  have hcompleted := hinv.completed
  obtain ⟨hidentity, hvalid, hretired, happlied⟩ := hinv
  cases h with
  | authority hnew hlocal hretiring _ hsame =>
    refine ⟨hidentity, fun a ha => ?_, fun h => absurd (.inl h) hretiring,
      fun a ha => congrArg some (hsame a ha).symm⟩
    obtain rfl := Option.some.inj ha
    exact ⟨hnew, hlocal.trans hidentity⟩
  | applied => exact ⟨hidentity, hvalid, hretired, fun _ ha => ha⟩
  | completed =>
    rw [hcompleted]
    exact ⟨hidentity, hvalid, hretired, fun _ ha => (by cases ha)⟩
  | retired _ hnone =>
    exact ⟨hidentity, fun _ ha => (by cases ha), fun _ => rfl, by simp [hnone]⟩
  | _ => exact ⟨hidentity, hvalid, hretired, happlied⟩

theorem AuthorityInv.new {uid : ResourceUid} : AuthorityInv identity (new identity uid) :=
  ⟨rfl, fun _ ha => (by cases ha), fun h => absurd rfl h, fun _ ha => (by cases ha)⟩

/-- The durable authority is valid and of this replica.  It gives way only to one of a newer epoch, to
the completion of its own transition, or to the retirement of the replica; once a retirement has
begun no other authority takes its place, and a retirement that is complete stays. -/
theorem authority_never_goes_back (identity : ReplicaIdentity) (uid : ResourceUid)
    (calls later : List DatabaseCall) :
    let db := (new identity uid).after calls
    let db' := db.after later
    (∀ a ∈ db.authority, (a.validate = .ok () ∧ a.localIdentity = identity) ∧
      ((∃ a' ∈ db'.authority, a.Succeeds a') ∨ db'.authority = none ∧ db'.retired ≠ none)) ∧
    (db.Retiring → db'.authority = db.authority ∨ db'.authority = none) ∧
    ∀ r ∈ db.retired, db'.retired = some r ∧ db'.authority = none := by
  intro db db'
  have hinv : AuthorityInv identity db := inv_after .new AuthorityInv.of_changes calls
  have hkept : AuthorityKept db db' := rel_after AuthorityKept.refl (fun _ => AuthorityKept.trans)
    (fun _ _ _ _ h hinv => ⟨hinv.of_changes h, .of_changes hinv h⟩) hinv
  refine ⟨fun a ha => ⟨hinv.valid a ha, hkept.stored a ha⟩, fun h => (hkept.retiring h).2,
    fun r hr => ⟨hkept.retired r hr, ?_⟩⟩
  have hretired : db.retired ≠ none := by simp [Option.mem_def.1 hr]
  obtain hsame | hgone := (hkept.retiring (.inl hretired)).2
  · exact hsame.trans (hinv.retired hretired)
  · exact hgone

/-- After any calls, the engine can run under the durable authority. -/
theorem engine_runs_authority (identity : ReplicaIdentity) (uid : ResourceUid)
    (calls : List DatabaseCall) :
    Check.onSome ((new identity uid).after calls).authority (·.managed.validate) = .ok () := by
  have hinv := inv_after (.new : AuthorityInv identity (new identity uid)) AuthorityInv.of_changes calls
  exact Check.onSome_eq_ok.2 fun a ha => AdmittedAuthority.managed_validate (hinv.valid a ha).1

/-! ## The rows of a removal -/

/-- What a run leaves of the preparation and of the commit of a removal. -/
structure RemovalKept (db db' : AgentDatabase) : Prop where
  preparation : ∀ p ∈ db.preparation, ∃ p' ∈ db'.preparation, p' = p ∨
    p.intent.currentConfiguration.epoch ≤ p'.intent.previousConfiguration.epoch
  commit : ∀ c ∈ db.commit, ∃ c' ∈ db'.commit, c' = c ∨
    c.evidence.preparation.intent.currentConfiguration.epoch <
      c'.evidence.preparation.intent.currentConfiguration.epoch

/-- The preparation that is stored is of a valid removal. -/
def PreparationValid (db : AgentDatabase) : Prop :=
  ∀ p ∈ db.preparation, validateSecondaryScaleDown p.intent = .ok ()

omit [Sha256] in
theorem RemovalKept.refl (db : AgentDatabase) : RemovalKept db db :=
  ⟨fun p hp => ⟨p, hp, .inl rfl⟩, fun c hc => ⟨c, hc, .inl rfl⟩⟩

theorem RemovalKept.trans (hvalid : db₂.PreparationValid) (h : RemovalKept db₁ db₂)
    (h' : RemovalKept db₂ db₃) : RemovalKept db₁ db₃ := by
  constructor
  · intro p hp
    obtain ⟨p₂, hp₂, rfl | hle⟩ := h.preparation p hp
    · exact h'.preparation _ hp₂
    · obtain ⟨p₃, hp₃, rfl | hle'⟩ := h'.preparation p₂ hp₂
      · exact ⟨_, hp₃, .inr hle⟩
      · have hlt := (ValidRemoval.of_validate (hvalid p₂ hp₂)).epoch_lt
        exact ⟨p₃, hp₃, .inr (hle.trans (hlt.le.trans hle'))⟩
  · intro c hc
    obtain ⟨c₂, hc₂, rfl | hlt⟩ := h.commit c hc
    · exact h'.commit _ hc₂
    · obtain ⟨c₃, hc₃, rfl | hlt'⟩ := h'.commit c₂ hc₂
      · exact ⟨_, hc₃, .inr hlt⟩
      · exact ⟨c₃, hc₃, .inr (hlt.trans hlt')⟩

theorem RemovalKept.of_changes (h : Changes db call db') : RemovalKept db db' := by
  obtain ⟨hpreparation, hcommit⟩ := RemovalKept.refl db
  cases h with
  | @preparation p _ hnewer => exact ⟨fun old hold => ⟨p, rfl, .inr (hnewer old hold)⟩, hcommit⟩
  | @commit c hnewer =>
    exact ⟨hpreparation, fun old hold => ⟨c, rfl, (hnewer old hold).imp Eq.symm id⟩⟩
  | _ => exact ⟨hpreparation, hcommit⟩

theorem PreparationValid.of_changes (h : Changes db call db') (hvalid : db.PreparationValid) :
    db'.PreparationValid := by
  cases h with
  | preparation hnew =>
    intro p hp
    obtain rfl := Option.some.inj hp
    exact hnew
  | _ => exact hvalid

/-- The preparation of a removal gives way only to one that starts at or after the epoch that it leads
to, and a commit only to one of a newer epoch. -/
theorem removal_rows_only_advance (identity : ReplicaIdentity) (uid : ResourceUid)
    (calls later : List DatabaseCall) :
    let db := (new identity uid).after calls
    RemovalKept db (db.after later) := by
  intro db
  have hnew : (new identity uid).PreparationValid := fun _ hp => by cases hp
  have hvalid : db.PreparationValid := inv_after hnew PreparationValid.of_changes calls
  exact rel_after RemovalKept.refl RemovalKept.trans
    (fun _ _ _ _ h hvalid => ⟨hvalid.of_changes h, .of_changes h⟩) hvalid

/-! ## Progress and local writes -/

/-- What a run leaves of the progress under a fence and of the journal, where `safe` are the writes that
no reset of the run removes. -/
structure JournalKept (safe : DurableLocalWrite → Prop) (db db' : AgentDatabase) : Prop where
  replicationProgress : ∀ fence p, db.replicationProgress.get? fence = some p →
    ∃ p', db'.replicationProgress.get? fence = some p' ∧ p.verifiedLsn ≤ p'.verifiedLsn
  localWrites : ∀ id w, db.localWrites.get? id = some w → safe w →
    ∃ w', db'.localWrites.get? id = some w' ∧ w.Continues w'

variable {safe : DurableLocalWrite → Prop}

omit [Sha256] in
theorem JournalKept.refl (db : AgentDatabase) : JournalKept safe db db :=
  ⟨fun _ p hp => ⟨p, hp, le_rfl⟩, fun _ w hw _ => ⟨w, hw, .refl w⟩⟩

omit [Sha256] in
theorem JournalKept.trans (hsafe : ∀ w w', w.Continues w' → safe w → safe w')
    (h : JournalKept safe db₁ db₂) (h' : JournalKept safe db₂ db₃) : JournalKept safe db₁ db₃ := by
  constructor
  · intro fence p hp
    obtain ⟨p₂, hp₂, hle⟩ := h.replicationProgress fence p hp
    obtain ⟨p₃, hp₃, hle'⟩ := h'.replicationProgress fence p₂ hp₂
    exact ⟨p₃, hp₃, hle.trans hle'⟩
  · intro id w hw hs
    obtain ⟨w₂, hw₂, hcontinues⟩ := h.localWrites id w hw hs
    obtain ⟨w₃, hw₃, hcontinues'⟩ := h'.localWrites id w₂ hw₂ (hsafe w w₂ hcontinues hs)
    exact ⟨w₃, hw₃, hcontinues.trans hcontinues'⟩

theorem JournalKept.of_changes
    (hsafe : ∀ lsn, call = .resetLocalWritesAfterDataLoss lsn → ∀ w, safe w →
      w.phase = .committed ∧ w.lsn ≤ lsn)
    (h : Changes db call db') : JournalKept safe db db' := by
  obtain ⟨hprogress, hwrites⟩ : JournalKept safe db db := .refl db
  cases h with
  | @replicationProgress p hnewer =>
    refine ⟨fun fence old hold => ?_, hwrites⟩
    by_cases hfence : fence = p.fence
    · subst hfence
      exact ⟨p, AssocMap.get?_insert_self .., hnewer old hold⟩
    · exact ⟨old, by rwa [AssocMap.get?_insert_of_ne _ _ hfence], le_rfl⟩
  | @localWrite w hcontinues =>
    refine ⟨hprogress, fun id old hold _ => ?_⟩
    by_cases hid : id = w.operationId
    · subst hid
      exact ⟨w, AssocMap.get?_insert_self .., hcontinues old hold⟩
    · exact ⟨old, by rwa [AssocMap.get?_insert_of_ne _ _ hid], .refl old⟩
  | @reset lsn hcall =>
    refine ⟨hprogress, fun id w hw hs => ⟨w, ?_, .refl w⟩⟩
    simp only [resetLocalWritesAfterDataLoss, AssocMap.get?_retain, hw, Option.filter_some]
    simp [hsafe lsn hcall w hs]
  | _ => exact ⟨hprogress, hwrites⟩

/-- The verified progress under a fence never goes back.  A local write keeps its LSN and its data, and
its phase only advances, as long as every reset after a data loss leaves it. -/
theorem journal_keeps_writes (db : AgentDatabase) (calls : List DatabaseCall) :
    (∀ fence p, db.replicationProgress.get? fence = some p →
      ∃ p', (db.after calls).replicationProgress.get? fence = some p' ∧
        p.verifiedLsn ≤ p'.verifiedLsn) ∧
    ∀ id w, db.localWrites.get? id = some w →
      (∀ lsn, .resetLocalWritesAfterDataLoss lsn ∈ calls → w.phase = .committed ∧ w.lsn ≤ lsn) →
      ∃ w', (db.after calls).localWrites.get? id = some w' ∧ w.Continues w' := by
  let safe : DurableLocalWrite → Prop := fun w =>
    ∀ lsn, .resetLocalWritesAfterDataLoss lsn ∈ calls → w.phase = .committed ∧ w.lsn ≤ lsn
  have hsafe : ∀ w w', w.Continues w' → safe w → safe w' := by
    intro w w' hcontinues hs lsn hlsn
    obtain ⟨hphase, hle⟩ := hs lsn hlsn
    exact ⟨hcontinues.committed hphase, hcontinues.lsn ▸ hle⟩
  have hkept : JournalKept safe db (db.after calls) := by
    refine rel_after (P := fun _ => True) JournalKept.refl (fun _ => JournalKept.trans hsafe)
      (fun call hcall _ _ h _ => ⟨trivial, .of_changes ?_ h⟩) trivial
    rintro lsn rfl w hs
    exact hs lsn hcall
  exact ⟨hkept.replicationProgress, hkept.localWrites⟩

/-! ## Builds -/

/-- What a run leaves of the builds. -/
structure BuildsKept (db db' : AgentDatabase) : Prop where
  authorities : ∀ id a, db.builds.authorities.get? id = some a →
    db'.builds.authorities.get? id = some a
  progress : ∀ id p, db.builds.progress.get? id = some p →
    ∃ p', db'.builds.progress.get? id = some p' ∧ ¬BuildStore.Regresses p' p
  closed : ∀ id ∈ db.builds.closed,
    id ∈ db'.builds.closed ∧ db'.builds.progress.get? id = db.builds.progress.get? id
  selections : ∀ target s, db.selections.get? target = some s →
    ∃ s', db'.selections.get? target = some s' ∧ (s' = s ∨ s.generation < s'.generation ∧
      s.authority.currentConfiguration.epoch ≤ s'.authority.currentConfiguration.epoch ∧
      s.authority.buildId ∈ db'.builds.closed)

omit [Sha256] in
theorem not_regresses_refl (p : BuildProgress) : ¬BuildStore.Regresses p p := by
  simp [BuildStore.Regresses]

omit [Sha256] in
theorem not_regresses_trans {p p' p'' : BuildProgress} (h : ¬BuildStore.Regresses p' p)
    (h' : ¬BuildStore.Regresses p'' p') : ¬BuildStore.Regresses p'' p := by
  simp only [BuildStore.Regresses, not_or, not_lt, not_and, Bool.not_eq_false, not_not] at h h' ⊢
  obtain ⟨hsequence, hdurable, hcompleted, hboundary⟩ := h
  obtain ⟨hsequence', hdurable', hcompleted', hboundary'⟩ := h'
  refine ⟨hsequence.trans hsequence', hdurable.trans hdurable', fun h => hcompleted' (hcompleted h),
    fun hset => ?_⟩
  have hsame := hboundary hset
  rw [hboundary' (by rwa [hsame]), hsame]

omit [Sha256] in
theorem BuildsKept.refl (db : AgentDatabase) : BuildsKept db db :=
  ⟨fun _ _ h => h, fun _ p hp => ⟨p, hp, not_regresses_refl p⟩, fun _ h => ⟨h, rfl⟩,
    fun _ s hs => ⟨s, hs, .inl rfl⟩⟩

omit [Sha256] in
theorem BuildsKept.trans (h : BuildsKept db₁ db₂) (h' : BuildsKept db₂ db₃) :
    BuildsKept db₁ db₃ := by
  refine ⟨fun id a ha => h'.authorities id a (h.authorities id a ha), fun id p hp => ?_,
    fun id hid => ?_, fun target s hs => ?_⟩
  · obtain ⟨p₂, hp₂, hkept⟩ := h.progress id p hp
    obtain ⟨p₃, hp₃, hkept'⟩ := h'.progress id p₂ hp₂
    exact ⟨p₃, hp₃, not_regresses_trans hkept hkept'⟩
  · obtain ⟨hclosed, hsame⟩ := h.closed id hid
    obtain ⟨hclosed', hsame'⟩ := h'.closed id hclosed
    exact ⟨hclosed', hsame'.trans hsame⟩
  · obtain ⟨s₂, hs₂, rfl | ⟨hgeneration, hepoch, hclosed⟩⟩ := h.selections target s hs
    · exact h'.selections target _ hs₂
    · have hclosed' := (h'.closed _ hclosed).1
      obtain ⟨s₃, hs₃, rfl | ⟨hgeneration', hepoch', -⟩⟩ := h'.selections target s₂ hs₂
      · exact ⟨_, hs₃, .inr ⟨hgeneration, hepoch, hclosed'⟩⟩
      · exact ⟨s₃, hs₃, .inr ⟨hgeneration.trans hgeneration', hepoch.trans hepoch', hclosed'⟩⟩

theorem BuildsKept.of_changes (h : Changes db call db') : BuildsKept db db' := by
  obtain ⟨hauthorities, hprogress, hclosed, hselections⟩ := BuildsKept.refl db
  cases h with
  | @buildAuthority a hsame =>
    refine ⟨fun id old hold => ?_, hprogress, hclosed, hselections⟩
    rw [AssocMap.get?_upsert]
    split_ifs with hid
    · subst hid
      rw [hold]
      rfl
    · exact hold
  | @buildProgress p hopen hkept =>
    refine ⟨hauthorities, fun id old hold => ?_, fun id hid => ⟨hid, ?_⟩, hselections⟩
    · by_cases hid : id = p.authority.buildId
      · subst hid
        exact ⟨p, AssocMap.get?_insert_self .., hkept old hold⟩
      · exact ⟨old, by rwa [AssocMap.get?_insert_of_ne _ _ hid], not_regresses_refl old⟩
    · exact AssocMap.get?_insert_of_ne _ _ fun heq => hopen (heq ▸ hid)
  | closed =>
    exact ⟨hauthorities, hprogress, fun id hid => ⟨.tail _ hid, rfl⟩, fun _ s hs => ⟨s, hs, .inl rfl⟩⟩
  | @selected a hnone =>
    refine ⟨hauthorities, hprogress, hclosed, fun target s hs => ⟨s, ?_, .inl rfl⟩⟩
    rwa [AssocMap.get?_insert_of_ne]
    rintro rfl
    cases hnone.symm.trans hs
  | @superseded a previous hprevious hepoch =>
    refine ⟨hauthorities, hprogress, fun id hid => ⟨.tail _ hid, rfl⟩, fun target s hs => ?_⟩
    by_cases htarget : target = a.target.replicaId
    · subst htarget
      obtain rfl : previous = s := Option.some.inj (hprevious.symm.trans hs)
      exact ⟨_, AssocMap.get?_insert_self .., .inr ⟨Nat.lt_succ_self _, hepoch, .head _⟩⟩
    · exact ⟨s, by rwa [AssocMap.get?_insert_of_ne _ _ htarget], .inl rfl⟩
  | _ => exact ⟨hauthorities, hprogress, hclosed, hselections⟩

/-- A build keeps its authority, and its progress never goes back.  A target moves to another build
only with a new generation and at the same or a newer epoch; the build that it leaves is closed, and
its progress is frozen. -/
theorem builds_only_advance (db : AgentDatabase) (calls later : List DatabaseCall) :
    let db' := db.after calls
    (∀ id a, db.builds.authorities.get? id = some a → db'.builds.authorities.get? id = some a) ∧
    (∀ id p, db.builds.progress.get? id = some p →
      ∃ p', db'.builds.progress.get? id = some p' ∧ ¬BuildStore.Regresses p' p) ∧
    ∀ target s s', db.selections.get? target = some s → db'.selections.get? target = some s' →
      s' ≠ s → s.generation < s'.generation ∧
      s.authority.currentConfiguration.epoch ≤ s'.authority.currentConfiguration.epoch ∧
      db'.builds.loadBuild s.authority.buildId = none ∧
      (db'.after later).builds.progress.get? s.authority.buildId =
        db'.builds.progress.get? s.authority.buildId := by
  intro db'
  have hrun : ∀ (db : AgentDatabase) (calls : List DatabaseCall), BuildsKept db (db.after calls) :=
    fun db _ => rel_after (P := fun _ => True) BuildsKept.refl (fun _ => BuildsKept.trans)
      (fun _ _ _ _ h _ => ⟨trivial, .of_changes h⟩) trivial
  have hkept := hrun db calls
  refine ⟨hkept.authorities, hkept.progress, fun target s s' hs hs' hne => ?_⟩
  obtain ⟨s₂, hs₂, rfl | ⟨hgeneration, hepoch, hclosed⟩⟩ := hkept.selections target s hs
  · exact absurd (Option.some.inj (hs'.symm.trans hs₂)) hne
  · obtain rfl : s' = s₂ := Option.some.inj (hs'.symm.trans hs₂)
    exact ⟨hgeneration, hepoch, if_pos hclosed, ((hrun db' later).closed _ hclosed).2⟩

end AgentDatabase

/-! ## The databases of a reduction

Replica 3 goes through the removal of replica 2, which is retired, and builds replica 4 twice. -/

namespace ThreeToTwo

attribute [local instance] checksum

open AgentDatabase

def bootstrap (id : ReplicaId) : AdmittedAuthority :=
  ⟨identity id, some .bootstrap, none, intent.previousConfiguration, none, none, none⟩

def reducing : AdmittedAuthority :=
  ⟨identity 3, some .secondaryScaleDown, some intent.previousConfiguration,
    intent.currentConfiguration, none, some { cleanup.evidence with reducedWriteQuorum := [] }, none⟩

def reduced : AdmittedAuthority :=
  ⟨identity 3, none, none, intent.currentConfiguration, none, some cleanup.evidence, none⟩

def preparing : List DatabaseCall :=
  [.admitAuthority (bootstrap 3), .markAdmissionApplied, .completeAdmission,
    .recordSecondaryRemoval preparation]

def reduction : List DatabaseCall :=
  [.admitAuthority reducing, .markAdmissionApplied, .completeAdmission, .admitAuthority reduced,
    .recordSecondaryRemovalCommit cleanup]

def prepared : AgentDatabase := (AgentDatabase.new (identity 3) "uid").after preparing

def committed : AgentDatabase := (AgentDatabase.new (identity 3) "uid").after (preparing ++ reduction)

def retirement : RetiredAuthority where
  committed := cleanup
  report :=
    { intent := intent
      operationId := intent.commandOperationId .retire (identity 2)
      processSessionId := "session"
      reportSequence := 5
      epoch := intent.currentConfiguration.epoch
      role := .none
      readStatus := .notPrimary
      writeStatus := .notPrimary
      applicationClosed := true
      peersFenced := true }

def retired : AgentDatabase := (AgentDatabase.new (identity 2) "uid").after
  [.admitAuthority (bootstrap 2), .recordRetirementStarted retirement, .retire retirement]

theorem authority_never_goes_back_reduced :
    ((∃ a ∈ (prepared.after reduction).authority, (bootstrap 3).Succeeds a) ∨
      (prepared.after reduction).authority = none ∧ (prepared.after reduction).retired ≠ none) ∧
    (retired.after [.admitAuthority (bootstrap 2)]).authority = none := by
  have hstored := (authority_never_goes_back (identity 3) "uid" preparing reduction).1 (bootstrap 3)
    (show bootstrap 3 ∈ prepared.authority by decide +kernel)
  have hretired := (authority_never_goes_back (identity 2) "uid" _
    [.admitAuthority (bootstrap 2)]).2.2 retirement
    (show retirement ∈ retired.retired by decide +kernel)
  exact ⟨hstored.2, hretired.2⟩

theorem engine_runs_authority_reduced :
    committed.authority = some reduced ∧ reduced.managed.validate = .ok () := by
  have hstored : committed.authority = some reduced := by decide +kernel
  have hruns := engine_runs_authority (identity 3) "uid" (preparing ++ reduction)
  exact ⟨hstored, Check.onSome_eq_ok.1 hruns reduced hstored⟩

theorem removal_rows_only_advance_reduced :
    (∃ p ∈ (committed.after preparing).preparation, p = preparation ∨
      intent.currentConfiguration.epoch ≤ p.intent.previousConfiguration.epoch) ∧
    ∃ c ∈ (committed.after preparing).commit, c = cleanup ∨ intent.currentConfiguration.epoch <
      c.evidence.preparation.intent.currentConfiguration.epoch := by
  have hkept := removal_rows_only_advance (identity 3) "uid" (preparing ++ reduction) preparing
  exact ⟨hkept.preparation preparation (show _ ∈ committed.preparation by decide +kernel),
    hkept.commit cleanup (show _ ∈ committed.commit by decide +kernel)⟩

def fence : AuthorityFence := ⟨⟨1, 1⟩, none, intent.previousConfiguration.configurationId⟩

def journalled : AgentDatabase := prepared.after
  [.recordReplicationProgress ⟨fence, 1⟩, .recordLocalWrite ⟨"write", 1, 0, [7], .committed⟩]

theorem journal_keeps_writes_reset :
    (∃ p, (journalled.after [.recordReplicationProgress ⟨fence, 2⟩,
        .resetLocalWritesAfterDataLoss 1]).replicationProgress.get? fence = some p ∧
      1 ≤ p.verifiedLsn) ∧
    ∃ w, (journalled.after [.recordReplicationProgress ⟨fence, 2⟩,
        .resetLocalWritesAfterDataLoss 1]).localWrites.get? "write" = some w ∧
      DurableLocalWrite.Continues ⟨"write", 1, 0, [7], .committed⟩ w := by
  have hkept := journal_keeps_writes journalled
    [.recordReplicationProgress ⟨fence, 2⟩, .resetLocalWritesAfterDataLoss 1]
  refine ⟨hkept.1 fence ⟨fence, 1⟩ (by decide +kernel),
    hkept.2 "write" ⟨"write", 1, 0, [7], .committed⟩ (by decide +kernel) ?_⟩
  intro lsn hlsn
  obtain rfl : lsn = 1 := by simpa using hlsn
  decide

def build (id : OperationId) (c : ConfigurationDescriptor) : BuildAuthority :=
  ⟨id, .provisioning, identity 3, identity 4, c, 0⟩

def first : BuildAuthority := build "first" intent.previousConfiguration

def second : BuildAuthority := build "second" intent.currentConfiguration

def building : AgentDatabase := prepared.after
  [.admitBuild first, .selectBuild first, .recordBuildProgress ⟨first, 1, 0, false, none⟩ none]

theorem builds_only_advance_superseded :
    (building.after [.admitBuild second, .selectBuild second]).builds.loadBuild "first" = none ∧
    ((building.after [.admitBuild second, .selectBuild second]).after
        [.recordBuildProgress ⟨first, 2, 0, false, none⟩ none]).builds.progress.get? "first" =
      some ⟨first, 1, 0, false, none⟩ := by
  have hkept := builds_only_advance building [.admitBuild second, .selectBuild second]
    [.recordBuildProgress ⟨first, 2, 0, false, none⟩ none]
  obtain ⟨-, -, hgone, hfrozen⟩ := hkept.2.2 4 ⟨first, 1⟩ ⟨second, 2⟩ (by decide +kernel)
    (by decide +kernel) (by decide +kernel)
  exact ⟨hgone, hfrozen.trans (by decide +kernel)⟩

end ThreeToTwo

end Kuberic
