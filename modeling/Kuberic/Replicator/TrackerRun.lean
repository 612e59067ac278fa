import Kuberic.Host.Authority
import Kuberic.Protocol.RemovalCertificate
import Kuberic.Replicator.Removal

/-!
# Runs of the quorum tracker

The operations that change a tracker, in any order.  The credit of a peer belongs to its registered
session along every run, as long as a data-loss reset finds no live commit; a replaced session never
comes back.
-/

namespace Kuberic

section

variable [Sha256]

/-- The projection of an authority that the host has validated. -/
def ManagedReplicaConfiguration.Validated (a : ManagedReplicaConfiguration) : Prop :=
  ∃ admitted : AdmittedAuthority, admitted.validate = .ok () ∧ admitted.managed = a

/-- The operations that change a tracker. -/
inductive TrackerOp
  | configurePrevalidated (a : ManagedReplicaConfiguration) (localProgress : Int)
  | registerPeerSession (identity : ReplicaIdentity) (session : ProcessSessionId)
  | recordVerifiedLocalProgress (lsn : Int)
  | observeSecondaryRemoval (w : SecondaryRemovalWitness)
  | observeSecondaryRemovalProgress (w : SecondaryRemovalWitness)
      (committed : SecondaryScaleDownCleanup)
  | observeCommittedSecondaryRemoval (w : SecondaryRemovalWitness)
  | restoreCommittedSecondaryRemoval (w : SecondaryRemovalWitness)
  | registerWrite (lsn : Int)
  | recordLocalProgress (lsn : Int)
  | recordPreparedBuildHandoffProgress (identity : ReplicaIdentity) (lsn : Int)
  | acknowledge (ack : ReplicationAck)
  | acknowledgeInSession (ack : ReplicationAck) (session : ProcessSessionId)
  | failPending
  | finalizeCommit (committedLsn : Int)
  | restoreCommittedLsn (committedLsn : Int)
  | resetProgressAfterDataLoss (localIdentity : ReplicaIdentity)
      (currentProgress committedLsn : Int)

/-- Every configured authority is a validated one. -/
def TrackerOp.Valid : TrackerOp → Prop
  | configurePrevalidated a _ => a.Validated
  | _ => True

namespace QuorumTracker

/-- The tracker after an operation, whether it succeeds or not. -/
def apply (t : QuorumTracker) : TrackerOp → QuorumTracker
  | .configurePrevalidated a localProgress => t.configurePrevalidated a localProgress
  | .registerPeerSession identity session => (t.registerPeerSession identity session).2
  | .recordVerifiedLocalProgress lsn => t.recordVerifiedLocalProgress lsn
  | .observeSecondaryRemoval w => (t.observeSecondaryRemoval w).2
  | .observeSecondaryRemovalProgress w committed =>
    (t.observeSecondaryRemovalProgress w committed).2
  | .observeCommittedSecondaryRemoval w => (t.observeCommittedSecondaryRemoval w).2
  | .restoreCommittedSecondaryRemoval w => (t.restoreCommittedSecondaryRemoval w).2
  | .registerWrite lsn => (t.registerWrite lsn).2
  | .recordLocalProgress lsn => (t.recordLocalProgress lsn).2
  | .recordPreparedBuildHandoffProgress identity lsn =>
    t.recordPreparedBuildHandoffProgress identity lsn
  | .acknowledge ack => (t.acknowledge ack).2
  | .acknowledgeInSession ack session => (t.acknowledgeInSession ack session).2
  | .failPending => t.failPending
  | .finalizeCommit committedLsn => (t.finalizeCommit committedLsn).2
  | .restoreCommittedLsn committedLsn => t.restoreCommittedLsn committedLsn
  | .resetProgressAfterDataLoss localIdentity currentProgress committedLsn =>
    t.resetProgressAfterDataLoss localIdentity currentProgress committedLsn

/-- The tracker after a list of operations, from a new one. -/
def run (ops : List TrackerOp) : QuorumTracker := ops.foldl apply empty

theorem run_append_singleton (ops : List TrackerOp) (op : TrackerOp) :
    run (ops ++ [op]) = (run ops).apply op := by
  simp [run]

/-! ## What an operation leaves alone -/

/-- Everything but the progress map, the waiting writes and the LSNs is the same. -/
structure SameCredit (t t' : QuorumTracker) : Prop where
  authority : t'.authority = t.authority
  sessions : t'.sessions = t.sessions
  obsoleteSessions : t'.obsoleteSessions = t.obsoleteSessions
  verified : t'.verified = t.verified
  witnesses : t'.witnesses = t.witnesses
  liveCommits : t'.liveCommits = t.liveCommits
  catchUpBoundary : t'.catchUpBoundary = t.catchUpBoundary
  mustCatchUp : t'.mustCatchUp = t.mustCatchUp

omit [Sha256] in
theorem SameCredit.refl (t : QuorumTracker) : SameCredit t t :=
  ⟨rfl, rfl, rfl, rfl, rfl, rfl, rfl, rfl⟩

omit [Sha256] in
theorem sameCredit_registerWrite (t : QuorumTracker) (lsn : Int) :
    SameCredit t (t.registerWrite lsn).2 := by
  unfold registerWrite
  split
  · exact .refl t
  · exact ⟨rfl, rfl, rfl, rfl, rfl, rfl, rfl, rfl⟩

omit [Sha256] in
theorem sameCredit_recordLocalProgress (t : QuorumTracker) (lsn : Int) :
    SameCredit t (t.recordLocalProgress lsn).2 := by
  unfold recordLocalProgress
  split
  · exact .refl t
  · exact ⟨rfl, rfl, rfl, rfl, rfl, rfl, rfl, rfl⟩

omit [Sha256] in
theorem sameCredit_acknowledge (t : QuorumTracker) (ack : ReplicationAck) :
    SameCredit t (t.acknowledge ack).2 := by
  unfold acknowledge
  split
  · exact .refl t
  · split
    · exact .refl t
    · exact ⟨rfl, rfl, rfl, rfl, rfl, rfl, rfl, rfl⟩

omit [Sha256] in
theorem sameCredit_acknowledgeInSession (t : QuorumTracker) (ack : ReplicationAck)
    (session : ProcessSessionId) : SameCredit t (t.acknowledgeInSession ack session).2 := by
  unfold acknowledgeInSession
  split
  · exact .refl t
  · exact sameCredit_acknowledge t ack

omit [Sha256] in
theorem sameCredit_finalizeCommit (t : QuorumTracker) (committedLsn : Int) :
    SameCredit t (t.finalizeCommit committedLsn).2 := by
  unfold finalizeCommit
  split
  · exact .refl t
  · split
    · exact .refl t
    · exact ⟨rfl, rfl, rfl, rfl, rfl, rfl, rfl, rfl⟩

/-- The tracker with a new session of a peer, which starts without credit. -/
def withSession (t : QuorumTracker) (a : ManagedReplicaConfiguration) (identity : ReplicaIdentity)
    (session : ProcessSessionId) : QuorumTracker :=
  { t with
    obsoleteSessions := t.obsoleteSessions ++ historicalSessions a identity session ++
      ((t.sessions.get? identity).map fun previous => (identity, previous)).toList
    progress := t.progress.erase identity
    verified := t.verified.erase identity
    witnesses := t.witnesses.erase identity
    liveCommits := t.liveCommits.erase identity
    sessions := t.sessions.insert identity session }

omit [Sha256] in
theorem registerPeerSession_cases (t : QuorumTracker) (identity : ReplicaIdentity)
    (session : ProcessSessionId) :
    (t.registerPeerSession identity session).2 = t ∨
      ∃ a, t.authority = some a ∧ a.containsMember identity = true ∧
        (identity, session) ∉ t.obsoleteSessions ∧
        (t.registerPeerSession identity session).2 = t.withSession a identity session := by
  unfold registerPeerSession
  split
  · exact .inl rfl
  next a ha =>
    split_ifs with hinvalid hsame
    · exact .inl rfl
    · exact .inl rfl
    · simp only [not_or, not_not] at hinvalid
      exact .inr ⟨a, ha, hinvalid.2.2.1, hinvalid.2.2.2, rfl⟩

variable {t : QuorumTracker}

/-- What holds of a tracker still holds after an operation if it survives a registration, the credit
of an accepted witness and local verified progress, and if the operation, where it configures or
resets, keeps it. -/
theorem apply_rule {P : QuorumTracker → Prop} (same : ∀ t t', SameCredit t t' → P t → P t')
    (registered : ∀ t a identity session, P t → t.authority = some a →
      a.containsMember identity = true → (identity, session) ∉ t.obsoleteSessions →
      P (t.withSession a identity session))
    (verifiedLocal : ∀ t lsn, P t → P (t.recordVerifiedLocalProgress lsn))
    (observed : ∀ t a evidence w, P t → t.authority = some a →
      a.secondaryRemoval = some evidence → ¬t.RefusesWitness a evidence w → P (t.credit w))
    (committed : ∀ t a w c, P t → t.authority = some a → ¬t.RefusesProgress a w c →
      P { t.credit w with liveCommits := t.liveCommits.insert w.identity c }) {op : TrackerOp}
    (configured : ∀ a localProgress, op = .configurePrevalidated a localProgress →
      P (t.configurePrevalidated a localProgress))
    (reset : ∀ localIdentity currentProgress committedLsn,
      op = .resetProgressAfterDataLoss localIdentity currentProgress committedLsn →
      P (t.resetProgressAfterDataLoss localIdentity currentProgress committedLsn)) (h : P t) :
    P (t.apply op) := by
  have hregister : ∀ t identity session, P t → P (t.registerPeerSession identity session).2 := by
    intro t identity session ht
    rcases t.registerPeerSession_cases identity session with heq | ⟨a, ha, hmember, hnew, heq⟩
    · rwa [heq]
    · rw [heq]
      exact registered t a identity session ht ha hmember hnew
  have hobserve : ∀ t w, P t → P (t.observeSecondaryRemoval w).2 := by
    intro t w ht
    rcases t.observeSecondaryRemoval_cases w with heq | ⟨a, evidence, ha, he, hok, heq⟩
    · rwa [heq]
    · rw [heq]
      exact observed t a evidence w ht ha he hok
  cases op with
  | configurePrevalidated a localProgress => exact configured a localProgress rfl
  | registerPeerSession identity session => exact hregister t identity session h
  | recordVerifiedLocalProgress lsn => exact verifiedLocal t lsn h
  | observeSecondaryRemoval w => exact hobserve t w h
  | observeSecondaryRemovalProgress w c =>
    rcases t.observeSecondaryRemovalProgress_cases w c with heq | ⟨a, ha, hok, heq⟩
    · rwa [apply, heq]
    · rw [apply, heq]
      exact committed t a w c h ha hok
  | observeCommittedSecondaryRemoval w =>
    rcases t.observeCommittedSecondaryRemoval_cases w with heq | heq
    · rwa [apply, heq]
    · rw [apply, heq]
      exact hobserve t w h
  | restoreCommittedSecondaryRemoval w =>
    obtain ⟨t', ht', heq⟩ := t.restoreCommittedSecondaryRemoval_cases w
    have hP : P t' := by
      rcases ht' with rfl | rfl
      · exact h
      · exact hregister t _ _ h
    rcases heq with heq | heq
    · rwa [apply, heq]
    · rw [apply, heq]
      exact hobserve t' w hP
  | registerWrite lsn => exact same _ _ (sameCredit_registerWrite t lsn) h
  | recordLocalProgress lsn => exact same _ _ (sameCredit_recordLocalProgress t lsn) h
  | acknowledge ack => exact same _ _ (sameCredit_acknowledge t ack) h
  | acknowledgeInSession ack session =>
    exact same _ _ (sameCredit_acknowledgeInSession t ack session) h
  | finalizeCommit committedLsn => exact same _ _ (sameCredit_finalizeCommit t committedLsn) h
  | recordPreparedBuildHandoffProgress | failPending | restoreCommittedLsn =>
    exact same t _ ⟨rfl, rfl, rfl, rfl, rfl, rfl, rfl, rfl⟩ h
  | resetProgressAfterDataLoss localIdentity currentProgress committedLsn =>
    exact reset _ _ _ rfl

/-! ## Credit belongs to the registered session -/

/-- Every live commit has a witness, and every witness is the verified progress of its identity in
the session that is registered for it. -/
structure Credited (t : QuorumTracker) : Prop where
  live : ∀ identity c, t.liveCommits.get? identity = some c →
    ∃ w, t.witnesses.get? identity = some w
  witness : ∀ identity w, t.witnesses.get? identity = some w → w.identity = identity ∧
    t.verified.get? identity = some (w.reportSequence, w.verifiedReplicationLsn) ∧
    t.sessions.get? identity = some w.processSessionId

/-- What carries `Credited` through a run: sessions are those of members, and there are witnesses
only of other replicas and only under a removal, which is never an increase as well. -/
structure CreditInvariant (t : QuorumTracker) : Prop extends Credited t where
  session : ∀ identity s, t.sessions.get? identity = some s →
    ∃ a, t.authority = some a ∧ a.containsMember identity = true
  removal : ∀ identity w, t.witnesses.get? identity = some w → ∃ a, t.authority = some a ∧
    a.secondaryRemoval.isSome ∧ a.localIdentity ≠ identity
  exclusive : ∀ a, t.authority = some a → a.secondaryRemoval.isSome → a.scaleUp = none

namespace CreditInvariant

variable {t : QuorumTracker}

omit [Sha256] in
theorem of_empty : CreditInvariant empty := by
  refine ⟨⟨?_, ?_⟩, ?_, ?_, ?_⟩ <;> simp [empty]

omit [Sha256] in
theorem congr {t' : QuorumTracker} (hsame : SameCredit t t') (h : CreditInvariant t) :
    CreditInvariant t' := by
  obtain ⟨hauthority, hsessions, -, hverified, hwitnesses, hlive, -, -⟩ := hsame
  refine ⟨⟨?_, ?_⟩, ?_, ?_, ?_⟩
  · rw [hlive, hwitnesses]
    exact h.live
  · rw [hwitnesses, hverified, hsessions]
    exact h.witness
  · rw [hsessions, hauthority]
    exact h.session
  · rw [hwitnesses, hauthority]
    exact h.removal
  · rw [hauthority]
    exact h.exclusive

variable {a : ManagedReplicaConfiguration} {identity : ReplicaIdentity} {session : ProcessSessionId}

omit [Sha256] in
theorem withSession (h : CreditInvariant t) (ha : t.authority = some a)
    (hmember : a.containsMember identity = true) :
    CreditInvariant (t.withSession a identity session) := by
  refine ⟨⟨?_, ?_⟩, ?_, ?_, h.exclusive⟩
  · intro i c hc
    obtain ⟨hne, hc⟩ := AssocMap.get?_erase_eq_some.1 hc
    obtain ⟨w, hw⟩ := h.live i c hc
    exact ⟨w, by simpa [QuorumTracker.withSession, hne] using hw⟩
  · intro i w hw
    obtain ⟨hne, hw⟩ := AssocMap.get?_erase_eq_some.1 hw
    simpa [QuorumTracker.withSession, hne] using h.witness i w hw
  · intro i s hs
    by_cases hi : i = identity
    · exact ⟨a, ha, hi ▸ hmember⟩
    · exact h.session i s (by simpa [QuorumTracker.withSession, hi] using hs)
  · intro i w hw
    exact h.removal i w (AssocMap.get?_of_erase hw)

omit [Sha256] in
theorem verifiedLocal (lsn : Int) (h : CreditInvariant t) :
    CreditInvariant (t.recordVerifiedLocalProgress lsn) := by
  unfold recordVerifiedLocalProgress
  split
  · exact h
  next a ha =>
    refine ⟨⟨h.live, ?_⟩, h.session, h.removal, h.exclusive⟩
    intro i w hw
    obtain ⟨a', ha', -, hne⟩ := h.removal i w hw
    cases ha.symm.trans ha'
    simpa [Ne.symm hne] using h.witness i w hw

omit [Sha256] in
theorem credit {w : SecondaryRemovalWitness} (h : CreditInvariant t) (ha : t.authority = some a)
    (hremoval : a.secondaryRemoval.isSome) (hlocal : w.identity ≠ a.localIdentity)
    (hsession : t.sessions.get? w.identity = some w.processSessionId) :
    CreditInvariant (t.credit w) := by
  refine ⟨⟨?_, ?_⟩, h.session, ?_, h.exclusive⟩
  · intro i c hc
    by_cases hi : i = w.identity
    · exact ⟨w, by simp [QuorumTracker.credit, hi]⟩
    · obtain ⟨v, hv⟩ := h.live i c hc
      exact ⟨v, by simpa [QuorumTracker.credit, hi] using hv⟩
  · intro i v hv
    by_cases hi : i = w.identity
    · subst hi
      simp only [QuorumTracker.credit, AssocMap.get?_insert_self, Option.some.injEq] at hv
      subst hv
      exact ⟨rfl, by simp [QuorumTracker.credit], hsession⟩
    · simp only [QuorumTracker.credit, AssocMap.get?_insert_of_ne _ _ hi] at hv ⊢
      exact h.witness i v hv
  · intro i v hv
    by_cases hi : i = w.identity
    · exact ⟨a, ha, hremoval, by rw [hi]; exact Ne.symm hlocal⟩
    · simp only [QuorumTracker.credit, AssocMap.get?_insert_of_ne _ _ hi] at hv
      exact h.removal i v hv

omit [Sha256] in
theorem addLive {w : SecondaryRemovalWitness} {c : SecondaryScaleDownCleanup}
    (h : CreditInvariant (t.credit w)) :
    CreditInvariant { t.credit w with liveCommits := t.liveCommits.insert w.identity c } := by
  refine ⟨⟨?_, h.witness⟩, h.session, h.removal, h.exclusive⟩
  intro i c' hc
  by_cases hi : i = w.identity
  · exact ⟨w, by simp [QuorumTracker.credit, hi]⟩
  · exact h.live i c' (by simpa [QuorumTracker.credit, hi] using hc)

theorem exclusive_of_validated (ha : a.Validated) (hremoval : a.secondaryRemoval.isSome) :
    a.scaleUp = none := by
  obtain ⟨admitted, hvalid, rfl⟩ := ha
  obtain ⟨evidence, he⟩ := Option.isSome_iff_exists.1 hremoval
  replace he : admitted.secondaryRemoval = some evidence := he
  simp only [AdmittedAuthority.validate, he, AdmittedAuthority.validateRemoval, Check.seq_eq_ok,
    Check.rejectIf_eq_ok, not_or, not_not] at hvalid
  obtain ⟨-, -, -, -, -, hscale, -⟩ := hvalid
  exact hscale

variable {localProgress : Int}

omit [Sha256] in
/-- A tracker has witnesses only of the authority that it is configured with: another authority
clears them, unless it completes an increase, which has none. -/
theorem witnesses_of_configure {w : SecondaryRemovalWitness} (h : CreditInvariant t)
    (hw : (t.configurePrevalidated a localProgress).witnesses.get? identity = some w) :
    t.authority = some a ∧ t.witnesses.get? identity = some w := by
  simp only [configurePrevalidated, supersede] at hw
  split_ifs at hw with hother hcompletion
  · obtain ⟨existing, hexisting, hremoval, -⟩ := h.removal identity w hw
    rw [hexisting] at hcompletion
    simp only [Option.any_some, Bool.and_eq_true, ManagedReplicaConfiguration.isCurrentOnlyCompletionOf,
      beq_iff_eq] at hcompletion
    obtain ⟨hscale, ⟨-, heq⟩, -⟩ := hcompletion
    rw [heq, h.exclusive existing hexisting hremoval] at hscale
    cases hscale
  · simp at hw
  · obtain ⟨existing, hexisting, -⟩ := h.removal identity w hw
    refine ⟨?_, hw⟩
    by_contra hne
    exact hother ⟨by simp [hexisting], hne⟩

omit [Sha256] in
theorem liveCommits_of_configure {c : SecondaryScaleDownCleanup}
    (hc : (t.configurePrevalidated a localProgress).liveCommits.get? identity = some c) :
    t.liveCommits.get? identity = some c ∧
      (t.configurePrevalidated a localProgress).witnesses = t.witnesses := by
  simp only [configurePrevalidated, supersede] at hc ⊢
  split_ifs at hc ⊢
  · exact ⟨hc, rfl⟩
  · simp at hc
  · exact ⟨hc, rfl⟩

omit [Sha256] in
theorem sessions_of_configure :
    (t.configurePrevalidated a localProgress).sessions.get? identity =
      if a.containsMember identity then t.sessions.get? identity else none := by
  have hkept : (t.supersede a).sessions = t.sessions := by
    unfold supersede
    split_ifs <;> rfl
  simp only [configurePrevalidated, hkept, AssocMap.get?_retain,
    ManagedReplicaConfiguration.mem_members_iff]
  cases t.sessions.get? identity <;> simp [Option.filter]

omit [Sha256] in
theorem verified_of_configure_same (ha : t.authority = some a) :
    (t.configurePrevalidated a localProgress).verified = t.verified := by
  simp [configurePrevalidated, supersede, ha]

theorem configure (localProgress : Int) (ha : a.Validated) (h : CreditInvariant t) :
    CreditInvariant (t.configurePrevalidated a localProgress) := by
  refine ⟨⟨?_, ?_⟩, ?_, ?_, ?_⟩
  · intro i c hc
    obtain ⟨hc, hwitnesses⟩ := liveCommits_of_configure hc
    rw [hwitnesses]
    exact h.live i c hc
  · intro i w hw
    obtain ⟨hauthority, hw⟩ := h.witnesses_of_configure hw
    obtain ⟨hid, hverified, hsession⟩ := h.witness i w hw
    -- The sessions of the members of the same authority are all kept.
    obtain ⟨a', ha', hmember⟩ := h.session i _ hsession
    cases hauthority.symm.trans ha'
    rw [verified_of_configure_same hauthority, sessions_of_configure, if_pos hmember]
    exact ⟨hid, hverified, hsession⟩
  · intro i s hs
    rw [sessions_of_configure] at hs
    split_ifs at hs with hmember
    exact ⟨a, rfl, hmember⟩
  · intro i w hw
    obtain ⟨hauthority, hw⟩ := h.witnesses_of_configure hw
    obtain ⟨a', ha', hremoval⟩ := h.removal i w hw
    cases hauthority.symm.trans ha'
    exact ⟨a, rfl, hremoval⟩
  · intro a' ha'
    cases ha'
    exact exclusive_of_validated ha

omit [Sha256] in
theorem reset (localIdentity : ReplicaIdentity) (currentProgress committedLsn : Int)
    (hlive : ∀ identity, t.liveCommits.get? identity = none) (h : CreditInvariant t) :
    CreditInvariant (t.resetProgressAfterDataLoss localIdentity currentProgress committedLsn) := by
  refine ⟨⟨?_, ?_⟩, ?_, ?_, h.exclusive⟩
  · intro i c hc
    exact absurd hc (by simp [resetProgressAfterDataLoss, failPending, drainPending, release, hlive])
  all_goals simp [resetProgressAfterDataLoss]

end CreditInvariant

/-- A run whose resets find no live commit keeps the credit with the registered sessions. -/
theorem creditInvariant_run {ops : List TrackerOp} (hvalid : ∀ op ∈ ops, op.Valid)
    (hreset : ∀ pre localIdentity currentProgress committedLsn,
      pre ++ [.resetProgressAfterDataLoss localIdentity currentProgress committedLsn] <+: ops →
      ∀ identity, (run pre).liveCommits.get? identity = none) : CreditInvariant (run ops) := by
  induction ops using List.reverseRecOn with
  | nil => exact .of_empty
  | append_singleton ops op ih =>
    have h := ih (fun op' hop' => hvalid op' (List.mem_append_left _ hop'))
      fun pre l p c hpre => hreset pre l p c (hpre.trans (List.prefix_append _ _))
    rw [run_append_singleton]
    refine apply_rule (fun _ _ hsame ht => ht.congr hsame)
      (fun _ _ _ _ ht ha hmember _ => ht.withSession ha hmember) (fun _ lsn ht => ht.verifiedLocal lsn)
      ?_ ?_ ?_ ?_ h
    · intro t a evidence w ht ha he hok
      simp only [RefusesWitness, not_or, not_not] at hok
      exact ht.credit ha (by simp [he]) hok.1 hok.2.1
    · intro t a w c ht ha hok
      simp only [RefusesProgress, not_or, not_not] at hok
      obtain ⟨-, hremoval, -, hlocal, hsession, -⟩ := hok
      exact (ht.credit ha (by simp [hremoval]) hlocal hsession).addLive
    · rintro a localProgress rfl
      exact h.configure localProgress (hvalid (.configurePrevalidated a localProgress) (by simp))
    · rintro l p c rfl
      exact h.reset l p c (hreset ops l p c List.prefix_rfl)

/-! ## A replaced session never comes back -/

/-- The session of the peer has been replaced. -/
def Replaced (identity : ReplicaIdentity) (session : ProcessSessionId) (t : QuorumTracker) : Prop :=
  (identity, session) ∈ t.obsoleteSessions ∧ t.sessions.get? identity ≠ some session

omit [Sha256] in
theorem Replaced.configure (a : ManagedReplicaConfiguration) (localProgress : Int)
    (h : Replaced identity session t) :
    Replaced identity session (t.configurePrevalidated a localProgress) := by
  refine ⟨?_, ?_⟩
  · have hkept : (t.supersede a).obsoleteSessions = t.obsoleteSessions := by
      unfold supersede
      split_ifs <;> rfl
    simpa only [configurePrevalidated, hkept] using h.1
  · rw [CreditInvariant.sessions_of_configure]
    split_ifs
    · exact h.2
    · simp

theorem Replaced.apply (op : TrackerOp) (h : Replaced identity session t) :
    Replaced identity session (t.apply op) := by
  refine apply_rule (P := Replaced identity session) ?_ ?_ ?_ (fun _ _ _ _ ht _ _ _ => ht)
    (fun _ _ _ _ ht _ _ => ht) (fun a l _ => h.configure a l) ?_ h
  · intro t t' hsame ht
    rw [Replaced, hsame.obsoleteSessions, hsame.sessions]
    exact ht
  · intro t a i s ht _ _ hnew
    refine ⟨?_, ?_⟩
    · simp [withSession, ht.1]
    · by_cases hi : identity = i
      · subst hi
        simp only [withSession, AssocMap.get?_insert_self, ne_eq, Option.some.injEq]
        rintro rfl
        exact hnew ht.1
      · simpa [withSession, hi] using ht.2
  · intro t lsn ht
    unfold recordVerifiedLocalProgress
    split
    · exact ht
    · exact ht
  · intro l p c _
    exact ⟨h.1, by simp [resetProgressAfterDataLoss]⟩

theorem Replaced.run_append {ops : List TrackerOp} (later : List TrackerOp)
    (h : Replaced identity session (run ops)) : Replaced identity session (run (ops ++ later)) := by
  induction later using List.reverseRecOn with
  | nil => simpa using h
  | append_singleton later op ih =>
    rw [← List.append_assoc, run_append_singleton]
    exact ih.apply op

omit [Sha256] in
theorem replaced_of_register {next : ProcessSessionId}
    (hold : t.sessions.get? identity = some session) (hne : session ≠ next)
    (hok : (t.registerPeerSession identity next).1 = .ok ()) :
    Replaced identity session (t.registerPeerSession identity next).2 := by
  unfold registerPeerSession at hok ⊢
  split at hok
  · cases hok
  split_ifs at hok ⊢ with hinvalid hsame
  · rw [hold, Option.some.injEq] at hsame
    exact absurd hsame hne
  · exact ⟨by simp [hold], by simpa using Ne.symm hne⟩

omit [Sha256] in
theorem Replaced.refused (h : Replaced identity session t) :
    (∃ e, (t.registerPeerSession identity session).1 = .error e) ∧
      ∀ ack, ack.receiver = identity → ∃ e, (t.acknowledgeInSession ack session).1 = .error e := by
  refine ⟨?_, ?_⟩
  · unfold registerPeerSession
    split
    · exact ⟨_, rfl⟩
    · rw [if_pos (Or.inr (Or.inr (Or.inr h.1)))]
      exact ⟨_, rfl⟩
  · rintro ack rfl
    rw [acknowledgeInSession, if_pos h.2]
    exact ⟨_, rfl⟩

/-- Quorum credit belongs to the live session.  Along a run, every live commit has its witness and
every witness its verified entry and registered session exactly if no data-loss reset finds a live
commit; and a session that was replaced is never registered or acknowledged again. -/
theorem credit_belongs_to_registered_session {ops : List TrackerOp}
    (hvalid : ∀ op ∈ ops, op.Valid) :
    ((∀ pre, pre <+: ops → (run pre).Credited) ↔
      ∀ pre localIdentity currentProgress committedLsn,
        pre ++ [.resetProgressAfterDataLoss localIdentity currentProgress committedLsn] <+: ops →
        ∀ identity, (run pre).liveCommits.get? identity = none) ∧
    ∀ pre later identity session next,
      pre ++ .registerPeerSession identity next :: later <+: ops →
      (run pre).sessions.get? identity = some session → session ≠ next →
      ((run pre).registerPeerSession identity next).1 = .ok () →
        let t := run (pre ++ .registerPeerSession identity next :: later)
        t.sessions.get? identity ≠ some session ∧
          (∃ e, (t.registerPeerSession identity session).1 = .error e) ∧
          ∀ ack, ack.receiver = identity →
            ∃ e, (t.acknowledgeInSession ack session).1 = .error e := by
  refine ⟨⟨?_, ?_⟩, ?_⟩
  · intro hcredited pre l p c hpre identity
    rw [Option.eq_none_iff_forall_ne_some]
    intro commit hcommit
    -- The reset keeps the live commit and drops every witness.
    have hafter := hcredited _ hpre
    rw [run_append_singleton] at hafter
    obtain ⟨w, hw⟩ := hafter.live identity commit hcommit
    cases hw
  · intro hreset pre hpre
    have h := creditInvariant_run (fun op hop => hvalid op (hpre.subset hop))
      fun pre' l p c hpre' => hreset pre' l p c (hpre'.trans hpre)
    exact h.toCredited
  · intro pre later identity session next _ hold hne hok
    have hreplaced : Replaced identity session
        (run (pre ++ [.registerPeerSession identity next])) := by
      rw [run_append_singleton]
      exact replaced_of_register hold hne hok
    have hlater := hreplaced.run_append later
    rw [List.append_assoc, List.singleton_append] at hlater
    exact ⟨hlater.2, hlater.refused⟩

end QuorumTracker

end

namespace QuorumTracker

/-! ## A reset with a live commit

The primary 3 of the reduced configuration takes credit for a report of replica 1 after the commit,
and then resets its progress. -/

namespace LiveCommitReset

attribute [local instance] checksum

open ThreeToTwo

def authority : AdmittedAuthority where
  localIdentity := identity 3
  transitionKind := none
  previousConfiguration := none
  currentConfiguration := intent.currentConfiguration
  switchoverHandoff := none
  secondaryRemoval := some cleanup.evidence
  scaleUp := none

def observed : List TrackerOp :=
  [.configurePrevalidated authority.managed 7, .registerPeerSession (identity 1) "session",
    .observeSecondaryRemovalProgress (witnessAt .currentOnly 5 1) cleanup]

def reset : List TrackerOp := observed ++ [.resetProgressAfterDataLoss (identity 3) 7 7]

theorem reset_valid : ∀ op ∈ reset, op.Valid := by
  have hvalid : authority.validate = .ok () := by decide +kernel
  simp only [reset, observed, List.cons_append, List.nil_append, List.forall_mem_cons,
    List.not_mem_nil, false_imp_iff, implies_true, and_true]
  exact ⟨⟨authority, hvalid, rfl⟩, trivial, trivial, trivial⟩

theorem liveCommit_without_witness : (∀ op ∈ reset, op.Valid) ∧ ¬(run reset).Credited := by
  have hlive : (run reset).liveCommits.get? (identity 1) = some cleanup := by decide +kernel
  refine ⟨reset_valid, fun h => ?_⟩
  obtain ⟨w, hw⟩ := h.live _ _ hlive
  have hnone : (run reset).witnesses.get? (identity 1) = none := by decide +kernel
  rw [hnone] at hw
  cases hw

theorem credit_belongs_to_registered_session_observed :
    (∀ op ∈ observed, op.Valid) ∧ (run observed).Credited := by
  have hvalid : ∀ op ∈ observed, op.Valid :=
    fun op hop => reset_valid op (List.mem_append_left _ hop)
  refine ⟨hvalid, (credit_belongs_to_registered_session hvalid).1.2 ?_ _ List.prefix_rfl⟩
  intro pre l p c hpre
  have hmem : TrackerOp.resetProgressAfterDataLoss l p c ∈ observed := hpre.subset (by simp)
  simp [observed] at hmem

end LiveCommitReset

end QuorumTracker

end Kuberic
