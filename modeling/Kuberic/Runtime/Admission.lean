import Kuberic.Runtime.Control

/-!
# Admission of a configuration

A new authority is prepared under the delivery lock, admitted durably and then committed to the
running engine.  Between preparation and commit the engine receives no replication.  The verified
LSN that the new authority starts with is carried over from what the engine has recorded: the same
fence, the same configuration, a completed build, or the certified handoff of a switchover.
-/

namespace Kuberic

open Effect DurableState

variable {σ : Type}

/-! ## Progress carried over to an authority -/

def buildHandoffMatches (build : BuildAuthority) (a : ManagedReplicaConfiguration) : Bool :=
  a.currentConfiguration.hasIdentity build.target && a.primaryIdentity == some build.source &&
    match build.kind with
    | .bootstrap => a.previousConfiguration.isNone &&
        a.currentConfiguration.configurationId == build.currentConfiguration.configurationId
    | .provisioning => a.buildKind == .provisioning &&
        ((a.previousConfiguration.any fun previous =>
            previous.configurationId == build.currentConfiguration.configurationId) ||
          (a.previousConfiguration.isNone && a.scaleUp.any fun evidence =>
            evidence.intent.previousConfiguration == build.currentConfiguration &&
              evidence.intent.currentConfiguration == a.currentConfiguration)) &&
        a.scaleUp.all fun evidence => evidence.intent.buildId == build.buildId &&
          evidence.intent.primary == build.source && evidence.intent.target == build.target &&
          evidence.intent.snapshotBoundaryLsn == build.replicationBoundaryLsn &&
          evidence.intent.previousConfiguration == build.currentConfiguration
    | .failover => a.buildKind == .failover && a.previousConfiguration.isSome &&
        a.currentConfiguration.configurationId == build.currentConfiguration.configurationId

def completedBuildHandoffLsn (progress : BuildProgress) (a : ManagedReplicaConfiguration) :
    Option Int :=
  if !progress.completed || !buildHandoffMatches progress.authority a then none
  else
    let required := (a.scaleUp.map fun evidence => evidence.intent.catchUpBoundaryLsn).getD
      (progress.catchUpBoundaryLsn.getD progress.authority.replicationBoundaryLsn)
    let boundaryMatches := if a.scaleUp.isSome then progress.catchUpBoundaryLsn == some required
      else progress.catchUpBoundaryLsn.all (· == required)
    if boundaryMatches && decide (required ≤ progress.durableLsn) then some progress.durableLsn
    else none

/-- The build that the evidence of a membership increase names has reached its boundary here. -/
def Engine.scaleUpHandoffLsn (e : Engine σ) (a : ManagedReplicaConfiguration) : Option Int :=
  a.scaleUp.bind fun evidence =>
    let intent := evidence.intent
    if intent.target ≠ e.identity then none
    else (e.buildStore.get? intent.buildId).bind fun build =>
      if build.completed ∧ build.authority.source = intent.primary ∧
          build.authority.target = intent.target ∧
          build.authority.currentConfiguration = intent.previousConfiguration ∧
          build.authority.replicationBoundaryLsn = intent.snapshotBoundaryLsn ∧
          build.catchUpBoundaryLsn = some intent.catchUpBoundaryLsn ∧
          intent.catchUpBoundaryLsn ≤ build.durableLsn then some intent.catchUpBoundaryLsn
      else none

/-- Progress under any fence of the current configuration completes a current-only authority. -/
def Engine.currentOnlyHandoffLsn (e : Engine σ) (a : ManagedReplicaConfiguration) : Option Int :=
  if a.previousConfiguration.isNone then
    e.configurationProgress a.currentConfiguration.epoch a.currentConfiguration.configurationId
  else none

/-- Members of both configurations keep their progress while the primary stays the same. -/
def Engine.samePrimaryHandoffLsn (e : Engine σ) (a : ManagedReplicaConfiguration) : Option Int :=
  a.previousConfiguration.bind fun previous =>
    let primaryOf := fun c : ConfigurationDescriptor =>
      (c.members.find? fun m => m.identity.replicaId == c.primaryId).map (·.identity)
    if previous.primaryId = a.currentConfiguration.primaryId ∧ (primaryOf previous).isSome ∧
        primaryOf previous = primaryOf a.currentConfiguration ∧
        previous.hasIdentity e.identity ∧ a.currentConfiguration.hasIdentity e.identity then
      e.progressStore.get? ⟨previous.epoch, none, previous.configurationId⟩
    else none

/-- The prefix that the certificate of a switchover covers. -/
def Engine.switchoverHandoffLsn (e : Engine σ) (a : ManagedReplicaConfiguration) :
    Result (Option Int) :=
  match a.switchoverHandoff with
  | none => .ok none
  | some handoff =>
    let storedProgress :=
      (e.progressStore.get? ⟨handoff.startingEpoch, none, handoff.startingConfigurationId⟩).getD 0
    let configurationProgress :=
      (e.configurationProgress handoff.startingEpoch handoff.startingConfigurationId).getD 0
    let startingProgress := if e.identity = handoff.source then e.currentProgress
      else max storedProgress configurationProgress
    if a.primaryIdentity = some e.identity ∧ startingProgress < handoff.handoffLsn then
      .error (.authorityMismatch "new switchover primary lacks the certified handoff prefix")
    else .ok (some (min startingProgress handoff.handoffLsn))

/-- The highest completed build that hands over to the authority. -/
def Engine.buildHandoffLsn (e : Engine σ) (a : ManagedReplicaConfiguration) : Option Int :=
  ((e.builds.values.filter fun build => build.authority.target == e.identity).filterMap
    (completedBuildHandoffLsn · a)).max?

/-- Raise an LSN to one that is handed over, if any. -/
def raiseTo (lsn : Int) (handoff : Option Int) : Int := handoff.elim lsn (max lsn)

def loadReplicationProgressWithHandoff (a : ManagedReplicaConfiguration) :
    EngineM σ ReplicationProgress := do
  let e ← observe
  let stored := (e.progressStore.get? a.fence).getD 0
  let switchover ← ofExcept (e.switchoverHandoffLsn a)
  let verifiedLsn := [e.scaleUpHandoffLsn a, e.currentOnlyHandoffLsn a, e.samePrimaryHandoffLsn a,
    switchover, e.buildHandoffLsn a].foldl raiseTo stored
  require (¬ a.secondaryRemoval.any fun evidence =>
      e.identity == evidence.preparation.intent.primary &&
        (decide (verifiedLsn < evidence.preparation.boundaryLsn) ||
          decide (e.currentProgress < evidence.preparation.boundaryLsn)))
    (.authorityMismatch "reduced primary lacks its verified durable preparation boundary")
  recordReplicationProgress ⟨a.fence, verifiedLsn⟩
  pure ⟨a.fence, verifiedLsn⟩

/-- `load_completed_build_handoffs`. -/
def Engine.completedBuildHandoffs (e : Engine σ) (a : ManagedReplicaConfiguration) :
    List (ReplicaIdentity × Int) :=
  if a.localRole ≠ some .primary then []
  else
    let outbound := e.outboundBuilds.values.filterMap fun build =>
      (completedBuildHandoffLsn build.progress a).map fun lsn =>
        (build.progress.authority.target, lsn)
    match a.scaleUp.bind fun evidence => e.buildStore.get? evidence.intent.buildId with
    | none => outbound
    | some progress => match completedBuildHandoffLsn progress a with
      | none => outbound
      | some lsn => if outbound.any fun (identity, _) => identity == progress.authority.target
        then outbound else outbound ++ [(progress.authority.target, lsn)]

/-! ## Preparation -/

def preservesSamePrimaryScaleUpAccess (existing next : ManagedReplicaConfiguration) : Bool :=
  (next.scaleUp.any fun evidence => match evidence with
    | .admission _ => true
    | .failover _ => false) &&
    existing.primaryIdentity == next.primaryIdentity &&
    next.primaryIdentity == some next.localIdentity &&
    existing.localIdentity == next.localIdentity

/-- The checks on the evidence of a secondary removal, which a recovering engine skips. -/
def validateRemovalCandidate (a : ManagedReplicaConfiguration) : EngineM σ Unit := do
  let e ← observe
  match a.secondaryRemoval with
  | none => pure ()
  | some evidence =>
    let intent := evidence.preparation.intent
    let existing ← demand e.authority .authorityNotAdmitted
    require (existing.secondaryRemoval.map (·.preparation) = some evidence.preparation ∨
        (existing.previousConfiguration.isNone ∧
          existing.currentConfiguration = intent.previousConfiguration))
      (.authorityMismatch "reduction does not extend installed current-only configuration")
    let accepted := e.acceptedSecondaryRemoval.any fun c => c.evidence == evidence &&
      a.previousConfiguration.isNone && a.currentConfiguration == intent.currentConfiguration
    require (e.identity ≠ intent.primary ∨ accepted = true ∨
        (e.preparedSecondaryRemoval = some evidence.preparation ∧
          evidence.preparation.boundaryLsn ≤ e.currentProgress ∧
          e.replicationProgress.any fun p => decide (evidence.preparation.boundaryLsn ≤ p.verifiedLsn)))
      (.authorityMismatch "primary lacks exact durable preparation")

/-- A prepared removal only rolls forward. -/
def validatePreparedRemoval (a : ManagedReplicaConfiguration) : EngineM σ Unit := do
  let e ← observe
  require (¬ e.preparedSecondaryRemoval.any fun preparation =>
      a.secondaryRemoval.map (·.preparation) != some preparation &&
        e.acceptedSecondaryRemoval.all fun committed =>
          committed.evidence.preparation != preparation)
    (.authorityMismatch "prepared removal may only roll forward")

def validateManagedConfigurationCandidate (a : ManagedReplicaConfiguration) (recovering : Bool) :
    EngineM σ Unit := do
  ofExcept a.validate
  let e ← observe
  require (a.localIdentity = e.identity)
    (.authorityMismatch "configuration target differs from runtime identity")
  require (¬ (a.scaleUp.any (fun evidence => match evidence with
      | .failover _ => true
      | .admission _ => false) ∧ e.authority.isNone ∧ recovering = false)) .authorityNotAdmitted
  require (¬ e.authority.any fun existing => decide (a.epoch < existing.epoch) ||
      (a.epoch == existing.epoch && existing != a && !a.isCurrentOnlyCompletionOf existing))
    (.authorityMismatch "configuration changed without a newer epoch")
  onlyIf (recovering = false) (validateRemovalCandidate a)
  onlyIf (recovering = false) (validatePreparedRemoval a)

theorem checks_validateManagedConfigurationCandidate (a : ManagedReplicaConfiguration)
    (recovering : Bool) (e : Engine σ) :
    Checks e (validateManagedConfigurationCandidate a recovering) fun _ => True := by
  have hR := stepwise_eq (σ := Engine σ)
  refine Along.checks ?_ e
  refine hR.bind (hR.ofExcept _) fun _ => hR.bind hR.observe fun _ => ?_
  refine hR.bind (hR.require _ _) fun _ => hR.bind (hR.require _ _) fun _ => ?_
  refine hR.bind (hR.require _ _) fun _ => hR.bind (hR.onlyIf _ ?_) fun _ => hR.onlyIf _ ?_
  · refine hR.bind hR.observe fun _ => ?_
    cases a.secondaryRemoval with
    | none => exact hR.pure _
    | some evidence =>
      refine hR.bind (hR.demand _ _) fun _ => hR.bind (hR.require _ _) fun _ => hR.require _ _
  · exact hR.bind hR.observe fun _ => hR.require _ _

/-- What a preparation hands back, to be presented at the commit. -/
structure ManagedConfigurationPreparation where
  configuration : ManagedReplicaConfiguration
  engineGeneration : Nat
  hostGeneration : Nat

/-- A changed authority fences the deliveries and, unless access is preserved, the writes. -/
def Engine.fenceForConfiguration (e : Engine σ) (changed preserveAccess : Bool) : Engine σ :=
  if !changed then e
  else if preserveAccess then { e with fenceGeneration := e.fenceGeneration + 1 }
  else { e with
    fenceGeneration := e.fenceGeneration + 1
    readStatus := .reconfigurationPending
    writeStatus := .reconfigurationPending
    log := e.log.fenceClientWrites }

/-- `prepare_replica_configuration`: it holds the delivery lock, so no delivery is in flight. -/
def prepareReplicaConfiguration (configuration : ManagedReplicaConfiguration) (hostGeneration : Nat)
    (recovering : Bool) : EngineM σ ManagedConfigurationPreparation := do
  lockDelivery
  checkAborted
  validateManagedConfigurationCandidate configuration recovering
  let e ← observe
  require (¬ e.pendingConfiguration.any (·.active)) .reconfigurationPending
  let preserveAccess := e.authority.any fun current =>
    current == configuration || preservesSamePrimaryScaleUpAccess current configuration
  let authorityChanged := decide (e.authority ≠ some configuration)
  let changed := authorityChanged || decide (e.configurationGeneration ≠ hostGeneration)
  require (e.log.epoch ≤ configuration.epoch) (.authorityMismatch "replicator epoch cannot regress")
  let replicationProgress ← loadReplicationProgressWithHandoff configuration
  let completedBuilds := e.completedBuildHandoffs configuration
  update fun e => e.fenceForConfiguration changed preserveAccess
  let engineGeneration := (← observe).fenceGeneration
  let pending : PendingManagedConfiguration :=
    { configuration := configuration
      engineGeneration := engineGeneration
      hostGeneration := hostGeneration
      active := true
      replicationProgress := replicationProgress
      currentProgress := e.currentProgress
      previousEpoch := e.authority.map (·.epoch)
      priorAccess := (e.readStatus, e.writeStatus)
      authorityChanged := authorityChanged
      preserveAccess := preserveAccess
      completedBuilds := completedBuilds }
  update fun e => { e with pendingConfiguration := some pending }
  pure ⟨configuration, engineGeneration, hostGeneration⟩

/-- `ReplicaAuthorityStore::admit`: the durable authority never goes back to an older epoch. -/
def admitDurably (a : ManagedReplicaConfiguration) : EngineM σ Unit := do
  ofExcept a.validate
  let e ← observe
  require (a.localIdentity = e.identity)
    (.authorityMismatch "retired or mismatched local authority")
  require (¬ e.configuration.any fun existing => existing != a && decide (a.epoch < existing.epoch))
    (.authorityMismatch "replica authority epoch regressed")
  require (¬ e.configuration.any fun existing => existing != a && a.epoch == existing.epoch &&
      !a.isCurrentOnlyCompletionOf existing)
    (.authorityMismatch "replica authority changed without a newer epoch")
  update fun e => { e with configuration := some a }

/-! ## Commit -/

/-- The changes that `install_managed_configuration` makes before the log admits the authority. -/
def Engine.fenceInstalled (e : Engine σ) (p : PendingManagedConfiguration) : Engine σ :=
  let a := p.configuration
  let e := if p.authorityChanged then
      let e := if p.preserveAccess then e else { e with
        readStatus := .reconfigurationPending
        writeStatus := .reconfigurationPending }
      let superseded := a.secondaryRemoval.isNone && e.preparedSecondaryRemoval.any fun prepared =>
        decide (prepared.intent.currentConfiguration.epoch < a.epoch)
      { e with
        preparedSecondaryRemoval := if superseded then none else e.preparedSecondaryRemoval
        removalInProgress := if superseded then none else e.removalInProgress
        acceptedSecondaryRemoval := none }
    else e
  if a.localRole ≠ some .primary then { e with
    writeStatus := .reconfigurationPending
    log := e.log.fenceClientWrites }
  else e

/-- A secondary takes the epoch of its new authority. -/
def adoptEpoch (p : PendingManagedConfiguration) : EngineM σ Unit :=
  onlyIf (p.previousEpoch ≠ some p.configuration.epoch ∧ p.configuration.localRole.any isSecondary)
    (controlUpdateEpoch p.configuration.epoch)

/-- The log admits the authority, and counts the builds that are handed over to it. -/
def admitInLog (log : ReplicationLog) (p : PendingManagedConfiguration) : ReplicationLog :=
  let admitted := log.admitPreparedAuthority p.configuration p.currentProgress p.preserveAccess
  if p.configuration.localRole = some .primary then
    p.completedBuilds.foldl (fun log (identity, lsn) =>
      log.recordPreparedBuildHandoffProgress identity lsn) admitted
  else admitted

def configureAdmittedAuthority (p : PendingManagedConfiguration) : EngineM σ Unit := do
  update fun e => { e with log := admitInLog e.log p }
  onlyIf (p.configuration.localRole = some .primary)
    (configureReplicas p.configuration.currentConfiguration p.configuration.previousConfiguration)

/-- The engine once the log has admitted the authority. -/
def Engine.installed (e : Engine σ) (p : PendingManagedConfiguration) : Engine σ :=
  let a := p.configuration
  let removed := if a.previousConfiguration.isNone then
    a.secondaryRemoval.map fun evidence => evidence.preparation.intent.target else none
  let keepAccess := !p.authorityChanged || p.preserveAccess
  { e with
    log := e.log.recordVerifiedLocalProgress p.replicationProgress.verifiedLsn
    outboundBuilds := match removed with
      | none => e.outboundBuilds
      | some target => e.outboundBuilds.retain fun _ build => build.progress.authority.target != target
    peerRepairTargets := match removed with
      | none => e.peerRepairTargets
      | some target => e.peerRepairTargets.erase target
    readStatus := if keepAccess then p.priorAccess.1 else e.readStatus
    writeStatus := if keepAccess then p.priorAccess.2 else e.writeStatus
    authority := some a
    replicationProgress := some p.replicationProgress }

def installManagedConfiguration (p : PendingManagedConfiguration) : EngineM σ Unit := do
  update fun e => e.fenceInstalled p
  adoptEpoch p
  configureAdmittedAuthority p
  update fun e => e.installed p

/-- `commit_replica_configuration`, up to the recovery of local writes. -/
def commitReplicaConfiguration (preparation : ManagedConfigurationPreparation) :
    EngineM σ Unit := do
  checkAborted
  let e ← observe
  let pending ← demand e.pendingConfiguration .operationCancelled
  require (pending.active = true ∧ pending.configuration = preparation.configuration ∧
      pending.engineGeneration = preparation.engineGeneration ∧
      pending.hostGeneration = preparation.hostGeneration ∧
      preparation.engineGeneration = e.fenceGeneration) .operationCancelled
  installManagedConfiguration pending
  update fun e => { e with
    configurationGeneration := preparation.hostGeneration
    pendingConfiguration := none }

/-- `cancel_configuration_work`, under the delivery lock. -/
def cancelConfigurationWork : EngineM σ Unit := do
  checkAborted
  lockDelivery
  update fun e => { e with
    fenceGeneration := e.fenceGeneration + 1
    pendingConfiguration := none
    log := e.log.fenceClientWrites }

/-- A preparation that is dropped before its commit leaves its configuration inactive, and fences
what started after it. -/
def Engine.dropPreparation (e : Engine σ) (preparation : ManagedConfigurationPreparation) :
    Engine σ :=
  match e.pendingConfiguration with
  | some pending =>
    if pending.active ∧ pending.configuration = preparation.configuration ∧
        pending.engineGeneration = preparation.engineGeneration ∧
        pending.hostGeneration = preparation.hostGeneration then { e with
      fenceGeneration := e.fenceGeneration + 1
      pendingConfiguration := some { pending with active := false } }
    else e
  | none => e

section Storage

variable [DurableState σ]

def authorizeFailoverPrefix (safeLsn : Int) : EngineM σ Unit := do
  checkNoPendingConfiguration
  checkAborted
  let e ← observe
  require (e.removalInProgress.isNone ∧ ¬ e.authority.any (·.secondaryRemoval.isSome))
    (.authorityMismatch "failover prefix cannot certify a secondary removal")
  require (0 ≤ safeLsn) (.authorityMismatch "failover-safe LSN must not be negative")
  let authority ← demand e.authority .authorityNotAdmitted
  let progress ← demand e.replicationProgress .authorityNotAdmitted
  let verifiedLsn := max progress.verifiedLsn (min (appliedLsn e.storage) safeLsn)
  require (progress.fence = authority.fence)
    (.authorityMismatch "failover-safe prefix belongs to another authority fence")
  recordReplicationProgress { progress with verifiedLsn := verifiedLsn }
  update fun e => { e with
    replicationProgress := some { progress with verifiedLsn := verifiedLsn } }

/-- `control_open`, for the committed LSN that the application reports. -/
def controlOpen (committed : Int) : EngineM σ Unit := do
  checkAborted
  let e ← observe
  let progress := durableProgress e.storage
  require (¬ (committed < 0 ∨ committed > progress.appliedLsn ∨ progress.committedLsn < 0 ∨
    progress.committedLsn > progress.appliedLsn)) (.application "state-provider progress is not durable")
  onLog fun log => log.openLog

def completeOpen : EngineM σ Unit :=
  update fun e => { e with
    isOpen := true
    currentProgress := appliedLsn e.storage
    committedLsn := committedLsn e.storage
    localWrites := e.journal.retain fun _ write => write.phase != .committed }

/-- A new process opens its replicator. -/
def openReplicator (committed : Int) : EngineM σ Unit := do
  controlOpen committed
  completeOpen

end Storage

/-- The removal that a new process finds prepared and accepted in its durable store. -/
structure StoredRemoval where
  preparation : Option SecondaryRemovalPreparation
  committed : Option SecondaryScaleDownCleanup

def Engine.restoreRemoval (e : Engine σ) (removal : StoredRemoval)
    (a : ManagedReplicaConfiguration) : Engine σ :=
  let superseded := removal.preparation.any fun p =>
    decide (p.intent.currentConfiguration.epoch < a.epoch)
  { e with
    preparedSecondaryRemoval := if superseded then none else removal.preparation
    removalInProgress := if superseded then none else removal.preparation.map (·.intent)
    acceptedSecondaryRemoval := removal.committed.filter fun c =>
      a.previousConfiguration.isNone && a.secondaryRemoval == some c.evidence }

/-- `restore_authority`: a new process takes the durable authority into force again. -/
def restoreAuthority (removal : StoredRemoval) (hostGeneration : Nat) : EngineM σ Unit := do
  let e ← observe
  match e.configuration with
  | none => update fun e => { e with
      preparedSecondaryRemoval := removal.preparation
      removalInProgress := removal.preparation.map (·.intent) }
  | some authority =>
    update fun e => e.restoreRemoval removal authority
    let preparation ← prepareReplicaConfiguration authority hostGeneration true
    commitReplicaConfiguration preparation

end Kuberic
