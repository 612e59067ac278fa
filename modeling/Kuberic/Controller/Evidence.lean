import Kuberic.Controller.Plan

/-!
# What a snapshot proves about replicas

The tests that the evaluator makes on a snapshot before it decides: whether a replica has failed,
which reports are healthy or exact, whether the reports at hand are a quorum of a configuration, and
which report wins an election.
-/

namespace Kuberic

/-! ## One report -/

def AgentReport.Faulted (r : AgentReport) : Prop := r.reportedFault = some .permanent

instance (r : AgentReport) : Decidable r.Faulted := by
  unfold AgentReport.Faulted
  infer_instance

/-- The report has exactly the authority of the pair. -/
def AgentReport.At (r : AgentReport) (previous : Option ConfigurationDescriptor)
    (current : ConfigurationDescriptor) : Prop :=
  r.epoch = current.epoch ∧ r.previousConfiguration = previous ∧
    r.currentConfiguration = some current

instance (r : AgentReport) (previous : Option ConfigurationDescriptor)
    (current : ConfigurationDescriptor) : Decidable (r.At previous current) := by
  unfold AgentReport.At
  infer_instance

/-- What the reports of an election are compared by. -/
def AgentReport.electionRank (r : AgentReport) : Epoch ×ₗ Int ×ₗ Int ×ₗ Int ×ₗ Int :=
  toLex (r.deactivationEpoch.getD default, toLex (r.deactivatedLsn.getD 0,
    toLex (r.currentProgress, toLex (r.committedLsn, -r.identity.replicaId))))

namespace Controller

/-! ## One replica -/

section Replica

variable (s : ObservationSnapshot)

/-- The agent of an observation reports that it is healthy. -/
def agentHealthy (agent : AgentObservation) : Bool :=
  agent.report?.any fun r => r.healthy && decide (¬r.Faulted)

def replicaFailed (identity : ReplicaIdentity) : Bool :=
  match s.observationForIdentity identity with
  | none => true
  | some o => if agentHealthy o.agent then o.kubernetes.any fun k => !k.podReady else true

def healthyReport (identity : ReplicaIdentity) : Option AgentReport :=
  (s.observationForIdentity identity).bind fun o =>
    if o.kubernetes.any fun k => k.podReady && k.peerEndpointReady then
      o.agent.report?.filter fun r => r.healthy && decide (¬r.Faulted)
    else none

/-- The report observed under an identity that also carries it. -/
def exactReport (identity : ReplicaIdentity) : Option AgentReport :=
  (s.reportAt identity).filter fun r => r.identity = identity

end Replica

/-! ## Configurations -/

/-- The primary member; the source panics if there is none. -/
def configurationPrimary (c : ConfigurationDescriptor) : Eval ConfigurationMember := c.namedPrimary?

def configurationUnion (previous current : ConfigurationDescriptor) : List ConfigurationMember :=
  (previous.members ++ current.members).foldl (fun members m =>
    if members.any fun existing => existing.identity = m.identity then members
    else members ++ [m]) []

def availableUnionReports (s : ObservationSnapshot) (previous current : ConfigurationDescriptor) :
    List AgentReport :=
  (configurationUnion previous current).filterMap fun m => healthyReport s m.identity

/-- How many members of a configuration a list of reports covers. -/
def reportedMembers (c : ConfigurationDescriptor) (reports : List AgentReport) : Nat :=
  c.members.countP fun m => reports.any fun r => r.identity = m.identity

def configurationReadQuorum (c : ConfigurationDescriptor) (reports : List AgentReport)
    (readQuorum : Nat) : Bool :=
  readQuorum ≤ reportedMembers c reports

def configurationReportQuorum (c : ConfigurationDescriptor) (reports : List AgentReport) : Bool :=
  c.writeQuorum ≤ reportedMembers c reports

def configurationCannotRegainReadQuorum (s : ObservationSnapshot) (c : ConfigurationDescriptor)
    (readQuorum : Nat) : Bool :=
  decide ((c.members.countP fun m =>
    !(s.reportAt m.identity).any fun r => r.Faulted) < readQuorum)

def configurationDeactivationQuorum (c : ConfigurationDescriptor) (reports : List AgentReport)
    (readQuorum : Nat) (epoch : Epoch) : Bool :=
  readQuorum ≤ c.members.countP fun m => reports.any fun r =>
    decide (r.identity = m.identity ∧ r.deactivationEpoch = some epoch) && r.deactivatedLsn.isSome

/-- An exact, idle member of an accepted configuration. -/
def stableMemberReport (r : AgentReport) (m : ConfigurationMember) (c : ConfigurationDescriptor) :
    Bool :=
  r.identity = m.identity ∧ r.role = m.role ∧ r.epoch = c.epoch ∧ r.previousConfiguration = none ∧
    r.currentConfiguration = some c ∧ r.pendingOperationId = none

/-! ## Elections -/

/-- A report that may win an election of a configuration. -/
def electable (c : ConfigurationDescriptor) (r : AgentReport) : Bool :=
  c.HasMember r.identity ∧
    (r.writeStatus ≠ .granted ∨
      (r.identity.replicaId = c.primaryId ∧ r.deactivationEpoch = some c.epoch)) ∧
    (r.role ≠ .primary ∨ r.identity.replicaId = c.primaryId)

def selectFailoverCandidate (c : ConfigurationDescriptor) (reports : List AgentReport) :
    Option AgentReport :=
  (reports.filter (electable c)).lastMax AgentReport.electionRank

def configurationWithPrimary [Sha256] (c : ConfigurationDescriptor) (primary : ReplicaIdentity)
    (epoch : Epoch) : ConfigurationDescriptor :=
  .new epoch primary.replicaId (c.members.map fun m => ⟨m.identity,
    if m.identity = primary then .primary else .activeSecondary⟩) c.writeQuorum

/-! ## The requested spec -/

/-- In what the observed members and the frozen policy differ from the requested spec. -/
def specDifferences (s : ObservationSnapshot) (c : ConfigurationDescriptor)
    (policy : EffectivePolicy) : List String :=
  (if s.desired.replicas ≠ policy.replicaSetSize then
    ["requested replica count " ++ toString s.desired.replicas ++
      " differs from frozen replica-set size " ++ toString policy.replicaSetSize] else []) ++
  (if s.desired.failoverDelaySeconds ≠ policy.failoverDelaySeconds then
    ["requested failover delay " ++ toString s.desired.failoverDelaySeconds ++
      " differs from frozen delay " ++ toString policy.failoverDelaySeconds] else []) ++
  c.members.filterMap fun m =>
    (((s.kubernetesAt m.identity).bind (·.image)).filter (· ≠ s.desired.image)).map fun image =>
      "replica " ++ toString m.identity.replicaId ++ " runs image " ++ image ++
        " instead of requested image " ++ s.desired.image

def desiredSpecState (s : ObservationSnapshot) (c : ConfigurationDescriptor)
    (policy : EffectivePolicy) : Bool × Option StatusCondition :=
  let differences := specDifferences s c policy
  if differences = [] then
    (c.members.all fun m => ((s.kubernetesAt m.identity).bind (·.image)).isSome, none)
  else if differences.length = 1 ∧ s.desired.replicas ≠ policy.replicaSetSize then
    (false, some (unsupportedReplicaCountCondition s.desired.replicas policy.replicaSetSize))
  else (false, some ⟨"UnsupportedSpec", .true, "SpecDriftUnsupported",
    "; ".intercalate differences⟩)

end Controller

end Kuberic
