import Kuberic.Controller.Failover

/-!
# Replacement of a secondary

A replacement is provisioned outside the authority.  Then a transition of equal cardinality exchanges
the failed member for it.
-/

namespace Kuberic.Controller

variable [Sha256]

section Transition

variable (s : ObservationSnapshot) (transition : TransitionIntent)
  (previous current : ConfigurationDescriptor) (primary : ConfigurationMember)

/-- The reports under the authority of the pair, whatever identity they carry. -/
def replacementPcCcReports : List AgentReport :=
  (configurationUnion previous current).filterMap fun m =>
    (s.reportAt m.identity).filter fun r => r.At (some previous) current

/-- Members in the order of their commands, the primary last. -/
def primaryLast (members : List ConfigurationMember) : List ConfigurationMember :=
  members.filter (fun m => m.identity ≠ primary.identity) ++ [primary]

def replacementInstall : Option Plan :=
  (primaryLast primary (configurationUnion previous current)).findSome? fun member => do
    let report ← s.reportAt member.identity
    let operationId := replacementInstallOperationId transition member
    if report.At (some previous) current ∧ report.pendingOperationId = none ∧
        report.retainedOperationId = some operationId then none
    else some (.execute (.ensureConfiguration (replacementConfigurationCommand previous current
      member transition.effectivePolicy operationId (member.identity = primary.identity) false
      none)))

def replacementActivate : Option Plan :=
  (primaryLast primary current.members).findSome? fun member => do
    let report ← s.reportAt member.identity
    let grant : Bool := member.identity = primary.identity
    let operationId := replacementCurrentOnlyOperationId transition member
    if ¬report.At (some previous) current ∧ ¬report.At none current then
      some (.execute (.ensureConfiguration (replacementConfigurationCommand previous current member
        transition.effectivePolicy (replacementInstallOperationId transition member) grant false
        none)))
    else if report.At none current ∧ report.pendingOperationId = none ∧
        report.retainedOperationId = some operationId then none
    else some (.execute (.ensureConfiguration (replacementConfigurationCommand previous current
      member transition.effectivePolicy operationId grant true transition.buildId)))

/-- The reports under the current configuration alone, whatever identity they carry. -/
def replacementCurrentOnlyReports : List AgentReport :=
  current.members.filterMap fun m => (s.reportAt m.identity).filter fun r => r.At none current

def acceptReplacement : AcceptedStatus :=
  let accepted := clearEvaluatorConditions s.status
  { accepted with
    observedGeneration := transition.specGeneration
    topology := some ⟨current⟩
    transition := none
    lastReplacement := accepted.pendingReplacementCleanup
    pendingReplacementCleanup := none }

end Transition

def evaluateReplacementTransition (s : ObservationSnapshot) (transition : TransitionIntent)
    (status : AcceptedStatus) (config : EvaluationConfig) : Eval Plan := do
  let previous ← s.status.accepted
  let current := transition.currentConfiguration
  let primary ← current.primaryById?
  let pcCc := replacementPcCcReports s previous current
  let primaryPcCc := pcCc.find? fun r => r.identity = primary.identity
  let currentOnlyStarted := current.members.any fun m =>
    (s.reportAt m.identity).any fun r => r.At none current
  let currentOnlyPhase := currentOnlyStarted || ((primaryPcCc.any (·.catchUpComplete)) &&
    configurationReportQuorum previous pcCc && configurationReportQuorum current pcCc)
  if !currentOnlyPhase then
    return (replacementInstall s transition previous current primary).getD
      (.wait .activeTransition status config.waitRequeueSeconds)
  if let some plan := replacementActivate s transition previous current primary then
    return plan
  let reports := replacementCurrentOnlyReports s current
  if (reports.any fun r => r.identity = primary.identity ∧ r.writeStatus = .granted) &&
      configurationReportQuorum current reports then
    return persist ((acceptReplacement s transition current).withCondition
      (progressingCondition "ReplacementTopologyAccepted"
        "Accepted the equal-cardinality replacement topology"))
  return .wait .activeTransition status config.waitRequeueSeconds

end Kuberic.Controller
