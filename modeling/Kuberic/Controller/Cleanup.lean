import Kuberic.Controller.Commands

/-!
# Exact resources

Resources of a removed incarnation are identified by their frozen uid.  `absent` says when an exact
lookup proves that the frozen resource is gone, `observed` when it says anything about it at all.
-/

namespace Kuberic.Controller

variable [Sha256]

namespace SecondaryScaleDown

/-- The only exact lookup of the resources of a replica. -/
def resources (s : ObservationSnapshot) (target : ReplicaIdentity) :
    Option SecondaryScaleDownResourceObservation :=
  ObservationSnapshot.single (s.secondaryScaleDownResources.filter fun r =>
    r.resourceUid = s.resourceUid ∧ r.target = target)

def absent : CleanupResourceIdentity → ExactResourceObservation → Bool
  | _, .notFound => true
  | .present _ uid, .replacementPresent replacement resourceVersion =>
    replacement ≠ "" ∧ replacement ≠ uid ∧ resourceVersion ≠ ""
  -- A resource absent at admission grants no authority over a later occupant.
  | .absent _, .replacementPresent uid resourceVersion => uid ≠ "" ∧ resourceVersion ≠ ""
  | _, _ => false

/-- The lookup found the frozen uid. -/
def frozenPresent : CleanupResourceIdentity → ExactResourceObservation → Bool
  | .present _ _, .frozenUidPresent resourceVersion => resourceVersion ≠ ""
  | _, _ => false

def observed (identity : CleanupResourceIdentity) (observation : ExactResourceObservation) : Bool :=
  absent identity observation || frozenPresent identity observation

/-- Every resource of an exact lookup was found or proved absent. -/
def allObserved (r : SecondaryScaleDownResourceObservation) : Bool :=
  observed r.identity.pod r.pod && observed r.identity.pvc r.pvc &&
    observed r.identity.endpoint r.endpoint

end SecondaryScaleDown

namespace ReplacementCleanup

open SecondaryScaleDown

def transitionId (s : ObservationSnapshot) (kind : TransitionKind)
    (current : ConfigurationDescriptor) : TransitionId :=
  match s.status.pendingReplacementCleanup.filter fun c => ¬current.HasMember c.target with
  | some cleanup => cleanup.transitionId kind current.configurationId
  | none => deriveTransitionId s.resourceUid kind current.configurationId

end ReplacementCleanup

end Kuberic.Controller
