import Kuberic.Replicator.Readiness
import Kuberic.Runtime.VerifiedProgress
import Kuberic.Runtime.Receiving
import Kuberic.Replicator.Sender
import Kuberic.Runtime.BuildRun
import Kuberic.Runtime.BuildWrites
import Kuberic.Runtime.CopySteps
import Kuberic.Host.Stages
import Kuberic.Host.DatabaseRows
import Kuberic.Dex.ExternalId
import Kuberic.Dex.History
import Kuberic.Dex.DirectRun
import Kuberic.Dex.LostResult
import Kuberic.Controller.Watermarks
import Kuberic.Controller.Transition
import Kuberic.Controller.FencedElection
