import Readiness.Log.Session
import Readiness.Manifest.Load
import Readiness.Pass
import Readiness.Version
import Readiness.Proofs.Condition.Lists
import Readiness.Proofs.Condition.Marks
import Readiness.Proofs.Condition.Repeated
import Readiness.Proofs.Condition.Runs
import Readiness.Proofs.Condition.Transitions
import Readiness.Proofs.Condition.Happy
import Readiness.Proofs.Condition.Recovery
import Readiness.Proofs.Condition.Untracked
import Readiness.Proofs.Sequence.Findings
import Readiness.Proofs.Sequence.Outcome
import Readiness.Proofs.Sequence.Evidence
import Readiness.Proofs.Sequence.Troubles
import Readiness.Proofs.Sequence.Repeat
import Readiness.Proofs.Sequence.Order
import Readiness.Proofs.Sequence.Reports
import Readiness.Proofs.Sequence.Grounds
import Readiness.Proofs.Sequence.Transitions
import Readiness.Proofs.Sequence.Persistence
import Readiness.Proofs.Manifest.Loading
import Readiness.Proofs.Manifest.Failures
import Readiness.Proofs.Manifest.Leaves
import Readiness.Proofs.Calendar.Iso
import Readiness.Proofs.Value.Portable
import Readiness.Proofs.Condition.Seeding
import Readiness.Proofs.Sequence.Mirror
import Readiness.Proofs.Sequence.Stretches
import Readiness.Proofs.Sequence.Calls
import Readiness.Proofs.Manifest.Origins
import Readiness.Proofs.Manifest.Dispatch
import Readiness.Proofs.Condition.Refusals
import Readiness.Proofs.Sequence.History
import Readiness.Proofs.Sequence.Attribution
import Readiness.Proofs.Log.Blocks
import Readiness.Proofs.Log.Lines
import Readiness.Proofs.Resource.ApiVersion
import Readiness.Proofs.Text.Uppercase
import Readiness.Proofs.Defaults.Freezing
import Readiness.Proofs.Log.Configuring
