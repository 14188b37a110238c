import Reconcile.Conflict.Json
import Reconcile.Diff.Json
import Reconcile.Layout
import Reconcile.Pattern.Match
import Reconcile.Pattern.Parser
import Reconcile.Proofs.Conflict.Entries
import Reconcile.Proofs.Conflict.Gate
import Reconcile.Proofs.Diff.Ignored
import Reconcile.Proofs.Diff.Progress
import Reconcile.Proofs.Diff.Rounds
import Reconcile.Proofs.Diff.Swap
import Reconcile.Proofs.FileSystem.Chunks
import Reconcile.Proofs.Json.RoundTrip
import Reconcile.Proofs.Layout.Cleanup
import Reconcile.Proofs.Manifest.Pair
import Reconcile.Proofs.Manifest.Respelled
import Reconcile.Proofs.Manifest.RoundTrip
import Reconcile.Proofs.Order
import Reconcile.Proofs.Registry.Closed
import Reconcile.Proofs.Registry.Lookup
import Reconcile.Proofs.Retrieve.Apply
import Reconcile.Proofs.Retrieve.Converge
import Reconcile.Proofs.Retrieve.Emptied
import Reconcile.Proofs.Retrieve.Stop
import Reconcile.Proofs.Retrieve.Unasked
import Reconcile.Proofs.Walk.Followed
import Reconcile.Proofs.Walk.Ignored
import Reconcile.Registry.Bundled
import Reconcile.Registry.Json
import Reconcile.Retrieve
