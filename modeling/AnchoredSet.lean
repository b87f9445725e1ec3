import AnchoredSet.Audit.Call
import AnchoredSet.Proof.Binary
import AnchoredSet.Proof.Record
import AnchoredSet.Settings.Load
import AnchoredSet.Tree
import AnchoredSet.Version
import AnchoredSet.Proofs.Ascending
import AnchoredSet.Proofs.Result
import AnchoredSet.Proofs.Binding
import AnchoredSet.Proofs.Reachable
import AnchoredSet.Proofs.Path
import AnchoredSet.Proofs.Neighbor
import AnchoredSet.Proofs.Exclusion
import AnchoredSet.Proofs.Commitment
import AnchoredSet.Proofs.Shape
import AnchoredSet.Proofs.Members
import AnchoredSet.Proofs.Uniqueness
import AnchoredSet.Proofs.Checked
import AnchoredSet.Proofs.Damage
import AnchoredSet.Proofs.Gap
import AnchoredSet.Proofs.Equality
import AnchoredSet.Proofs.Binary
import AnchoredSet.Proofs.Hex
import AnchoredSet.Proofs.Record
import AnchoredSet.Proofs.Audit
import AnchoredSet.Proofs.Session
import AnchoredSet.Proofs.Replay
import AnchoredSet.Proofs.Ends
import AnchoredSet.Proofs.Untrusted
import AnchoredSet.Proofs.Configuration
import AnchoredSet.Proofs.Base58
import AnchoredSet.Proofs.Spelling
import AnchoredSet.Proofs.Surround
import AnchoredSet.Proofs.Copy
import AnchoredSet.Proofs.Reference
import AnchoredSet.Proofs.Expansion
import AnchoredSet.Proofs.Sections
import AnchoredSet.Proofs.Rank
