import Sift.Datum.Diagnostic
import Sift.Main
import Sift.Proofs.Conversion
import Sift.Proofs.Duality
import Sift.Proofs.Grammar.RoundTrip
import Sift.Proofs.Typing.Agreement
import Sift.Proofs.Typing.NestedLists
import Sift.Proofs.Typing.Soundness
import Sift.Schema.Walk
import Sift.Proofs.Evaluation.Arrivals
import Sift.Proofs.Names
import Sift.Proofs.Evaluation.Substitution
import Sift.Proofs.Renaming
import Sift.Proofs.Unrolling
import Sift.Proofs.Checking.Renaming
import Sift.Proofs.Typing.ExposedNames
import Sift.Proofs.Absence
import Sift.Proofs.HiddenFields
import Sift.Proofs.Limits
import Sift.Proofs.Comparison
import Sift.Proofs.Grammar.Places
import Sift.Proofs.Grammar.Segments
import Sift.Proofs.Grammar.Layout
import Sift.Proofs.Grammar.Enclosed
import Sift.Proofs.AddedFields
import Sift.Proofs.Catalog
import Sift.Proofs.Filtering
import Sift.Proofs.Checking.Erasure
import Sift.Proofs.ImpossibleErrors
import Sift.Proofs.Evaluation.Continuation
import Sift.Proofs.Membership
import Sift.Proofs.StandIn
import Sift.Proofs.Number.Integers
import Sift.Proofs.Grammar.PointerDecoding
import Sift.Proofs.Typing.Coherence
import Sift.Proofs.Checking.Paths
import Sift.Proofs.Evaluation.JudgesInside
import Sift.Proofs.Orderings
import Sift.Proofs.Typing.Ordered
import Sift.Proofs.Grammar.EitherSide
import Sift.Proofs.Evaluation.Shown
