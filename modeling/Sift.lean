import Sift.Declaration.Outline
import Sift.Factory
import Sift.Shop
import Sift.Storage.Notation
import Sift.Value.Typed
import Sift.Proofs.Meaning
import Sift.Proofs.Soundness
import Sift.Proofs.FirstStore
import Sift.Proofs.Isolation
import Sift.Proofs.Settled
import Sift.Proofs.Rejection
import Sift.Proofs.Planning
import Sift.Proofs.Compilation
import Sift.Proofs.Composition
import Sift.Proofs.Skipping
import Sift.Proofs.Untouched
import Sift.Proofs.Walks
import Sift.Proofs.Reordering
import Sift.Proofs.Sources
import Sift.Proofs.Applications
import Sift.Proofs.Complement
import Sift.Proofs.Amounts
import Sift.Proofs.Exposure
import Sift.Proofs.Lowering
import Sift.Proofs.Libraries
import Sift.Proofs.NestedOptionals
import Sift.Proofs.Resolution
import Sift.Proofs.RecordComparisons
import Sift.Proofs.Mirroring
import Sift.Proofs.OptionChanges
import Sift.Proofs.LikeModes
import Sift.Proofs.ModelSettings
import Sift.Proofs.Absence
import Sift.Proofs.Representations
import Sift.Proofs.Congruence
import Sift.Proofs.ScalarOrder
import Sift.Proofs.Negation
import Sift.Proofs.Namesakes
import Sift.Proofs.PrintedPaths
import Sift.Proofs.PathGrammar
import Sift.Proofs.Merging
import Sift.Proofs.Spellings
import Sift.Proofs.Exclusion
import Sift.Proofs.Constants
import Sift.Proofs.Chronology
