import Oxidize.Command.Tool
import Oxidize.Vocabulary
import Oxidize.Proofs.Scope.Capture
import Oxidize.Proofs.Flow.Cleanup
import Oxidize.Proofs.Flow.Exits
import Oxidize.Proofs.Flow.Filling
import Oxidize.Proofs.Lowering.Branches
import Oxidize.Proofs.Lowering.Reports
import Oxidize.Proofs.Lowering.Parameters
import Oxidize.Proofs.Lowering.Attributes
import Oxidize.Proofs.Lowering.Classes
import Oxidize.Proofs.Isolation.Imports
import Oxidize.Proofs.Project.Preservation
import Oxidize.Proofs.Stub.Hints
import Oxidize.Proofs.Manifest.Merging
import Oxidize.Proofs.Program.Entry
import Oxidize.Proofs.Mutability.Functions
import Oxidize.Proofs.Numbers.Lengths
import Oxidize.Proofs.Numbers.Ranges
import Oxidize.Proofs.Grouping.Stores
import Oxidize.Proofs.Results.Wrapping
import Oxidize.Proofs.Stub.Agreement
import Oxidize.Proofs.Stub.Reexport
import Oxidize.Proofs.Stub.Renaming
import Oxidize.Proofs.Stub.Signatures
import Oxidize.Proofs.Arguments
