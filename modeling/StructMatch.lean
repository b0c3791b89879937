import StructMatch.Main
import StructMatch.Sample.Matchers
import StructMatch.Proofs.FileTree.Directory
import StructMatch.Proofs.FileTree.Replacement
import StructMatch.Proofs.FileTree.Walk
import StructMatch.Proofs.Match.Registration
import StructMatch.Proofs.Provenance
import StructMatch.Proofs.LeadingComments
import StructMatch.Proofs.Path.Remainder
import StructMatch.Proofs.Source.Reading
import StructMatch.Proofs.Source.PathSpelling
import StructMatch.Proofs.Source.TypeReading
import StructMatch.Proofs.Source.ExpressionReading
import StructMatch.Proofs.Source.ItemReading
import StructMatch.Proofs.Code.Reading
import StructMatch.Proofs.Code.WellFormed
import StructMatch.Proofs.Code.Malformed
import StructMatch.Proofs.Code.Names
import StructMatch.Proofs.Batch.Discovery
import StructMatch.Proofs.Batch.Generation
import StructMatch.Proofs.Batch.Stability
import StructMatch.Proofs.Batch.Collision
import StructMatch.Proofs.Batch.Introspection
import StructMatch.Proofs.Batch.Effect
import StructMatch.Proofs.Batch.Check
import StructMatch.Proofs.Batch.Completion
import StructMatch.Proofs.Batch.WalkOrder
import StructMatch.Proofs.Code.Contents
import StructMatch.Proofs.Batch.Staleness
import StructMatch.Proofs.Match.Mismatch
import StructMatch.Proofs.Match.Explanation
import StructMatch.Proofs.Batch.Emission
import StructMatch.Proofs.Batch.Overwriting
import StructMatch.Proofs.Command.Repair
import StructMatch.Proofs.Batch.Mounting
import StructMatch.Proofs.Batch.Orphans
import StructMatch.Proofs.MethodNames
import StructMatch.Proofs.SnakeCase
import StructMatch.Proofs.Batch.Packages
import StructMatch.Proofs.Command.Overrides
import StructMatch.Proofs.Match.TypeName
import StructMatch.Proofs.Batch.TestModules
import StructMatch.Proofs.Console.JsonReading
import StructMatch.Proofs.Command.CheckOutput
