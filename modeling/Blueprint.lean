import Blueprint.Main
import Blueprint.Sample
import Blueprint.Proofs.Document.Forest
import Blueprint.Proofs.Document.Outline
import Blueprint.Proofs.Document.Portions
import Blueprint.Proofs.Document.Consumption
import Blueprint.Proofs.Document.Growth
import Blueprint.Proofs.Document.Settling
import Blueprint.Proofs.Document.Construction
import Blueprint.Proofs.Document.Refinement
import Blueprint.Proofs.Document.Truncation
import Blueprint.Proofs.Document.Resolution
import Blueprint.Proofs.Markup.Attribute
import Blueprint.Proofs.Document.Written
import Blueprint.Proofs.Document.Description
import Blueprint.Proofs.Text.Lines
import Blueprint.Proofs.Text.Words
import Blueprint.Proofs.Text.Dedent
import Blueprint.Proofs.Php.Fragment
import Blueprint.Proofs.Php.Name
import Blueprint.Proofs.Php.Declaration
import Blueprint.Proofs.Php.Denotation
import Blueprint.Proofs.Php.Synthesis
import Blueprint.Proofs.Php.Locality
import Blueprint.Proofs.Php.Rendering
import Blueprint.Proofs.Php.Signature
import Blueprint.Proofs.Php.Hint
import Blueprint.Proofs.Php.Qualification
import Blueprint.Proofs.Php.MethodNames
import Blueprint.Proofs.Php.Completeness
import Blueprint.Proofs.Php.Writing
import Blueprint.Proofs.Php.FactoryArguments
import Blueprint.Proofs.Php.SetterNames
import Blueprint.Proofs.Php.Assembly
import Blueprint.Proofs.Php.AssociationEnds
import Blueprint.Proofs.Php.Accessors
import Blueprint.Proofs.Php.LegalHints
import Blueprint.Proofs.Php.ReturnDeclarations
import Blueprint.Proofs.Php.Frame
import Blueprint.Proofs.Php.Comments
import Blueprint.Proofs.Php.DocBlocks
import Blueprint.Proofs.Model.Classifiers
import Blueprint.Proofs.Model.Unnamed
import Blueprint.Proofs.Php.Classifiers
import Blueprint.Proofs.Php.Unnamed
import Blueprint.Proofs.Model.Record
import Blueprint.Proofs.Model.Reach
import Blueprint.Proofs.Model.Walk
import Blueprint.Proofs.Model.Ancestry
import Blueprint.Proofs.Php.Namespace
import Blueprint.Proofs.Document.Containment
import Blueprint.Proofs.Document.Tolerance
import Blueprint.Proofs.Document.Closure
import Blueprint.Proofs.Validation
import Blueprint.Proofs.Generation
import Blueprint.Proofs.Locality
import Blueprint.Proofs.Output.FileTree
import Blueprint.Proofs.Output.Path
import Blueprint.Proofs.Output.Memory
import Blueprint.Proofs.Layout
import Blueprint.Proofs.Confinement
import Blueprint.Proofs.Collection
import Blueprint.Proofs.Agreement
import Blueprint.Proofs.Php.Inventory
import Blueprint.Proofs.Php.Imports
import Blueprint.Proofs.Coverage
import Blueprint.Proofs.Sample.Text
import Blueprint.Proofs.Sample.Model
import Blueprint.Proofs.Sample.Acceptance
import Blueprint.Proofs.Output.Repetition
import Blueprint.Proofs.Regeneration
import Blueprint.Proofs.Command.Arguments
import Blueprint.Proofs.Command.Run
import Blueprint.Proofs.Layering
