import DependencyWiring.Check
import DependencyWiring.Check.Collision
import DependencyWiring.Check.InvokerKey
import DependencyWiring.Check.Ordering
import DependencyWiring.Check.Resolution
import DependencyWiring.Check.Scope
import DependencyWiring.Check.Wiring
import DependencyWiring.Command
import DependencyWiring.Command.Invocation
import DependencyWiring.Conformance
import DependencyWiring.Conformance.Tap
import DependencyWiring.Decimal.Binary64
import DependencyWiring.Decimal.Shortest
import DependencyWiring.Declaration
import DependencyWiring.Declared
import DependencyWiring.Declared.Index
import DependencyWiring.Declared.Reader
import DependencyWiring.Diagnostic
import DependencyWiring.Diagnostic.Code
import DependencyWiring.Diagnostic.Finding
import DependencyWiring.Document
import DependencyWiring.DocumentStore
import DependencyWiring.FileSystem
import DependencyWiring.FileSystem.Tree
import DependencyWiring.Interchange
import DependencyWiring.Interchange.Schema
import DependencyWiring.Json
import DependencyWiring.Json.Printer
import DependencyWiring.Json.Reader
import DependencyWiring.Json.Refusal
import DependencyWiring.LogicalPath
import DependencyWiring.Main
import DependencyWiring.Model
import DependencyWiring.Model.Builder
import DependencyWiring.Model.Compilation
import DependencyWiring.Moment
import DependencyWiring.Name
import DependencyWiring.Node
import DependencyWiring.Path
import DependencyWiring.Placeholder
import DependencyWiring.Provenance
import DependencyWiring.Report
import DependencyWiring.Schema
import DependencyWiring.Schema.Pattern
import DependencyWiring.Text.Blank
import DependencyWiring.Text.Pieces
import DependencyWiring.Text.Sorted
import DependencyWiring.TypeRef
import DependencyWiring.Yaml.Character
import DependencyWiring.Yaml.Cursor
import DependencyWiring.Yaml.Reader
import DependencyWiring.Yaml.Refusal
import DependencyWiring.Yaml.Scalar.Block
import DependencyWiring.Yaml.Scalar.Folding
import DependencyWiring.Yaml.Scalar.Plain
import DependencyWiring.Yaml.Scalar.Quoted
import DependencyWiring.Yaml.Token
import DependencyWiring.Yaml.Token.Lexer
import DependencyWiring.Yaml.Token.Tag
import DependencyWiring.Yaml.Tree
import DependencyWiring.Proofs.SeparatedTexts
import DependencyWiring.Proofs.CleanReport
import DependencyWiring.Proofs.CleanBuilding
import DependencyWiring.Proofs.TypeTokens
import DependencyWiring.Proofs.QualifiedNames
import DependencyWiring.Proofs.SoundDeclarations
import DependencyWiring.Proofs.DeclarationGrammar
import DependencyWiring.Proofs.SoundModel
import DependencyWiring.Proofs.IndexLookup
import DependencyWiring.Proofs.AcceptedDocuments
import DependencyWiring.Proofs.DependencyOrder
import DependencyWiring.Proofs.InterfaceLiterals
import DependencyWiring.Proofs.RenderableModels
import DependencyWiring.Proofs.DocumentRules
import DependencyWiring.Proofs.InstanceNames
import DependencyWiring.Proofs.AdmissibleDocuments
import DependencyWiring.Proofs.PlacesOfNotes
import DependencyWiring.Proofs.DeclaredParts
import DependencyWiring.Proofs.InvalidEntities
import DependencyWiring.Proofs.IndexAgreement
import DependencyWiring.Proofs.ResolvedReferences
import DependencyWiring.Proofs.DeclaredInterfaces
import DependencyWiring.Proofs.Trails
import DependencyWiring.Proofs.Slots
import DependencyWiring.Proofs.ChartedReading
import DependencyWiring.Proofs.ChartedModel
import DependencyWiring.Proofs.KeptDeclarations
import DependencyWiring.Proofs.LocatedDiagnostics
import DependencyWiring.Proofs.SchemaAcceptance
import DependencyWiring.Proofs.SchemaConformance
import DependencyWiring.Proofs.FaithfulDocuments
import DependencyWiring.Proofs.ComparedRuns
import DependencyWiring.Proofs.ComparedReading
import DependencyWiring.Proofs.ComparedModel
import DependencyWiring.Proofs.ComparedChecks
import DependencyWiring.Proofs.KeyOrder
import DependencyWiring.Proofs.PlacelessModels
import DependencyWiring.Proofs.Surroundings
import DependencyWiring.Proofs.UnknownKeys
import DependencyWiring.Proofs.SlotEntities
import DependencyWiring.Proofs.UndisturbedSiblings
import DependencyWiring.Proofs.BlankTexts
import DependencyWiring.Proofs.WrittenFiles
import DependencyWiring.Proofs.CommandAgreement
import DependencyWiring.Proofs.RefusedReferences
import DependencyWiring.Proofs.PathlessReading
import DependencyWiring.Proofs.RearrangedTypes
import DependencyWiring.Proofs.AgreeingScopes
import DependencyWiring.Proofs.TypeOrder
import DependencyWiring.Proofs.PhasesOfNotes
import DependencyWiring.Proofs.DistinctPlaces
import DependencyWiring.Proofs.OrderReports
import DependencyWiring.Proofs.CollisionReports
import DependencyWiring.Proofs.AssignmentBalance
import DependencyWiring.Proofs.TestReports
import DependencyWiring.Proofs.SuiteCases
import DependencyWiring.Proofs.ConformanceRuns
import DependencyWiring.Proofs.TokenGrammar
import DependencyWiring.Proofs.UsableInvokerKeys
import DependencyWiring.Proofs.ExclusiveFields
import DependencyWiring.Proofs.NamesJudgedOnce
import DependencyWiring.Proofs.Places
import DependencyWiring.Proofs.Locations
import DependencyWiring.Proofs.NameParts
