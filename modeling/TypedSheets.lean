import TypedSheets.Accessor
import TypedSheets.Archive
import TypedSheets.Asset
import TypedSheets.AssetFile
import TypedSheets.Calendar
import TypedSheets.CellScalar
import TypedSheets.Coercion
import TypedSheets.CommandLine
import TypedSheets.Container
import TypedSheets.Emission.Layout
import TypedSheets.Emission.Modules
import TypedSheets.Emission.SourceLine
import TypedSheets.EnvironmentFile
import TypedSheets.ErrorLog
import TypedSheets.Export
import TypedSheets.Failure
import TypedSheets.FileTree
import TypedSheets.Generated.EnumModule
import TypedSheets.Generated.LoadError
import TypedSheets.Generated.Name
import TypedSheets.Generated.Package
import TypedSheets.Generated.RecordModule
import TypedSheets.Grid
import TypedSheets.Issue
import TypedSheets.Json.Encoding
import TypedSheets.Json.Quoted
import TypedSheets.Log
import TypedSheets.Log.Setup
import TypedSheets.Log.Template
import TypedSheets.Main
import TypedSheets.NamedList
import TypedSheets.Number.Decimal
import TypedSheets.Number.DecimalText
import TypedSheets.Number.Digits
import TypedSheets.Number.Double
import TypedSheets.Number.IntegerText
import TypedSheets.Path
import TypedSheets.Progress
import TypedSheets.Proofs.Export.CellValues
import TypedSheets.Proofs.Export.Coercions
import TypedSheets.Proofs.Export.IntegerCells
import TypedSheets.Proofs.Export.OutcomeOrder
import TypedSheets.Proofs.Export.SheetExports
import TypedSheets.Proofs.Export.TypedCells
import TypedSheets.Proofs.Export.WorkbookExports
import TypedSheets.Proofs.Files.ApartPaths
import TypedSheets.Proofs.Files.Artifacts
import TypedSheets.Proofs.Files.AssetPaths
import TypedSheets.Proofs.Files.AssetRoundTrip
import TypedSheets.Proofs.Files.FileTrees
import TypedSheets.Proofs.Files.Growth
import TypedSheets.Proofs.Files.Jobs
import TypedSheets.Proofs.Files.Obstacles
import TypedSheets.Proofs.Files.PathTexts
import TypedSheets.Proofs.Files.SourceFiles
import TypedSheets.Proofs.Generated.BoundNames
import TypedSheets.Proofs.Generated.ClassFields
import TypedSheets.Proofs.Generated.EnumTexts
import TypedSheets.Proofs.Generated.ModuleNames
import TypedSheets.Proofs.Generated.ModulePaths
import TypedSheets.Proofs.Generated.RecordComments
import TypedSheets.Proofs.Generated.RecordTypes
import TypedSheets.Proofs.Generated.RegistryLoading
import TypedSheets.Proofs.Generated.RegistryNames
import TypedSheets.Proofs.Generated.TypedReconstruction
import TypedSheets.Proofs.Json.Reading
import TypedSheets.Proofs.Json.ValueTexts
import TypedSheets.Proofs.Number.DigitRuns
import TypedSheets.Proofs.Number.IntegerNotation
import TypedSheets.Proofs.RelatedLists
import TypedSheets.Proofs.Runs.DataEdits
import TypedSheets.Proofs.Runs.EmbeddedPaths
import TypedSheets.Proofs.Runs.EnumMeanings
import TypedSheets.Proofs.Runs.ErrorLogs
import TypedSheets.Proofs.Runs.ExporterTurns
import TypedSheets.Proofs.Runs.GeneratedImports
import TypedSheets.Proofs.Runs.GeneratedTrees
import TypedSheets.Proofs.Runs.KeptModules
import TypedSheets.Proofs.Runs.LogHistories
import TypedSheets.Proofs.Runs.LoggedErrors
import TypedSheets.Proofs.Runs.ReportedFiles
import TypedSheets.Proofs.Runs.RunAccounts
import TypedSheets.Proofs.Runs.RunEnds
import TypedSheets.Proofs.Runs.SecondRuns
import TypedSheets.Proofs.Runs.VerifiedExports
import TypedSheets.Proofs.Runs.WholeRuns
import TypedSheets.Proofs.Runs.WriteHistories
import TypedSheets.Proofs.Runtime.AccessorRuns
import TypedSheets.Proofs.Runtime.AccessorTexts
import TypedSheets.Proofs.Runtime.ConcurrentLoads
import TypedSheets.Proofs.Runtime.KeyIndexes
import TypedSheets.Proofs.Schema.AcceptedSheets
import TypedSheets.Proofs.Schema.AppendedSheets
import TypedSheets.Proofs.Schema.EnumBodies
import TypedSheets.Proofs.Schema.EnumGrammar
import TypedSheets.Proofs.Schema.EnumNamespace
import TypedSheets.Proofs.Schema.Refusals
import TypedSheets.Proofs.Schema.RowConvention
import TypedSheets.Proofs.Schema.SheetOrder
import TypedSheets.Proofs.Schema.StoredCells
import TypedSheets.Proofs.Schema.WrittenMembers
import TypedSheets.Proofs.Settings.ProjectNames
import TypedSheets.Proofs.Settings.UsableSettings
import TypedSheets.Proofs.Text.Cutting
import TypedSheets.Proofs.Text.EncodedText
import TypedSheets.Proofs.Text.NormalForms
import TypedSheets.Proofs.Text.StringLiterals
import TypedSheets.Proofs.Text.Trimming
import TypedSheets.Proofs.Yaml.AssetNodes
import TypedSheets.Proofs.Yaml.AssetTokens
import TypedSheets.Proofs.Yaml.AssetValues
import TypedSheets.Proofs.Yaml.CursorSteps
import TypedSheets.Proofs.Yaml.DoubleQuoted
import TypedSheets.Proofs.Yaml.IdentifierNames
import TypedSheets.Proofs.Yaml.IntegerScalars
import TypedSheets.Proofs.Yaml.KeyTokens
import TypedSheets.Proofs.Yaml.LexingSteps
import TypedSheets.Proofs.Yaml.NameTexts
import TypedSheets.Proofs.Yaml.PlainLayout
import TypedSheets.Proofs.Yaml.PlainScalars
import TypedSheets.Proofs.Yaml.QuotedScalars
import TypedSheets.Proofs.Yaml.ScalarTokens
import TypedSheets.Proofs.Yaml.SingleQuoted
import TypedSheets.Proofs.Yaml.TextAnalysis
import TypedSheets.Proofs.Yaml.TreeDocuments
import TypedSheets.Proofs.Yaml.WrittenCharacters
import TypedSheets.Record
import TypedSheets.Registry
import TypedSheets.Report
import TypedSheets.Run
import TypedSheets.Schema.Description
import TypedSheets.Schema.Enumeration
import TypedSheets.Schema.Interpretation
import TypedSheets.Schema.Primitive
import TypedSheets.SchemaExporter
import TypedSheets.SchemaFile
import TypedSheets.Settings
import TypedSheets.Text.Base64
import TypedSheets.Text.Blank
import TypedSheets.Text.CodeRange
import TypedSheets.Text.Composition
import TypedSheets.Text.DecimalDigit
import TypedSheets.Text.Decomposition
import TypedSheets.Text.Identifier
import TypedSheets.Text.Lines
import TypedSheets.Text.Lowercase
import TypedSheets.Text.NormalForm
import TypedSheets.Text.Printable
import TypedSheets.Text.Quoted
import TypedSheets.Text.Utf8
import TypedSheets.TypedSheet
import TypedSheets.Value
import TypedSheets.Value.Order
import TypedSheets.Value.Text
import TypedSheets.Workspace
import TypedSheets.Writing
import TypedSheets.Yaml.Character
import TypedSheets.Yaml.Cursor
import TypedSheets.Yaml.Node
import TypedSheets.Yaml.NodeValue
import TypedSheets.Yaml.ReadError
import TypedSheets.Yaml.Resolution
import TypedSheets.Yaml.Scalar
import TypedSheets.Yaml.ScalarText
import TypedSheets.Yaml.ScalarValue
import TypedSheets.Yaml.Token
import TypedSheets.Yaml.TokenStream
