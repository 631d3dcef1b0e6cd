import DesignTokens.ArtifactStore
import DesignTokens.Color
import DesignTokens.Command.Arguments
import DesignTokens.Command.Convert
import DesignTokens.Command.Inspect
import DesignTokens.Command.Outcome
import DesignTokens.Command.Request
import DesignTokens.Command.Run
import DesignTokens.Entries
import DesignTokens.Export.Colors
import DesignTokens.Export.Gradients
import DesignTokens.Export.Guarded
import DesignTokens.Export.Node
import DesignTokens.Export.Notice
import DesignTokens.Export.Read
import DesignTokens.Export.Typography
import DesignTokens.Files.Fault
import DesignTokens.Files.Memory
import DesignTokens.Files.Path
import DesignTokens.Files.Store
import DesignTokens.Format.Banner
import DesignTokens.Format.Basic
import DesignTokens.Format.Css
import DesignTokens.Format.CssVariables
import DesignTokens.Format.Emotion
import DesignTokens.Format.Generate
import DesignTokens.Format.Guarded
import DesignTokens.Format.PandaCss
import DesignTokens.Format.Scss
import DesignTokens.Format.StyledComponents
import DesignTokens.Format.Tailwind
import DesignTokens.Format.Theme
import DesignTokens.Format.VanillaExtract
import DesignTokens.Gradient
import DesignTokens.Gradient.Payload
import DesignTokens.Json.Basic
import DesignTokens.Json.Fault
import DesignTokens.Json.Plain
import DesignTokens.Json.Printer
import DesignTokens.Json.Reader
import DesignTokens.Key.Camel
import DesignTokens.Key.Family
import DesignTokens.Key.Kebab
import DesignTokens.Key.Words
import DesignTokens.Location
import DesignTokens.Log
import DesignTokens.Main
import DesignTokens.Model.Basic
import DesignTokens.Model.Build
import DesignTokens.Model.Check
import DesignTokens.Number.Basic
import DesignTokens.Number.Binary64
import DesignTokens.Number.Decimal
import DesignTokens.Number.Digits
import DesignTokens.Number.Rounding
import DesignTokens.Number.Scan
import DesignTokens.Number.Shortest
import DesignTokens.Proofs.Command.Preparation
import DesignTokens.Proofs.Command.Repetition
import DesignTokens.Proofs.Entries.Collect
import DesignTokens.Proofs.Entries.Groups
import DesignTokens.Proofs.Export.Accounts
import DesignTokens.Proofs.Export.ColorLeaves
import DesignTokens.Proofs.Export.ColorOrder
import DesignTokens.Proofs.Export.ColorPaths
import DesignTokens.Proofs.Export.ColorTrees
import DesignTokens.Proofs.Export.DroppedNodes
import DesignTokens.Proofs.Export.FoundGradients
import DesignTokens.Proofs.Export.FoundStyles
import DesignTokens.Proofs.Export.GradientOrder
import DesignTokens.Proofs.Export.Nodes
import DesignTokens.Proofs.Export.Rereading
import DesignTokens.Proofs.Export.Runs
import DesignTokens.Proofs.Export.SecondChecks
import DesignTokens.Proofs.Export.StyleOrder
import DesignTokens.Proofs.Export.Visits
import DesignTokens.Proofs.Files.Ancestors
import DesignTokens.Proofs.Files.ArtifactRuns
import DesignTokens.Proofs.Files.Directories
import DesignTokens.Proofs.Files.Growth
import DesignTokens.Proofs.Files.Places
import DesignTokens.Proofs.Files.Runs
import DesignTokens.Proofs.Files.Writing
import DesignTokens.Proofs.Format.Artifacts
import DesignTokens.Proofs.Format.ClassNames
import DesignTokens.Proofs.Format.ColorMap
import DesignTokens.Proofs.Format.Comments
import DesignTokens.Proofs.Format.ExampleLines
import DesignTokens.Proofs.Format.FontFamilies
import DesignTokens.Proofs.Format.GeneratedLines
import DesignTokens.Proofs.Format.GradientFunctions
import DesignTokens.Proofs.Format.GradientVariables
import DesignTokens.Proofs.Format.LetterSpacing
import DesignTokens.Proofs.Format.MixinNames
import DesignTokens.Proofs.Format.RecipeNames
import DesignTokens.Proofs.Format.SameColors
import DesignTokens.Proofs.Format.SassMaps
import DesignTokens.Proofs.Format.Sizes
import DesignTokens.Proofs.Format.StyleConstants
import DesignTokens.Proofs.Format.StyleDeclarations
import DesignTokens.Proofs.Format.StyleNames
import DesignTokens.Proofs.Format.StyleSheetStrings
import DesignTokens.Proofs.Format.StyleSheetTokens
import DesignTokens.Proofs.Format.UsageExamples
import DesignTokens.Proofs.Json.Deletion
import DesignTokens.Proofs.Json.Documents
import DesignTokens.Proofs.Json.FaultLines
import DesignTokens.Proofs.Json.Grammar
import DesignTokens.Proofs.Json.LineEnds
import DesignTokens.Proofs.Json.Margins
import DesignTokens.Proofs.Json.Parts
import DesignTokens.Proofs.Json.Reading
import DesignTokens.Proofs.Json.Spelling
import DesignTokens.Proofs.Json.Strings
import DesignTokens.Proofs.Key.Boundaries
import DesignTokens.Proofs.Key.CamelForms
import DesignTokens.Proofs.Key.Families
import DesignTokens.Proofs.Key.Pieces
import DesignTokens.Proofs.Key.Rewriting
import DesignTokens.Proofs.Key.Segments
import DesignTokens.Proofs.LoadedTexts
import DesignTokens.Proofs.Model.KeptStyles
import DesignTokens.Proofs.Model.LimitedNumbers
import DesignTokens.Proofs.Model.Literals
import DesignTokens.Proofs.Model.StoredNumbers
import DesignTokens.Proofs.Model.Validated
import DesignTokens.Proofs.Model.WellFormed
import DesignTokens.Proofs.Number.Characters
import DesignTokens.Proofs.Number.Digits
import DesignTokens.Proofs.Number.DistinctTexts
import DesignTokens.Proofs.Number.Leftover
import DesignTokens.Proofs.Number.Limits
import DesignTokens.Proofs.Number.Order
import DesignTokens.Proofs.Number.Rounding
import DesignTokens.Proofs.Number.Shortest
import DesignTokens.Proofs.Number.Texts
import DesignTokens.Proofs.Number.WholeTexts
import DesignTokens.Proofs.Script.BareNames
import DesignTokens.Proofs.Script.Declarations
import DesignTokens.Proofs.Script.Identifiers
import DesignTokens.Proofs.Script.NamedLines
import DesignTokens.Proofs.Script.Properties
import DesignTokens.Proofs.Script.Templates
import DesignTokens.Proofs.SettledSettings
import DesignTokens.Proofs.SolidColors
import DesignTokens.Proofs.StoredTokens
import DesignTokens.Proofs.Text.BlockComments
import DesignTokens.Proofs.Text.CaseImages
import DesignTokens.Proofs.Text.Encoding
import DesignTokens.Proofs.Text.ExcerptLines
import DesignTokens.Proofs.Text.FeedLines
import DesignTokens.Proofs.Text.IdentifierStart
import DesignTokens.Proofs.Text.Marks
import DesignTokens.Proofs.Text.UnifiedLines
import DesignTokens.Proofs.Tree.Each
import DesignTokens.Proofs.Tree.Insertion
import DesignTokens.Proofs.Tree.Leaves
import DesignTokens.Proofs.Tree.Members
import DesignTokens.Proofs.Tree.Merging
import DesignTokens.Proofs.Tree.Outline
import DesignTokens.Proofs.Tree.Placement
import DesignTokens.Proofs.Tree.PrefixFree
import DesignTokens.Proofs.Tree.Remerging
import DesignTokens.Proofs.Tree.Rendering
import DesignTokens.Proofs.Tree.Slots
import DesignTokens.Script.Names
import DesignTokens.Settings
import DesignTokens.Shape.Basic
import DesignTokens.Shape.Given
import DesignTokens.Terminal.Color
import DesignTokens.Terminal.Table
import DesignTokens.Terminal.Text
import DesignTokens.Terminal.Wrap
import DesignTokens.Text.Blank
import DesignTokens.Text.Case
import DesignTokens.Text.CaseTable
import DesignTokens.Text.CodePoint
import DesignTokens.Text.CodeRange
import DesignTokens.Text.ColumnTable
import DesignTokens.Text.Columns
import DesignTokens.Text.DecimalDigit
import DesignTokens.Text.Hex
import DesignTokens.Text.HiddenTable
import DesignTokens.Text.Identifier
import DesignTokens.Text.IdentifierTable
import DesignTokens.Text.Lines
import DesignTokens.Text.Quoted
import DesignTokens.Text.Search
import DesignTokens.Text.Utf8
import DesignTokens.TextStyle
import DesignTokens.TokenFile
import DesignTokens.Toml.Document
import DesignTokens.Toml.Fault
import DesignTokens.Toml.Scalar
import DesignTokens.Toml.Text
import DesignTokens.Toml.Value
import DesignTokens.Tree.Basic
import DesignTokens.Tree.Render
