import TemplateImports.Loading.Scan
import TemplateImports.Loading.Transformation
import TemplateImports.Registration.Helper
import TemplateImports.Registration.Merging
import TemplateImports.Settings.Text
import TemplateImports.Template.Walk
import TemplateImports.Proofs.Registration.InjectionRun
import TemplateImports.Proofs.Component.BlockStructure
import TemplateImports.Proofs.Markup.Nesting
import TemplateImports.Proofs.Markup.DocumentStart
import TemplateImports.Proofs.Markup.TagScan
import TemplateImports.Proofs.Template.TagText
import TemplateImports.Proofs.Template.Passes
import TemplateImports.Proofs.Template.Recovery
import TemplateImports.Proofs.Template.RoundTrip
import TemplateImports.Proofs.Markup.Elements
import TemplateImports.Proofs.Markup.Growth
import TemplateImports.Proofs.Markup.Rebuilding
import TemplateImports.Proofs.Markup.BodyGrowth
import TemplateImports.Proofs.Text.ByteOrder
import TemplateImports.Proofs.Matching.Traversal
import TemplateImports.Proofs.Matching.Spelling
import TemplateImports.Proofs.Registration.BlockContent
import TemplateImports.Proofs.Casing.Inverse
import TemplateImports.Proofs.Casing.Segments
import TemplateImports.Proofs.Script.TokenScan
import TemplateImports.Proofs.Script.Phrases
import TemplateImports.Proofs.Script.Lines
import TemplateImports.Proofs.Registration.CommentSentinel
import TemplateImports.Proofs.Markup.Keeping
import TemplateImports.Proofs.Template.Mentions
import TemplateImports.Proofs.Json.Places
import TemplateImports.Proofs.Registration.MergeLaws
import TemplateImports.Proofs.Json.RoundTrip
import TemplateImports.Proofs.Settings.RoundTrip
import TemplateImports.Proofs.Loading.ChainOrder
import TemplateImports.Proofs.Loading.SharedHost
import TemplateImports.Proofs.Workspace.Descent
import TemplateImports.Proofs.Loading.ScanReport
import TemplateImports.Proofs.Component.Balance
import TemplateImports.Proofs.Loading.TemplateSource
import TemplateImports.Proofs.Registration.Bindings
import TemplateImports.Proofs.Script.ImportedNames
import TemplateImports.Proofs.Matching.LibraryStatements
import TemplateImports.Proofs.Registration.SharedContainers
import TemplateImports.Proofs.Component.BracketInValue
import TemplateImports.Proofs.Template.Wrappers
import TemplateImports.Proofs.Template.QuotedBrackets
import TemplateImports.Proofs.Template.DirectiveGrammar
import TemplateImports.Proofs.Pattern.Targets
import TemplateImports.Proofs.Pattern.Backtracking
import TemplateImports.Proofs.Pattern.Progress
import TemplateImports.Proofs.Matching.RuleTemplates
import TemplateImports.Proofs.Template.IconLiteral
import TemplateImports.Proofs.Loading.KeyCounts
import TemplateImports.Proofs.Json.Paths
import TemplateImports.Proofs.Registration.MergeFrame
import TemplateImports.Proofs.Text.Pieces
import TemplateImports.Proofs.Registration.HelperLine
import TemplateImports.Proofs.Script.WrittenImports
import TemplateImports.Proofs.Script.Rests
import TemplateImports.Proofs.Script.ReaderPlaces
import TemplateImports.Proofs.Text.Insertion
import TemplateImports.Proofs.Registration.Splicing
import TemplateImports.Proofs.Loading.SourceKept
import TemplateImports.Proofs.Template.DocumentOrder
import TemplateImports.Proofs.Template.UsageOrder
import TemplateImports.Proofs.Template.Conversion
import TemplateImports.Proofs.Markup.Naming
import TemplateImports.Proofs.Markup.Coherence
import TemplateImports.Proofs.Markup.Tidiness
import TemplateImports.Proofs.Settings.Records
import TemplateImports.Proofs.Settings.Layout
import TemplateImports.Proofs.Workspace.PathParts
import TemplateImports.Proofs.Workspace.Places
import TemplateImports.Proofs.Loading.ReportedPaths
import TemplateImports.Proofs.Loading.LexicalRequests
import TemplateImports.Proofs.Template.TableParts
