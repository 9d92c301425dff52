import ScriptLint.Text.Space
import ScriptLint.Text.Word
import ScriptLint.Text.Alphanumeric
import ScriptLint.Text.Lines
import ScriptLint.Text.Scan
import ScriptLint.Text.Quoted
import ScriptLint.Text.Terminal
import ScriptLint.Text.Reader
import ScriptLint.Text.Utf8
import ScriptLint.Path.Name
import ScriptLint.Path
import ScriptLint.Document
import ScriptLint.Finding
import ScriptLint.Report
import ScriptLint.Header
import ScriptLint.Context
import ScriptLint.Event
import ScriptLint.Event.Filter
import ScriptLint.Rule
import ScriptLint.Block.Kind
import ScriptLint.Block.Opener
import ScriptLint.Block.Pairing
import ScriptLint.Property
import ScriptLint.Blanks
import ScriptLint.Rule.Catalogue
import ScriptLint.Settings
import ScriptLint.Rule.Selection
import ScriptLint.Linter
import ScriptLint.Toml.Value
import ScriptLint.Toml.Scalar
import ScriptLint.Toml.Document
import ScriptLint.Settings.Reading
import ScriptLint.Json.Value
import ScriptLint.Json.Printer
import ScriptLint.Json.Parser
import ScriptLint.Report.Json
import ScriptLint.Workspace
import ScriptLint.Workspace.Script
import ScriptLint.Glob.Pattern
import ScriptLint.Glob.Walk
import ScriptLint.Linter.Discovery
import ScriptLint.Linter.Batch
import ScriptLint.Settings.File
import ScriptLint.Command.Arguments
import ScriptLint.Command.Output
import ScriptLint.Command.Run
import ScriptLint.Command.Footprint
import ScriptLint.Main
import ScriptLint.Proofs.Text.Runs
import ScriptLint.Proofs.Text.Lines
import ScriptLint.Proofs.Claims
import ScriptLint.Proofs.Block.Roles
import ScriptLint.Proofs.Block.Pairing
import ScriptLint.Proofs.Catalogue
import ScriptLint.Proofs.Block.Nesting
import ScriptLint.Proofs.Block.Test
import ScriptLint.Proofs.Session
import ScriptLint.Proofs.Pass
import ScriptLint.Proofs.Independence
import ScriptLint.Proofs.Header
import ScriptLint.Proofs.Positions
import ScriptLint.Proofs.Failure
import ScriptLint.Proofs.Views
import ScriptLint.Proofs.LineEndings
import ScriptLint.Proofs.Comments
import ScriptLint.Proofs.Discovery
import ScriptLint.Proofs.Block.Named
import ScriptLint.Proofs.Json.RoundTrip
import ScriptLint.Proofs.Batch
import ScriptLint.Proofs.Report
import ScriptLint.Proofs.Boundaries
import ScriptLint.Proofs.Block.Shapes
import ScriptLint.Proofs.Block.Balance
import ScriptLint.Proofs.UnknownFlags
import ScriptLint.Proofs.NormalForm
import ScriptLint.Proofs.Text.Offsets
import ScriptLint.Proofs.Blanks
import ScriptLint.Proofs.Composition
import ScriptLint.Proofs.FileNames
import ScriptLint.Proofs.Switches
import ScriptLint.Proofs.Selection
import ScriptLint.Proofs.Patterns.Matching
import ScriptLint.Proofs.Patterns.Openers
import ScriptLint.Proofs.Patterns.Header
import ScriptLint.Proofs.Patterns.Property
