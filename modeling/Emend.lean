import Emend.Main
import Emend.Proofs.Files.Entry
import Emend.Proofs.Files.Erasure
import Emend.Proofs.Files.Growth
import Emend.Proofs.Workspace.Guard
import Emend.Proofs.Workspace.Confinement
import Emend.Proofs.Workspace.Footprint
import Emend.Proofs.Workspace.Transfer
import Emend.Proofs.Workspace.LinkFree
import Emend.Proofs.Run.DryRun
import Emend.Proofs.Run.Effect
import Emend.Proofs.Text.LineSpans
import Emend.Proofs.Pattern.Marks
import Emend.Proofs.Match.Checked
import Emend.Proofs.Text.Encoding
import Emend.Proofs.Match.Occurrences
import Emend.Proofs.Match.Strategies
import Emend.Proofs.Match.Tokens
import Emend.Proofs.Match.Declarations
import Emend.Proofs.Match.Find
import Emend.Proofs.Run.Plan
import Emend.Proofs.Document.Draft
import Emend.Proofs.Document.Lines
import Emend.Proofs.Document.Meaning
import Emend.Proofs.Document.Scan
import Emend.Proofs.Document.RoundTrip
import Emend.Proofs.Document.Options
import Emend.Proofs.Document.Relocation
import Emend.Proofs.Document.Composition
import Emend.Proofs.Text.Blanks
import Emend.Proofs.Text.DocumentLines
import Emend.Proofs.Text.Numbers
import Emend.Proofs.Run.Usable
import Emend.Proofs.Text.Endings
import Emend.Proofs.Match.Passages
import Emend.Proofs.Run.LineStyle
import Emend.Proofs.Workspace.Bare
import Emend.Proofs.Workspace.Imprint
import Emend.Proofs.Run.Independent
import Emend.Proofs.Workspace.Landing
import Emend.Proofs.Run.Reports
import Emend.Proofs.Run.Overlay
import Emend.Proofs.Distance.Exact
import Emend.Proofs.Text.Canonical
import Emend.Proofs.Document.Order
import Emend.Proofs.Run.Requests
import Emend.Proofs.Match.Levels
import Emend.Proofs.Text.CommentScan
import Emend.Proofs.Text.Masking
import Emend.Proofs.Distance.Scores
import Emend.Proofs.Distance.Rounding
import Emend.Proofs.Distance.Doubles
import Emend.Proofs.Distance.Perfect
import Emend.Proofs.Match.Best
import Emend.Proofs.Match.Thresholds
import Emend.Proofs.Text.LineTexts
import Emend.Proofs.Run.WholeLines
import Emend.Proofs.Run.Indentation
import Emend.Proofs.Match.LineRuns
import Emend.Proofs.Match.LineRanges
import Emend.Proofs.Text.Lowercase
import Emend.Proofs.Text.Relaid
import Emend.Proofs.Unicode.CharSets
import Emend.Proofs.Unicode.Ascii
import Emend.Proofs.Run.Settling
import Emend.Proofs.Pattern.Alike
import Emend.Proofs.Pattern.Language
import Emend.Proofs.Pattern.Threads
import Emend.Proofs.Pattern.Extension
import Emend.Proofs.Pattern.Related
import Emend.Proofs.Signature.Shapes
import Emend.Proofs.Signature.Alphabets
import Emend.Proofs.Signature.Ascii
import Emend.Proofs.Signature.Headers
import Emend.Proofs.Match.Bodies
import Emend.Proofs.Run.Summaries
import Emend.Proofs.Match.LineStyle
import Emend.Proofs.Run.Views
import Emend.Proofs.Run.Splices
import Emend.Proofs.Workspace.Written
import Emend.Proofs.Workspace.NormalForms
import Emend.Proofs.Command.Diffs
import Emend.Proofs.Pattern.Leaves
import Emend.Proofs.Pattern.Paths
import Emend.Proofs.Pattern.Traces
import Emend.Proofs.Pattern.Numbers
import Emend.Proofs.Pattern.Reach
import Emend.Proofs.Pattern.Finds
import Emend.Proofs.Unicode.Blanks
import Emend.Proofs.Signature.Brackets
import Emend.Proofs.Signature.Declared
import Emend.Proofs.Signature.Fronts
import Emend.Proofs.Signature.Recovered
import Emend.Proofs.Distance.Metric
import Emend.Proofs.Signature.Agreement
import Emend.Proofs.Match.Delimiters
import Emend.Proofs.Match.TokenPlaces
import Emend.Proofs.Text.LineNumbers
import Emend.Proofs.Text.Reencoding
import Emend.Proofs.Signature.ListParts
