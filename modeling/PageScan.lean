import PageScan.Html.RuleJson
import PageScan.Main
import PageScan.Script.Bench
import PageScan.Shell.Completion
import PageScan.Shell.CompletionInPlace
import PageScan.Script.InPlace
import PageScan.Proofs.Script.InPlaceReading
import PageScan.Proofs.Script.Beginning
import PageScan.Proofs.Script.Literal
import PageScan.Proofs.Script.Comment
import PageScan.Proofs.Script.Tiling
import PageScan.Proofs.Script.Division
import PageScan.Proofs.Script.Closed
import PageScan.Proofs.Text.Utf8
import PageScan.Proofs.Script.Characters
import PageScan.Proofs.Shell.Highlight
import PageScan.Proofs.Script.Placement
import PageScan.Proofs.Script.Pulling
import PageScan.Proofs.Script.Stopping
import PageScan.Proofs.Script.Ending
import PageScan.Proofs.Script.Prefix
import PageScan.Proofs.Script.Trivia
import PageScan.Proofs.Html.Selection
import PageScan.Proofs.Html.Precedence
import PageScan.Proofs.Html.Alike
import PageScan.Proofs.Html.Unmatchable
import PageScan.Proofs.Script.Arithmetic
import PageScan.Proofs.CommandLine.Tainting
import PageScan.Proofs.Script.LiteralExtent
import PageScan.Proofs.Script.Site
import PageScan.Proofs.Script.CommentExtent
import PageScan.Proofs.Script.WordExtent
import PageScan.Proofs.Script.Alone
import PageScan.Proofs.Script.OperatorExtent
import PageScan.Proofs.Script.NumeralExtent
import PageScan.Proofs.Html.LinkRel
import PageScan.Proofs.Html.Composition
import PageScan.Proofs.Html.Insertion
import PageScan.Proofs.Html.Reachable
import PageScan.Proofs.Script.Reports
import PageScan.Proofs.Html.Explanation
import PageScan.Proofs.Script.GoingOn
import PageScan.Proofs.Shell.Waiting
import PageScan.Proofs.Text.Trim
import PageScan.Proofs.CommandLine.AttributeGrammar
import PageScan.Proofs.Html.RuleRoundTrip
import PageScan.Proofs.Shell.CompletionInPlace
import PageScan.Proofs.Shell.Completion
import PageScan.Proofs.Text.Escape
import PageScan.Proofs.Script.Listing
import PageScan.Proofs.Shell.Command
import PageScan.Proofs.Html.CategoryName
