import CardShell.Command
import CardShell.CommandLine
import CardShell.Instruction.Reader
import CardShell.Logging
import CardShell.Main
import CardShell.Proofs.Catalog.History
import CardShell.Proofs.Catalog.Order
import CardShell.Proofs.Files.Making
import CardShell.Proofs.Files.Opening
import CardShell.Proofs.Instruction.RoundTrip
import CardShell.Proofs.Instruction.Sections
import CardShell.Proofs.Location.Spelling
import CardShell.Proofs.Logging.Installing
import CardShell.Proofs.Outcome
import CardShell.Proofs.Rendering.Details
import CardShell.Proofs.Rendering.Drawing
import CardShell.Proofs.Rendering.Table
import CardShell.Proofs.Selection.Clauses
import CardShell.Proofs.Selection.Limits
import CardShell.Proofs.Selection.Parentheses
import CardShell.Proofs.Selection.TableNames
import CardShell.Proofs.Session.Filtering
import CardShell.Proofs.Session.Held
import CardShell.Proofs.Session.Inspection
import CardShell.Proofs.Session.Isolation
import CardShell.Proofs.Session.Limits
import CardShell.Proofs.Session.Listing
import CardShell.Proofs.Session.Models
import CardShell.Proofs.Session.Opening
import CardShell.Proofs.Session.Reachable
import CardShell.Proofs.Session.Reflection
import CardShell.Proofs.Session.Routing
import CardShell.Proofs.Shell.Calls
import CardShell.Proofs.Shell.LastResult
import CardShell.Proofs.Shell.Run
import CardShell.Proofs.Shell.Sequence
import CardShell.Proofs.Shell.Views
import CardShell.Proofs.Sql.Acceptance
import CardShell.Proofs.Sql.Expression
import CardShell.Proofs.Sql.Filters
import CardShell.Proofs.Sql.Lexing
import CardShell.Proofs.Sql.Limit
import CardShell.Proofs.Sql.LimitFree
import CardShell.Proofs.Sql.NamedTable
import CardShell.Proofs.Sql.WholeTable
import CardShell.Proofs.Text.Columns
import CardShell.Proofs.Text.Numerals
import CardShell.Rendering
import CardShell.Selection
import CardShell.Session
import CardShell.Shell
