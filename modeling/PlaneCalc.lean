import PlaneCalc.Arithmetic
import PlaneCalc.Bindings
import PlaneCalc.Bindings.Journal
import PlaneCalc.CommandLine
import PlaneCalc.Config
import PlaneCalc.Config.Discovery
import PlaneCalc.Cursor
import PlaneCalc.Decimal
import PlaneCalc.Decimal.Shortest
import PlaneCalc.Diagnostic
import PlaneCalc.Double
import PlaneCalc.Double.Nearest
import PlaneCalc.Double.Text
import PlaneCalc.Evaluation
import PlaneCalc.Expr
import PlaneCalc.Files
import PlaneCalc.Grammar.Atom
import PlaneCalc.Grammar.Line
import PlaneCalc.Grammar.Numeral
import PlaneCalc.Grammar.Reading
import PlaneCalc.Grammar.Sum
import PlaneCalc.Invocation
import PlaneCalc.Language
import PlaneCalc.Limits
import PlaneCalc.Main
import PlaneCalc.Moment
import PlaneCalc.Operator
import PlaneCalc.Postfix
import PlaneCalc.Proofs.Bindings.History
import PlaneCalc.Proofs.Config.Breakdown
import PlaneCalc.Proofs.Config.Showing
import PlaneCalc.Proofs.Config.Validation
import PlaneCalc.Proofs.Cursor.Atom
import PlaneCalc.Proofs.Cursor.Confinement
import PlaneCalc.Proofs.Cursor.Progress
import PlaneCalc.Proofs.Cursor.Reader
import PlaneCalc.Proofs.Cursor.Tokens
import PlaneCalc.Proofs.Cursor.Walk
import PlaneCalc.Proofs.Decimal.Shortest
import PlaneCalc.Proofs.Double.Printed
import PlaneCalc.Proofs.Double.Rounding
import PlaneCalc.Proofs.Evaluation.Componentwise
import PlaneCalc.Proofs.Evaluation.LeftToRight
import PlaneCalc.Proofs.Evaluation.Promotion
import PlaneCalc.Proofs.Evaluation.Recursion
import PlaneCalc.Proofs.Evaluation.Substitution
import PlaneCalc.Proofs.Grammar.Atom
import PlaneCalc.Proofs.Grammar.Completeness
import PlaneCalc.Proofs.Grammar.Derivation
import PlaneCalc.Proofs.Grammar.Faithful
import PlaneCalc.Proofs.Grammar.Lookahead
import PlaneCalc.Proofs.Grammar.Recognition
import PlaneCalc.Proofs.Grammar.Report
import PlaneCalc.Proofs.Grammar.RoundTrip
import PlaneCalc.Proofs.Grammar.SymbolChoice
import PlaneCalc.Proofs.Grammar.ViablePrefix
import PlaneCalc.Proofs.Session.Commit
import PlaneCalc.Proofs.Session.Erasure
import PlaneCalc.Proofs.Session.Independence
import PlaneCalc.Proofs.Session.Isolation
import PlaneCalc.Proofs.Session.Nesting
import PlaneCalc.Proofs.Session.Readable
import PlaneCalc.Proofs.Session.Safety
import PlaneCalc.Proofs.Shell.Agreement
import PlaneCalc.Proofs.Shell.Input
import PlaneCalc.Session
import PlaneCalc.Setting
import PlaneCalc.Shell
import PlaneCalc.Shell.Display
import PlaneCalc.Shell.Grid
import PlaneCalc.SyntaxFault
import PlaneCalc.Text.Alphanumeric
import PlaneCalc.Text.Blank
import PlaneCalc.Text.Capital
import PlaneCalc.Text.Cells
import PlaneCalc.Text.Printable
import PlaneCalc.Text.Quoted
import PlaneCalc.Text.Ranges
import PlaneCalc.Toml.Document
import PlaneCalc.Toml.Lexeme
import PlaneCalc.Toml.Moment
import PlaneCalc.Toml.Value
import PlaneCalc.Value
import PlaneCalc.Workspace
