import Lox.Text.Inspection
import Lox.Session.Entry
import Lox.Main
import Lox.Proofs.Grammar.Derivation
import Lox.Proofs.Grammar.Stage
import Lox.Proofs.Grammar.Outcome
import Lox.Proofs.Grammar.Acceptance
import Lox.Proofs.Grammar.Parse
import Lox.Proofs.Grammar.CorrectPrefix
import Lox.Proofs.Grammar.Errors
import Lox.Proofs.Grammar.Repair
import Lox.Proofs.Grammar.Renaming
import Lox.Proofs.Item.Lookahead
import Lox.Proofs.Item.Masking
import Lox.Proofs.Item.Lines
import Lox.Proofs.Item.Display
import Lox.Proofs.Expr.Relexing
import Lox.Proofs.Session.Run
import Lox.Proofs.Session.Status
import Lox.Proofs.Grammar.Determinacy
import Lox.Proofs.Expr.ReversePolish
import Lox.Proofs.Session.Outlet
import Lox.Proofs.Session.Turn
import Lox.Proofs.Session.Files
import Lox.Proofs.Session.Prompt
import Lox.Proofs.Session.Truncation
import Lox.Proofs.Session.Lines
import Lox.Proofs.Item.Coordinates
import Lox.Proofs.Item.Delimited
import Lox.Proofs.Grammar.Rejection
import Lox.Proofs.Item.Unterminated
import Lox.Proofs.Number.Magnitude
import Lox.Proofs.Number.Rounding
import Lox.Proofs.Number.Nearest
import Lox.Proofs.Number.Literal
import Lox.Proofs.Text.Readers
import Lox.Proofs.Text.Slices
import Lox.Proofs.Grammar.Frame
import Lox.Proofs.Session.Diagnostics
import Lox.Proofs.Item.Moving
import Lox.Proofs.Item.Scanner
import Lox.Proofs.Session.Entry
