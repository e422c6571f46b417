import Lox.Expr.Rendering
import Lox.Grammar.Parse
import Lox.Item.Scan
import Lox.Session.Outlet

/-!
Running one source text: what it writes, and which error it ends with.

A text with lexical errors is not parsed. An expression that could be read in spite of errors is
written before they are reported.
-/

set_option autoImplicit false
set_option relaxedAutoImplicit false

namespace Lox

inductive RunError
  | diagnostics (diagnostics : List Diagnostic)
  | internal (error : InternalError)
  | stream (error : StreamError)
  deriving DecidableEq

def dataErrorStatus : Nat := 65

def internalErrorStatus : Nat := 70

namespace RunError

def text : RunError → Text
  | diagnostics list => Diagnostic.listText list
  | internal error => error.message
  | stream error => error.message

def exitStatus : RunError → Nat
  | diagnostics _ | stream _ => dataErrorStatus
  | internal _ => internalErrorStatus

end RunError

/-- What running a text comes to, whatever becomes of its output. -/
structure Report where
  output : Text
  error : Option RunError
  deriving DecidableEq

namespace Report

def silent (error : RunError) : Report := ⟨[], some error⟩

/-- An expression is written on a line of its own, and the errors in it are reported. -/
def ofParsed (style : Style) (parsed : Parsed) : Report where
  output := parsed.tree.render style ++ ['\n']
  error :=
    match parsed.errors with
    | [] => none
    | errors => some (.diagnostics (errors.map ParseError.diagnostic))

def ofTokens (style : Style) (tokens : List Token) : Report :=
  match parse tokens with
  | .ok parsed => ofParsed style parsed
  | .error (.rejected errors) => silent (.diagnostics (errors.map ParseError.diagnostic))
  | .error (.internal error) => silent (.internal error)

def ofSource (style : Style) (source : Text) : Report :=
  match (scan source).result with
  | .ok tokens => ofTokens style tokens
  | .error errors => silent (.diagnostics (errors.map ScanError.diagnostic))

end Report

namespace Session

/-- Runs a source text. A failed write counts as the error of the text and hides the others. -/
def run (style : Style) (source : Text) : Session (Option RunError) := fun streams =>
  let report := Report.ofSource style source
  match streams.out.write report.output with
  | (out, true) => .ok report.error { streams with out }
  | (out, false) => .ok (some (.stream .writerFull)) { streams with out }

end Session

end Lox
