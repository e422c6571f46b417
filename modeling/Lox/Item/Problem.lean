import Lox.Diagnostic
import Lox.Text.Place

/-!
Lexical problems, the places where they occur, and their diagnostics.
-/

set_option autoImplicit false
set_option relaxedAutoImplicit false

namespace Lox

inductive ScanProblem
  | unexpectedCharacter (c : Char)
  | unterminatedString
  | unterminatedBlockComment
  deriving DecidableEq

def ScanProblem.message : ScanProblem → Text
  | unexpectedCharacter c => "Unexpected character: ".toList ++ [c]
  | unterminatedString => "Unterminated string.".toList
  | unterminatedBlockComment => "Unterminated block comment.".toList

/-- A lexical problem and the place where the offending item starts. -/
structure ScanError where
  problem : ScanProblem
  place : Place
  deriving DecidableEq

namespace ScanError

/-- The diagnostic of a lexical error. It names no location. -/
def diagnostic (error : ScanError) : Diagnostic where
  line := error.place.line
  position := error.place.offset
  location := []
  message := error.problem.message
  resumedAt := none

def text (error : ScanError) : Text := error.diagnostic.text

end ScanError

end Lox
