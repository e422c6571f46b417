import Lox.Text.Basic

/-!
Diagnostics: messages for the reader of a source text, and how they are shown.
-/

set_option autoImplicit false
set_option relaxedAutoImplicit false

namespace Lox

/-- A message about a source text. The position is a byte offset for a lexical problem and the
index of a token for a problem with the grammar; only the latter names a location. -/
structure Diagnostic where
  line : Nat
  position : Nat
  /-- Empty, `end`, or the offending lexeme in quotes. -/
  location : Text
  message : Text
  /-- Where reading resumed, if something was skipped. -/
  resumedAt : Option Text
  deriving DecidableEq

namespace Diagnostic

/-- A diagnostic as it is shown: the line, the location if there is one, and the message. -/
def text (diagnostic : Diagnostic) : Text :=
  let location :=
    match diagnostic.location with
    | [] => []
    | location => " at ".toList ++ location
  "[line ".toList ++ Text.ofNat diagnostic.line ++ "] Error".toList ++ location ++
    ": ".toList ++ diagnostic.message

def listText (diagnostics : List Diagnostic) : Text := Text.lines (diagnostics.map text)

end Diagnostic

end Lox
