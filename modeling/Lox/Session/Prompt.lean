import Lox.Session.Run
import Lox.Unicode.WhiteSpace

/-!
A session that runs its input line by line, with a prompt in front of every line.

An error in a line is reported and does not end the session. A line that is not well-formed text
ends it.
-/

set_option autoImplicit false
set_option relaxedAutoImplicit false

namespace Lox.Session

def promptText : Text := ">> ".toList

/-- The lines of some bytes, each with the line feed that ends it. -/
def byteLines : List UInt8 → List (List UInt8)
  | [] => []
  | byte :: bytes =>
      if byte = 10 then [byte] :: byteLines bytes
      else
        match byteLines bytes with
        | [] => [[byte]]
        | line :: lines => (byte :: line) :: lines

/-- Runs a line unless it is blank, and reports its error. -/
def answer (style : Style) (line : List UInt8) : Session Unit :=
  match Text.ofUtf8? line with
  | none => throw .invalidText
  | some source =>
      if source.all Unicode.isWhiteSpace then return ()
      else do
        match ← run style source with
        | none => return ()
        | some error => reportLine error.text

def answerAll (style : Style) : List (List UInt8) → Session Unit
  | [] => writeOut promptText
  | line :: lines => do
      writeOut promptText
      answer style line
      answerAll style lines

def runPrompt (style : Style) (input : List UInt8) : Session Unit :=
  answerAll style (byteLines input)

end Lox.Session
