import Lox.Text.Basic
import Lox.Unicode.Unprintable

/-!
Quoted texts: the text between double quotes, on one line and in visible characters.
-/

set_option autoImplicit false
set_option relaxedAutoImplicit false

namespace Lox.Text

/-- One character inside quotes: the quote, the backslash and the common controls have an escape
of two characters, other characters without a glyph are given by their number. -/
def escape : Char → Text
  | '\x00' => ['\\', '0']
  | '\t' => ['\\', 't']
  | '\n' => ['\\', 'n']
  | '\r' => ['\\', 'r']
  | '"' => ['\\', '"']
  | '\\' => ['\\', '\\']
  | c =>
      if Unicode.isUnprintable c then
        "\\u\x7b".toList ++ Nat.toDigits 16 c.toNat ++ "\x7d".toList
      else [c]

def quote (text : Text) : Text := '"' :: text.flatMap escape ++ ['"']

end Lox.Text
