import Lox.Number.Decimal
import Lox.Token.Kind

/-!
Lexical items: the pieces into which a source text falls without gaps.
-/

set_option autoImplicit false
set_option relaxedAutoImplicit false

namespace Lox

/-- A piece of source text. An open comment or string runs to the end of the text. -/
inductive Item
  /-- A space, a tab, a carriage return or a line feed. -/
  | blank (c : Char)
  /-- The part of a comment behind its two slashes, up to the end of the line. -/
  | lineComment (body : Text)
  /-- The part of a comment behind its opening, with its closing. -/
  | blockComment (body : Text)
  /-- The part of a comment behind its opening, when it is never closed. -/
  | openComment (body : Text)
  /-- One of the symbols. -/
  | symbol (kind : Kind)
  /-- What stands between two quotes. -/
  | string (content : Text)
  /-- What follows a quote that has no counterpart. -/
  | openString (content : Text)
  /-- A numeral. -/
  | number (numeral : Decimal)
  /-- An identifier or a reserved word. -/
  | word (text : Text)
  /-- A character that begins none of the other pieces. -/
  | stray (c : Char)
  deriving DecidableEq

namespace Item

def text : Item → Text
  | blank c => [c]
  | lineComment body => '/' :: '/' :: body
  | blockComment body => '/' :: '*' :: body
  | openComment body => '/' :: '*' :: body
  | symbol kind => kind.symbolText
  | string content => '"' :: content ++ ['"']
  | openString content => '"' :: content
  | number numeral => numeral.text
  | word text => text
  | stray c => [c]

end Item

end Lox
