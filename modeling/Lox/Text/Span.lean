import Lox.Text.Cursor

/-!
Spans: stretches of a source text that remember where they start.
-/

set_option autoImplicit false
set_option relaxedAutoImplicit false

namespace Lox

/-- A stretch of a source text and the place of its first character. -/
structure Span where
  text : Text
  start : Place
  deriving DecidableEq

namespace Span

/-- The span between two cursors, if the text between them exists. -/
def between? (first last : Cursor) : Option Span :=
  (first.slice? last).map (⟨·, first.place⟩)

def line (span : Span) : Nat := span.start.line

def position (span : Span) : Nat := span.start.offset

def length (span : Span) : Nat := Text.size span.text

def isEmpty (span : Span) : Bool := span.length == 0

end Span

end Lox
