import Lox.Text.Cursor
import Lox.Text.Quoted

/-!
How a cursor shows itself: in one line without its text, or in several lines with it.
-/

set_option autoImplicit false
set_option relaxedAutoImplicit false

namespace Lox.Cursor

def summary (cursor : Cursor) : Text :=
  "Cursor \x7b line: Line(".toList ++ Text.ofNat cursor.line ++ "), offset: ".toList ++
    Text.ofNat cursor.offset ++ " \x7d".toList

/-- The line, the offset and the quoted text of a cursor, one field after the other. -/
def description (cursor : Cursor) : Text :=
  Text.lines
    ["Cursor \x7b".toList,
      "    line: Line(".toList,
      "        ".toList ++ Text.ofNat cursor.line ++ ",".toList,
      "    ),".toList,
      "    offset: ".toList ++ Text.ofNat cursor.offset ++ ",".toList,
      "    source: ".toList ++ Text.quote cursor.source ++ ",".toList,
      "\x7d".toList]

end Lox.Cursor
