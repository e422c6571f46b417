import Lox.Token.Kind

/-!
The reserved words. A word is reserved only if it agrees with one of them in full.
-/

set_option autoImplicit false
set_option relaxedAutoImplicit false

namespace Lox.Kind

def reservedWords : List (Text × Kind) :=
  [("and".toList, andWord), ("class".toList, classWord), ("else".toList, elseWord),
    ("false".toList, falseWord), ("for".toList, forWord), ("fun".toList, funWord),
    ("if".toList, ifWord), ("nil".toList, nilWord), ("or".toList, orWord),
    ("print".toList, printWord), ("return".toList, returnWord), ("super".toList, superWord),
    ("this".toList, thisWord), ("true".toList, trueWord), ("var".toList, varWord),
    ("while".toList, whileWord)]

def ofReserved? (word : Text) : Option Kind := reservedWords.lookup word

/-- The kind of any word: that of the reserved word it is, or else an identifier. -/
def ofWord (word : Text) : Kind := (ofReserved? word).getD identifier

end Lox.Kind
