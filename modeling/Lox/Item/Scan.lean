import Lox.Item.Reader
import Lox.Item.Problem
import Lox.Token.Basic
import Lox.Token.ReservedWord

/-!
Scanning: the tokens of a source text and the lexical errors in it.

Both are views of the items of the text. Every item that is a token gives that token, every item
that is a problem gives an error, and a token for the end of the text comes last.
-/

set_option autoImplicit false
set_option relaxedAutoImplicit false

namespace Lox

def Literal.ofKind? : Kind → Option Literal
  | .trueWord => some (.bool true)
  | .falseWord => some (.bool false)
  | _ => none

namespace Item

/-- The token that an item at some place is. A string starts behind its opening quote. -/
def token? (place : Place) : Item → Option Token
  | symbol kind => some ⟨kind, none, ⟨kind.symbolText, place⟩⟩
  | string content => some ⟨.string, some (.string content), ⟨content, place.step '"'⟩⟩
  | number numeral =>
      some ⟨.number, some (.number numeral.nearest), ⟨numeral.text, place⟩⟩
  | word text =>
      let kind := Kind.ofWord text
      some ⟨kind, Literal.ofKind? kind, ⟨text, place⟩⟩
  | _ => none

def problem? : Item → Option ScanProblem
  | stray c => some (.unexpectedCharacter c)
  | openString _ => some .unterminatedString
  | openComment _ => some .unterminatedBlockComment
  | _ => none

def error? (place : Place) (item : Item) : Option ScanError := item.problem?.map (⟨·, place⟩)

/-- Items in order, each with the place where it starts. -/
def locate : Place → List Item → List (Place × Item)
  | _, [] => []
  | place, item :: items => (place, item) :: locate (place.after item.text) items

end Item

def Token.atEnd (place : Place) : Token := ⟨.eof, none, ⟨[], place⟩⟩

/-- The outcome of scanning. There are tokens also if there are errors. -/
structure Scan where
  tokens : List Token
  errors : List ScanError
  deriving DecidableEq

def scan (source : Text) : Scan :=
  let items := Item.locate .start (Item.ofText source)
  { tokens := items.filterMap (fun (place, item) => item.token? place) ++
      [.atEnd (Place.start.after source)]
    errors := items.filterMap (fun (place, item) => item.error? place) }

/-- The tokens of a text without lexical errors, or else the errors. -/
def Scan.result (scanned : Scan) : Except (List ScanError) (List Token) :=
  match scanned.errors with
  | [] => .ok scanned.tokens
  | errors => .error errors

end Lox
