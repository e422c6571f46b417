import Lox.Item.Basic
import Lox.Unicode.Alphabetic
import Lox.Unicode.Numeric

/-!
Reading a source text into items.

Every reader takes the longest item at the start of a text and gives what follows it. The main
statement is that the items of a text, written one after the other, are that text.
-/

set_option autoImplicit false
set_option relaxedAutoImplicit false

namespace Lox.Item

/-- The symbols that no second character extends. -/
def soleSymbol? : Char → Option Kind
  | '(' => some .leftParen
  | ')' => some .rightParen
  | '\x7b' => some .leftBrace
  | '\x7d' => some .rightBrace
  | ',' => some .comma
  | '.' => some .dot
  | '-' => some .minus
  | '+' => some .plus
  | ';' => some .semicolon
  | '*' => some .star
  | _ => none

/-- The symbols that an equals sign extends, without and with it. -/
def extensibleSymbol? : Char → Option (Kind × Kind)
  | '!' => some (.bang, .bangEqual)
  | '=' => some (.equal, .equalEqual)
  | '<' => some (.less, .lessEqual)
  | '>' => some (.greater, .greaterEqual)
  | _ => none

def isBlank (c : Char) : Bool := c == ' ' || c == '\r' || c == '\t' || c == '\n'

def startsWord (c : Char) : Bool := Unicode.isAlphabetic c || c == '_'

def continuesWord (c : Char) : Bool :=
  Unicode.isAlphabetic c || Unicode.isNumeric c || c == '_' || c == '-'

def prepend (front : Text) (read : Text × Text) : Text × Text := (front ++ read.1, read.2)

/-- Reads a block comment up to and with the end of the outermost of `depth` open ones. Nothing is
read if the text ends before. -/
def commentBody? : Nat → Text → Option (Text × Text)
  | 0, rest => some ([], rest)
  | _ + 1, [] => none
  | depth + 1, '/' :: '*' :: rest => (commentBody? (depth + 2) rest).map (prepend ['/', '*'])
  | depth + 1, '*' :: '/' :: rest => (commentBody? depth rest).map (prepend ['*', '/'])
  | depth + 1, c :: rest => (commentBody? (depth + 1) rest).map (prepend [c])

/-- Reads a string up to its closing quote, and drops that quote. A backslash takes the character
behind it along. Nothing is read if the text ends before. -/
def stringBody? : Text → Option (Text × Text)
  | [] => none
  | '"' :: rest => some ([], rest)
  | '\\' :: c :: rest => (stringBody? rest).map (prepend ['\\', c])
  | c :: rest => (stringBody? rest).map (prepend [c])

def afterSlash : Text → Item × Text
  | '/' :: rest => (.lineComment (rest.takeWhile (· != '\n')), rest.dropWhile (· != '\n'))
  | '*' :: rest =>
      match commentBody? 1 rest with
      | some (body, rest) => (.blockComment body, rest)
      | none => (.openComment rest, [])
  | rest => (.symbol .slash, rest)

def afterQuote (rest : Text) : Item × Text :=
  match stringBody? rest with
  | some (content, rest) => (.string content, rest)
  | none => (.openString rest, [])

def afterExtensible (alone extended : Kind) : Text → Item × Text
  | '=' :: rest => (.symbol extended, rest)
  | rest => (.symbol alone, rest)

/-- The first item of a text that begins with the given character, and what follows the item. -/
def first (c : Char) (rest : Text) : Item × Text :=
  match soleSymbol? c, extensibleSymbol? c with
  | some kind, _ => (.symbol kind, rest)
  | none, some (alone, extended) => afterExtensible alone extended rest
  | none, none =>
      if c = '/' then afterSlash rest
      else if c = '"' then afterQuote rest
      else if c.isDigit then
        let (numeral, rest) := Decimal.read (c :: rest)
        (.number numeral, rest)
      else if startsWord c then
        (.word (c :: rest.takeWhile continuesWord), rest.dropWhile continuesWord)
      else if isBlank c then (.blank c, rest)
      else (.stray c, rest)

def readWithin : Nat → Text → List Item
  | 0, _ => []
  | _ + 1, [] => []
  | bound + 1, c :: rest =>
      let (item, rest) := first c rest
      item :: readWithin bound rest

/-- The items of a text. No item is empty, so there are no more of them than characters. -/
def ofText (text : Text) : List Item := readWithin text.length text

theorem symbolText_of_soleSymbol? {c : Char} {kind : Kind} (sole : soleSymbol? c = some kind) :
    kind.symbolText = [c] := by
  unfold soleSymbol? at sole
  split at sole <;> simp only [Option.some.injEq, reduceCtorEq] at sole <;> subst sole <;> rfl

theorem symbolText_of_extensibleSymbol? {c : Char} {alone extended : Kind}
    (pair : extensibleSymbol? c = some (alone, extended)) :
    alone.symbolText = [c] ∧ extended.symbolText = [c, '='] := by
  unfold extensibleSymbol? at pair
  split at pair <;> simp only [Option.some.injEq, Prod.mk.injEq, reduceCtorEq] at pair <;>
    obtain ⟨rfl, rfl⟩ := pair <;> exact ⟨rfl, rfl⟩

private theorem exists_of_map_prepend {front text rest : Text} {found : Option (Text × Text)}
    (read : found.map (prepend front) = some (text, rest)) :
    ∃ inner, found = some (inner, rest) ∧ text = front ++ inner := by
  obtain ⟨⟨inner, behind⟩, below, same⟩ := Option.map_eq_some_iff.mp read
  obtain ⟨rfl, rfl⟩ := Prod.mk.inj same
  exact ⟨inner, below, rfl⟩

theorem append_of_commentBody? {depth : Nat} {text body rest : Text}
    (read : commentBody? depth text = some (body, rest)) : body ++ rest = text := by
  fun_induction commentBody? depth text generalizing body rest with
  | case1 =>
      obtain ⟨rfl, rfl⟩ := Prod.mk.inj (Option.some.inj read)
      rfl
  | case2 => contradiction
  | case3 depth behind ih | case4 depth behind ih | case5 depth c behind _ _ ih =>
      obtain ⟨inner, below, rfl⟩ := exists_of_map_prepend read
      rw [List.append_assoc, ih below]
      rfl

theorem append_of_stringBody? {text content rest : Text}
    (read : stringBody? text = some (content, rest)) : content ++ '"' :: rest = text := by
  fun_induction stringBody? text generalizing content rest with
  | case1 => contradiction
  | case2 =>
      obtain ⟨rfl, rfl⟩ := Prod.mk.inj (Option.some.inj read)
      rfl
  | case3 c behind ih | case4 c behind _ _ ih =>
      obtain ⟨inner, below, rfl⟩ := exists_of_map_prepend read
      rw [List.append_assoc, ih below]
      rfl

private theorem text_append_afterSlash (text : Text) :
    (afterSlash text).1.text ++ (afterSlash text).2 = '/' :: text := by
  unfold afterSlash
  split
  · simp [Item.text]
  · split
    · rename_i read
      simp [Item.text, append_of_commentBody? read]
    · simp [Item.text]
  · rfl

private theorem text_append_afterQuote (text : Text) :
    (afterQuote text).1.text ++ (afterQuote text).2 = '"' :: text := by
  unfold afterQuote
  split
  · rename_i read
    simp [Item.text, append_of_stringBody? read]
  · simp [Item.text]

theorem text_append_first (c : Char) (text : Text) :
    (first c text).1.text ++ (first c text).2 = c :: text := by
  unfold first
  split
  · rename_i kind sole
    simp [Item.text, symbolText_of_soleSymbol? sole]
  · rename_i alone extended _ pair
    have texts := symbolText_of_extensibleSymbol? pair
    unfold afterExtensible
    split <;> simp [Item.text, texts.1, texts.2]
  · split
    · rename_i slash
      rw [slash, text_append_afterSlash]
    · split
      · rename_i quote
        rw [quote, text_append_afterQuote]
      · split
        · exact Decimal.text_append_read (c :: text)
        · split
          · simp [Item.text]
          · split <;> simp [Item.text]

theorem text_first_ne_nil (c : Char) (text : Text) : (first c text).1.text ≠ [] := by
  unfold first
  split
  · rename_i kind sole
    simp [Item.text, symbolText_of_soleSymbol? sole]
  · rename_i alone extended _ pair
    have texts := symbolText_of_extensibleSymbol? pair
    unfold afterExtensible
    split <;> simp [Item.text, texts.1, texts.2]
  · split
    · unfold afterSlash
      split
      · simp [Item.text]
      · split <;> simp [Item.text]
      · simp [Item.text, Kind.symbolText]
    · split
      · unfold afterQuote
        split <;> simp [Item.text]
      · split
        · rename_i digit
          exact Decimal.text_read_ne_nil digit
        · split
          · simp [Item.text]
          · split <;> simp [Item.text]

theorem length_first_lt (c : Char) (text : Text) :
    (first c text).2.length < (c :: text).length := by
  have whole := congrArg List.length (text_append_first c text)
  have nonempty := List.length_pos_iff.mpr (text_first_ne_nil c text)
  simp only [List.length_append] at whole
  omega

theorem flatMap_text_readWithin {bound : Nat} {text : Text} (enough : text.length ≤ bound) :
    (readWithin bound text).flatMap Item.text = text := by
  induction bound generalizing text with
  | zero => simp_all [readWithin]
  | succ bound ih =>
      cases text with
      | nil => rfl
      | cons c rest =>
          have shorter := length_first_lt c rest
          simp only [List.length_cons] at enough shorter
          simp only [readWithin, List.flatMap_cons]
          rw [ih (by omega), text_append_first]

theorem flatMap_text_ofText (text : Text) : (ofText text).flatMap Item.text = text :=
  flatMap_text_readWithin (Nat.le_refl _)

end Lox.Item
