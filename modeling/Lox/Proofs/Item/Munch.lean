import Lox.Proofs.Item.Enclosed
import Lox.Proofs.Item.Run

/-!
Which item stands at the start of a text, said without reading it.

Every kind of item has a condition on its own characters, and those that could be longer have one on
the text behind them. For each text that is not empty exactly one item meets its conditions there.
-/

set_option autoImplicit false
set_option relaxedAutoImplicit false

namespace Lox

private theorem Unicode.isAlphabetic_of_lt {c : Char} (low : c.toNat < 0x41) :
    isAlphabetic c = false := by
  obtain ⟨ranges, table⟩ : ∃ ranges, alphabeticRanges = (0x41, 0x5A) :: ranges := ⟨_, rfl⟩
  rw [isAlphabetic, table, covers, if_pos low]

namespace Item

def blanks : List Char := [' ', '\r', '\t', '\n']

def delimiters : List Char :=
  ['(', ')', '\x7b', '\x7d', ',', '.', '-', '+', ';', '*', '!', '=', '<', '>', '/', '"']

def closedSymbols : List Kind :=
  [.leftParen, .rightParen, .leftBrace, .rightBrace, .comma, .dot, .minus, .plus, .semicolon,
    .star, .bangEqual, .equalEqual, .lessEqual, .greaterEqual]

def openSymbols : List Kind := [.bang, .equal, .less, .greater]

/-- An item that can stand in front of the rest of a text. -/
inductive Fits : Item → Text → Prop
  | blank {c : Char} {rest : Text} (kind : c ∈ blanks) : Fits (.blank c) rest
  | lineComment {body rest : Text} (inside : ∀ c ∈ body, (c != '\n') = true)
      (stops : Text.Stops (· != '\n') rest) : Fits (.lineComment body) rest
  | blockComment {body rest : Text} (whole : CommentBody body) : Fits (.blockComment body) rest
  | openComment {body : Text} (never : ∀ front back, body = front ++ back → ¬ CommentBody front) :
      Fits (.openComment body) []
  | closedSymbol {kind : Kind} {rest : Text} (member : kind ∈ closedSymbols) :
      Fits (.symbol kind) rest
  | openSymbol {kind : Kind} {rest : Text} (member : kind ∈ openSymbols)
      (stops : Text.Stops (· == '=') rest) : Fits (.symbol kind) rest
  | slash {rest : Text} (stops : Text.Stops (fun c => c == '/' || c == '*') rest) :
      Fits (.symbol .slash) rest
  | string {content rest : Text} (whole : StringContent content) : Fits (.string content) rest
  | openString {content : Text}
      (never : ∀ front back, content = front ++ '"' :: back → ¬ StringContent front) :
      Fits (.openString content) []
  | number {numeral : Decimal} {rest : Text} (proper : numeral.Proper)
      (ends : numeral.EndsAt rest) : Fits (.number numeral) rest
  | word {c : Char} {tail rest : Text} (starts : startsWord c = true)
      (inside : ∀ d ∈ tail, continuesWord d = true) (stops : Text.Stops continuesWord rest) :
      Fits (.word (c :: tail)) rest
  | stray {c : Char} {rest : Text} (noBlank : c ∉ blanks) (noDelimiter : c ∉ delimiters)
      (noDigit : c.isDigit = false) (noWord : startsWord c = false) : Fits (.stray c) rest

variable {c : Char} {kind alone extended : Kind} {item : Item} {rest : Text}

private theorem isBlank_iff : isBlank c = true ↔ c ∈ blanks := by
  simp [isBlank, blanks, or_assoc]

private theorem not_mem_delimiters_iff :
    c ∉ delimiters ↔
      soleSymbol? c = none ∧ extensibleSymbol? c = none ∧ c ≠ '/' ∧ c ≠ '"' := by
  constructor
  · intro other
    have sole : soleSymbol? c = none := by
      unfold soleSymbol?
      split <;> simp_all [delimiters]
    have extensible : extensibleSymbol? c = none := by
      unfold extensibleSymbol?
      split <;> simp_all [delimiters]
    exact ⟨sole, extensible, by simp_all [delimiters], by simp_all [delimiters]⟩
  · intro other member
    have known : (delimiters.any fun d =>
        soleSymbol? d = none ∧ extensibleSymbol? d = none ∧ d ≠ '/' ∧ d ≠ '"') = false := by decide
    exact of_decide_eq_false (Text.eq_false_of_mem known member) other

private theorem mem_closedSymbols_of_soleSymbol? (sole : soleSymbol? c = some kind) :
    kind ∈ closedSymbols := by
  unfold soleSymbol? at sole
  split at sole <;> simp only [Option.some.injEq, reduceCtorEq] at sole <;> subst sole <;> decide

private theorem mem_symbols_of_extensibleSymbol?
    (pair : extensibleSymbol? c = some (alone, extended)) :
    alone ∈ openSymbols ∧ extended ∈ closedSymbols := by
  unfold extensibleSymbol? at pair
  split at pair <;> simp only [Option.some.injEq, Prod.mk.injEq, reduceCtorEq] at pair <;>
    obtain ⟨rfl, rfl⟩ := pair <;> decide

section classes

private theorem not_mem_delimiters_of_blank (blank : c ∈ blanks) : c ∉ delimiters := by
  intro member
  have apart : isBlank c = false := Text.eq_false_of_mem (by decide) member
  rw [isBlank_iff.mpr blank] at apart
  contradiction

private theorem isDigit_of_blank (blank : c ∈ blanks) : c.isDigit = false :=
  Text.eq_false_of_mem (by decide) blank

private theorem startsWord_of_blank (blank : c ∈ blanks) : startsWord c = false :=
  Text.eq_false_of_mem (by decide) blank

private theorem not_mem_delimiters_of_isDigit (digit : c.isDigit = true) : c ∉ delimiters := by
  intro member
  have apart : c.isDigit = false := Text.eq_false_of_mem (by decide) member
  rw [digit] at apart
  contradiction

private theorem not_mem_delimiters_of_startsWord (starts : startsWord c = true) :
    c ∉ delimiters := by
  intro member
  have apart : startsWord c = false := Text.eq_false_of_mem (by decide) member
  rw [starts] at apart
  contradiction

private theorem startsWord_of_isDigit (digit : c.isDigit = true) : startsWord c = false := by
  have code : c.toNat ≤ 57 := by
    simp only [Char.isDigit, Bool.and_eq_true, decide_eq_true_eq] at digit
    exact digit.2
  have underscore : c ≠ '_' := by
    rintro rfl
    contradiction
  have letter : Unicode.isAlphabetic c = false := Unicode.isAlphabetic_of_lt (by omega)
  simp [startsWord, letter, underscore]

private theorem isDigit_of_startsWord (starts : startsWord c = true) : c.isDigit = false := by
  cases digit : c.isDigit with
  | false => rfl
  | true => exact absurd (startsWord_of_isDigit digit) (by simp [starts])

end classes

private theorem first_of_not_mem_delimiters (other : c ∉ delimiters) (rest : Text) :
    first c rest =
      if c.isDigit then (.number (Decimal.read (c :: rest)).1, (Decimal.read (c :: rest)).2)
      else if startsWord c then
        (.word (c :: rest.takeWhile continuesWord), rest.dropWhile continuesWord)
      else if isBlank c then (.blank c, rest)
      else (.stray c, rest) := by
  obtain ⟨sole, extensible, slash, quote⟩ := not_mem_delimiters_iff.mp other
  simp [first, sole, extensible, slash, quote]

section first

private theorem fits_afterSlash (rest : Text) : Fits (afterSlash rest).1 (afterSlash rest).2 := by
  unfold afterSlash
  split
  · rename_i behind
    exact .lineComment (fun _ => Text.of_mem_takeWhile) (Text.stops_dropWhile _ behind)
  · rename_i behind
    split
    · rename_i read
      exact .blockComment (commentBody?_eq_some_iff.mp read).1
    · rename_i failed
      exact .openComment (commentBody?_eq_none_iff.mp failed)
  · rename_i noLine noBlock
    refine .slash ?_
    intro d first
    cases rest with
    | nil => contradiction
    | cons e rest =>
        obtain rfl := Option.some.inj first
        have line : e ≠ '/' := fun same => noLine rest (same ▸ rfl)
        have block : e ≠ '*' := fun same => noBlock rest (same ▸ rfl)
        simp [line, block]

private theorem fits_afterQuote (rest : Text) : Fits (afterQuote rest).1 (afterQuote rest).2 := by
  unfold afterQuote
  split
  · rename_i read
    exact .string (stringBody?_eq_some_iff.mp read).1
  · rename_i failed
    exact .openString (stringBody?_eq_none_iff.mp failed)

private theorem fits_afterExtensible (openAlone : alone ∈ openSymbols)
    (closedExtended : extended ∈ closedSymbols) (rest : Text) :
    Fits (afterExtensible alone extended rest).1 (afterExtensible alone extended rest).2 := by
  unfold afterExtensible
  split
  · exact .closedSymbol closedExtended
  · rename_i alone
    refine .openSymbol openAlone ?_
    intro d first
    cases rest with
    | nil => contradiction
    | cons e rest =>
        obtain rfl := Option.some.inj first
        have equals : e ≠ '=' := fun same => alone rest (same ▸ rfl)
        simp [equals]

theorem fits_first (c : Char) (rest : Text) : Fits (first c rest).1 (first c rest).2 := by
  unfold first
  split
  · rename_i sole
    exact .closedSymbol (mem_closedSymbols_of_soleSymbol? sole)
  · rename_i pair
    obtain ⟨openAlone, closedExtended⟩ := mem_symbols_of_extensibleSymbol? pair
    exact fits_afterExtensible openAlone closedExtended rest
  · rename_i sole extensible
    split
    · exact fits_afterSlash rest
    · rename_i slash
      split
      · exact fits_afterQuote rest
      · rename_i quote
        have other : c ∉ delimiters := not_mem_delimiters_iff.mpr ⟨sole, extensible, slash, quote⟩
        split
        · rename_i digit
          exact .number (Decimal.proper_read digit rest) (Decimal.endsAt_read (c :: rest))
        · rename_i noDigit
          split
          · rename_i starts
            exact .word starts (fun _ => Text.of_mem_takeWhile) (Text.stops_dropWhile _ rest)
          · rename_i noWord
            split
            · rename_i blank
              exact .blank (isBlank_iff.mp blank)
            · rename_i noBlank
              refine .stray ?_ other (by simpa using noDigit) (by simpa using noWord)
              exact fun member => noBlank (isBlank_iff.mpr member)

end first

section fits

private theorem first_slash (rest : Text) : first '/' rest = afterSlash rest := rfl

private theorem first_quote (rest : Text) : first '"' rest = afterQuote rest := rfl

theorem afterSlash_of_stops (stops : Text.Stops (fun c => c == '/' || c == '*') rest) :
    afterSlash rest = (.symbol .slash, rest) := by
  unfold afterSlash
  split
  · exact absurd (Text.stops_cons.mp stops) (by decide)
  · exact absurd (Text.stops_cons.mp stops) (by decide)
  · rfl

theorem afterExtensible_of_stops (stops : Text.Stops (· == '=') rest) :
    afterExtensible alone extended rest = (.symbol alone, rest) := by
  unfold afterExtensible
  split
  · exact absurd (Text.stops_cons.mp stops) (by decide)
  · rfl

private theorem first_of_closed (member : kind ∈ closedSymbols) (rest : Text) :
    ∃ c tail, kind.symbolText ++ rest = c :: tail ∧ first c tail = (.symbol kind, rest) := by
  simp only [closedSymbols, List.mem_cons, List.not_mem_nil, or_false] at member
  rcases member with rfl | rfl | rfl | rfl | rfl | rfl | rfl | rfl | rfl | rfl | rfl | rfl | rfl |
    rfl <;> exact ⟨_, _, rfl, rfl⟩

private theorem first_of_open (member : kind ∈ openSymbols) (stops : Text.Stops (· == '=') rest) :
    ∃ c tail, kind.symbolText ++ rest = c :: tail ∧ first c tail = (.symbol kind, rest) := by
  simp only [openSymbols, List.mem_cons, List.not_mem_nil, or_false] at member
  rcases member with rfl | rfl | rfl | rfl <;>
    exact ⟨_, _, rfl, afterExtensible_of_stops stops⟩

/-- An item that fits in front of a text is the one that is read there. -/
theorem Fits.read (fits : Fits item rest) :
    ∃ c tail, item.text ++ rest = c :: tail ∧ first c tail = (item, rest) := by
  cases fits with
  | @blank c _ kind =>
      refine ⟨c, rest, rfl, ?_⟩
      rw [first_of_not_mem_delimiters (not_mem_delimiters_of_blank kind)]
      simp [isDigit_of_blank kind, startsWord_of_blank kind, isBlank_iff.mpr kind]
  | @lineComment body _ inside stops =>
      refine ⟨'/', '/' :: (body ++ rest), rfl, ?_⟩
      rw [first_slash, afterSlash, Text.takeWhile_append_of_stops inside stops,
        Text.dropWhile_append_of_stops inside stops]
  | @blockComment body _ whole =>
      refine ⟨'/', '*' :: (body ++ rest), rfl, ?_⟩
      rw [first_slash, afterSlash, commentBody?_eq_some_iff.mpr ⟨whole, rfl⟩]
  | @openComment body never =>
      refine ⟨'/', '*' :: body, by simp [Item.text], ?_⟩
      rw [first_slash, afterSlash, commentBody?_eq_none_iff.mpr never]
  | closedSymbol member => exact first_of_closed member rest
  | openSymbol member stops => exact first_of_open member stops
  | slash stops => exact ⟨'/', rest, rfl, afterSlash_of_stops stops⟩
  | @string content _ whole =>
      refine ⟨'"', content ++ '"' :: rest, by simp [Item.text], ?_⟩
      rw [first_quote, afterQuote, stringBody?_eq_some_iff.mpr ⟨whole, rfl⟩]
  | @openString content never =>
      refine ⟨'"', content, by simp [Item.text], ?_⟩
      rw [first_quote, afterQuote, stringBody?_eq_none_iff.mpr never]
  | @number numeral _ proper ends =>
      have read := Decimal.read_text_append proper ends
      have digit : ∃ c tail, numeral.text ++ rest = c :: tail ∧ c.isDigit = true := by
        obtain ⟨c, whole, first⟩ := List.exists_cons_of_ne_nil proper.ne_nil
        have digit := proper.whole c (first ▸ List.mem_cons_self)
        unfold Decimal.text
        split
        · exact ⟨c, whole ++ rest, by rw [first]; rfl, digit⟩
        · exact ⟨c, _, by rw [first]; rfl, digit⟩
      obtain ⟨c, tail, split, digit⟩ := digit
      refine ⟨c, tail, split, ?_⟩
      rw [first_of_not_mem_delimiters (not_mem_delimiters_of_isDigit digit), if_pos digit, ← split,
        read]
  | @word c tail _ starts inside stops =>
      refine ⟨c, tail ++ rest, rfl, ?_⟩
      rw [first_of_not_mem_delimiters (not_mem_delimiters_of_startsWord starts),
        isDigit_of_startsWord starts, if_pos starts, Text.takeWhile_append_of_stops inside stops,
        Text.dropWhile_append_of_stops inside stops]
      rfl
  | @stray c _ noBlank noDelimiter noDigit noWord =>
      refine ⟨c, rest, rfl, ?_⟩
      have blank : isBlank c = false := by
        rw [← Bool.not_eq_true]
        exact fun blank => noBlank (isBlank_iff.mp blank)
      rw [first_of_not_mem_delimiters noDelimiter]
      simp [noDigit, noWord, blank]

end fits

end Item

end Lox
