import Lox.Item.Scan
import Lox.Proofs.Item.Munch

/-!
A text is tiled by its items in one way only, and scanning gives what each of them stands for.

A tiling has no gaps, and each of its items fits in front of those behind it. The items that stand
for a token give the tokens in their order, the faulty ones the errors, and the others nothing.
-/

set_option autoImplicit false
set_option relaxedAutoImplicit false

namespace Lox

namespace Kind

variable {word : Text} {kind : Kind}

theorem ofReserved?_eq_some_iff : ofReserved? word = some kind ↔ (word, kind) ∈ reservedWords := by
  have distinct : ∀ pair ∈ reservedWords, reservedWords.lookup pair.1 = some pair.2 := by decide
  constructor
  · intro found
    obtain ⟨front, back, split, -⟩ := List.lookup_eq_some_iff.mp found
    rw [split]
    exact List.mem_append_right _ List.mem_cons_self
  · exact distinct (word, kind)

theorem ofReserved?_eq_none_iff :
    ofReserved? word = none ↔ ∀ kind, (word, kind) ∉ reservedWords := by
  simp [Option.eq_none_iff_forall_ne_some, ofReserved?_eq_some_iff]

end Kind

namespace Item

/-- Items of which each fits in front of the next ones and of the rest of a text. -/
inductive FitTogether (rest : Text) : List Item → Prop
  | nil : FitTogether rest []
  | cons {item : Item} {items : List Item} (first : Fits item (items.flatMap Item.text ++ rest))
      (more : FitTogether rest items) : FitTogether rest (item :: items)

/-- Items that make up a text without gaps, each of them as long as it can be. -/
structure Tiling (items : List Item) (text : Text) : Prop where
  whole : items.flatMap Item.text = text
  fit : FitTogether [] items

inductive IsToken (place : Place) : Item → Token → Prop
  | symbol (kind : Kind) : IsToken place (.symbol kind) ⟨kind, none, ⟨kind.symbolText, place⟩⟩
  | string (content : Text) : IsToken place (.string content)
      ⟨.string, some (.string content), ⟨content, place.step '"'⟩⟩
  | number (numeral : Decimal) : IsToken place (.number numeral)
      ⟨.number, some (.number numeral.nearest), ⟨numeral.text, place⟩⟩
  | reserved {word : Text} {kind : Kind} (member : (word, kind) ∈ Kind.reservedWords) :
      IsToken place (.word word) ⟨kind, Literal.ofKind? kind, ⟨word, place⟩⟩
  | identifier {word : Text} (free : ∀ kind, (word, kind) ∉ Kind.reservedWords) :
      IsToken place (.word word) ⟨.identifier, none, ⟨word, place⟩⟩

inductive IsError (place : Place) : Item → ScanError → Prop
  | stray (c : Char) : IsError place (.stray c) ⟨.unexpectedCharacter c, place⟩
  | openString (content : Text) :
      IsError place (.openString content) ⟨.unterminatedString, place⟩
  | openComment (body : Text) :
      IsError place (.openComment body) ⟨.unterminatedBlockComment, place⟩

inductive IsSilent : Item → Prop
  | blank (c : Char) : IsSilent (.blank c)
  | lineComment (body : Text) : IsSilent (.lineComment body)
  | blockComment (body : Text) : IsSilent (.blockComment body)

/-- The tokens and the errors that items from some place on stand for, in order. The token for the
end of the text comes last. -/
inductive Emits : Place → List Item → List Token → List ScanError → Prop
  | done (place : Place) : Emits place [] [.atEnd place] []
  | token {place : Place} {item : Item} {items : List Item} {token : Token} {tokens : List Token}
      {errors : List ScanError} (first : IsToken place item token)
      (more : Emits (place.after item.text) items tokens errors) :
      Emits place (item :: items) (token :: tokens) errors
  | error {place : Place} {item : Item} {items : List Item} {error : ScanError}
      {tokens : List Token} {errors : List ScanError} (first : IsError place item error)
      (more : Emits (place.after item.text) items tokens errors) :
      Emits place (item :: items) tokens (error :: errors)
  | silent {place : Place} {item : Item} {items : List Item} {tokens : List Token}
      {errors : List ScanError} (first : IsSilent item)
      (more : Emits (place.after item.text) items tokens errors) :
      Emits place (item :: items) tokens errors

section tiling

variable {items others : List Item} {item : Item} {text rest : Text}

theorem Fits.text_ne_nil (fits : Fits item rest) : item.text ≠ [] := by
  obtain ⟨c, tail, -, read⟩ := fits.read
  have nonempty := text_first_ne_nil c tail
  rw [read] at nonempty
  exact nonempty

theorem FitTogether.text_ne_nil (fit : FitTogether rest items) :
    ∀ item ∈ items, item.text ≠ [] := by
  induction fit with
  | nil => nofun
  | cons first more ih =>
      intro item member
      rcases List.mem_cons.mp member with rfl | member
      · exact first.text_ne_nil
      · exact ih item member

theorem FitTogether.eq_nil (fit : FitTogether rest items) (none : items.flatMap Item.text = []) :
    items = [] := by
  cases items with
  | nil => rfl
  | cons item items =>
      have text := fit.text_ne_nil item List.mem_cons_self
      rw [List.flatMap_cons, List.append_eq_nil_iff] at none
      exact absurd none.1 text

theorem fitTogether_cons :
    FitTogether rest (item :: items) ↔
      Fits item (items.flatMap Item.text ++ rest) ∧ FitTogether rest items := by
  constructor
  · intro fit
    cases fit with
    | cons first more => exact ⟨first, more⟩
  · rintro ⟨first, more⟩
    exact .cons first more

theorem fitTogether_append :
    FitTogether rest (items ++ others) ↔
      FitTogether (others.flatMap Item.text ++ rest) items ∧ FitTogether rest others := by
  induction items with
  | nil => exact ⟨fun fit => ⟨.nil, fit⟩, fun fit => fit.2⟩
  | cons item items ih =>
      rw [List.cons_append, fitTogether_cons, fitTogether_cons, ih, List.flatMap_append,
        List.append_assoc, and_assoc]

private theorem readWithin_succ_cons (bound : Nat) (c : Char) (rest : Text) :
    readWithin (bound + 1) (c :: rest) =
      (first c rest).1 :: readWithin bound (first c rest).2 := rfl

private theorem fitTogether_readWithin {bound : Nat} (enough : text.length ≤ bound) :
    FitTogether [] (readWithin bound text) := by
  induction bound generalizing text with
  | zero => exact .nil
  | succ bound ih =>
      cases text with
      | nil => exact .nil
      | cons c rest =>
          have shorter := length_first_lt c rest
          simp only [List.length_cons] at enough shorter
          have small : (first c rest).2.length ≤ bound := by omega
          rw [readWithin_succ_cons]
          refine .cons ?_ (ih small)
          rw [flatMap_text_readWithin small, List.append_nil]
          exact fits_first c rest

/-- Items that fit together are the ones that are read, as each is the first of what is left. -/
private theorem readWithin_of_fitTogether (fit : FitTogether [] items) {bound : Nat}
    (enough : (items.flatMap Item.text).length ≤ bound) :
    readWithin bound (items.flatMap Item.text) = items := by
  induction fit generalizing bound with
  | nil => cases bound <;> rfl
  | @cons item items fits more ih =>
      rw [List.append_nil] at fits
      obtain ⟨c, tail, split, read⟩ := fits.read
      have shorter := length_first_lt c tail
      rw [List.flatMap_cons, split] at enough ⊢
      rw [read] at shorter
      cases bound with
      | zero => contradiction
      | succ bound =>
          simp only [List.length_cons] at enough shorter
          rw [readWithin_succ_cons, read, ih (by omega)]

theorem tiling_ofText (text : Text) : Tiling (ofText text) text :=
  ⟨flatMap_text_ofText text, fitTogether_readWithin (Nat.le_refl _)⟩

theorem Tiling.eq_ofText (tiling : Tiling items text) : items = ofText text := by
  obtain ⟨rfl, fit⟩ := tiling
  exact (readWithin_of_fitTogether fit (Nat.le_refl _)).symm

end tiling

section emits

variable {place : Place} {item : Item} {items : List Item} {token : Token} {tokens : List Token}
variable {errors : List ScanError} {error : ScanError}

private theorem token?_word_of_reserved {word : Text} {kind : Kind}
    (member : (word, kind) ∈ Kind.reservedWords) :
    (Item.word word).token? place = some ⟨kind, Literal.ofKind? kind, ⟨word, place⟩⟩ := by
  simp [token?, Kind.ofWord, Kind.ofReserved?_eq_some_iff.mpr member]

private theorem token?_word_of_free {word : Text}
    (free : ∀ kind, (word, kind) ∉ Kind.reservedWords) :
    (Item.word word).token? place = some ⟨.identifier, none, ⟨word, place⟩⟩ := by
  simp [token?, Kind.ofWord, Kind.ofReserved?_eq_none_iff.mpr free, Literal.ofKind?]

private theorem isToken_word (place : Place) (word : Text) :
    ∃ token, IsToken place (.word word) token := by
  cases reserved : Kind.ofReserved? word with
  | none => exact ⟨_, .identifier (Kind.ofReserved?_eq_none_iff.mp reserved)⟩
  | some kind => exact ⟨_, .reserved (Kind.ofReserved?_eq_some_iff.mp reserved)⟩

theorem IsToken.views (is : IsToken place item token) :
    item.token? place = some token ∧ item.error? place = none := by
  cases is with
  | symbol | string | number => exact ⟨rfl, rfl⟩
  | reserved member => exact ⟨token?_word_of_reserved member, rfl⟩
  | identifier free => exact ⟨token?_word_of_free free, rfl⟩

theorem IsError.views (is : IsError place item error) :
    item.token? place = none ∧ item.error? place = some error := by
  cases is <;> exact ⟨rfl, rfl⟩

theorem IsSilent.views (is : IsSilent item) (place : Place) :
    item.token? place = none ∧ item.error? place = none := by
  cases is <;> exact ⟨rfl, rfl⟩

private theorem isToken_or_isError_or_isSilent (place : Place) (item : Item) :
    (∃ token, IsToken place item token) ∨ (∃ error, IsError place item error) ∨ IsSilent item := by
  cases item with
  | blank c => exact .inr (.inr (.blank c))
  | lineComment body => exact .inr (.inr (.lineComment body))
  | blockComment body => exact .inr (.inr (.blockComment body))
  | openComment body => exact .inr (.inl ⟨_, .openComment body⟩)
  | symbol kind => exact .inl ⟨_, .symbol kind⟩
  | string content => exact .inl ⟨_, .string content⟩
  | openString content => exact .inr (.inl ⟨_, .openString content⟩)
  | number numeral => exact .inl ⟨_, .number numeral⟩
  | word word => exact .inl (isToken_word place word)
  | stray c => exact .inr (.inl ⟨_, .stray c⟩)

theorem isToken_iff : IsToken place item token ↔ item.token? place = some token := by
  constructor
  · exact fun is => is.views.1
  · intro found
    rcases isToken_or_isError_or_isSilent place item with ⟨other, is⟩ | ⟨error, is⟩ | is
    · rw [is.views.1] at found
      obtain rfl := Option.some.inj found
      exact is
    · rw [is.views.1] at found
      contradiction
    · rw [(is.views place).1] at found
      contradiction

def tokensFrom (place : Place) (items : List Item) : List Token :=
  (locate place items).filterMap fun (place, item) => item.token? place

def errorsFrom (place : Place) (items : List Item) : List ScanError :=
  (locate place items).filterMap fun (place, item) => item.error? place

section seen

variable {α : Type} (view : Place → Item → Option α)

/-- What items from some place on give, each for itself. Tokens and errors are two cases of it. -/
def seenFrom (place : Place) (items : List Item) : List α :=
  (locate place items).filterMap fun (place, item) => view place item

theorem seenFrom_cons (place : Place) (item : Item) (items : List Item) :
    seenFrom view place (item :: items) =
      (view place item).toList ++ seenFrom view (place.after item.text) items := by
  cases found : view place item <;> simp [seenFrom, locate, found]

theorem seenFrom_append (place : Place) (items others : List Item) :
    seenFrom view place (items ++ others) =
      seenFrom view place items ++
        seenFrom view (place.after (items.flatMap Item.text)) others := by
  induction items generalizing place with
  | nil => rfl
  | cons item items ih =>
      rw [List.cons_append, seenFrom_cons, seenFrom_cons, ih, List.flatMap_cons,
        Place.after_append, List.append_assoc]

theorem exists_append_of_mem_seenFrom {a : α} (seen : a ∈ seenFrom view place items) :
    ∃ front item back, items = front ++ item :: back ∧
      view (place.after (front.flatMap Item.text)) item = some a := by
  induction items generalizing place with
  | nil => contradiction
  | cons item items ih =>
      rw [seenFrom_cons] at seen
      rcases List.mem_append.mp seen with own | later
      · exact ⟨[], item, items, rfl, Option.mem_toList.mp own⟩
      · obtain ⟨front, other, back, rfl, found⟩ := ih later
        refine ⟨item :: front, other, back, rfl, ?_⟩
        rw [List.flatMap_cons, Place.after_append]
        exact found

end seen

theorem tokensFrom_eq (place : Place) (items : List Item) :
    tokensFrom place items = seenFrom (fun place item => item.token? place) place items := rfl

theorem errorsFrom_eq (place : Place) (items : List Item) :
    errorsFrom place items = seenFrom (fun place item => item.error? place) place items := rfl

theorem tokensFrom_cons (place : Place) (item : Item) (items : List Item) :
    tokensFrom place (item :: items) =
      (item.token? place).toList ++ tokensFrom (place.after item.text) items :=
  seenFrom_cons _ place item items

theorem errorsFrom_cons (place : Place) (item : Item) (items : List Item) :
    errorsFrom place (item :: items) =
      (item.error? place).toList ++ errorsFrom (place.after item.text) items :=
  seenFrom_cons _ place item items

theorem scan_eq (source : Text) :
    scan source = ⟨tokensFrom .start (ofText source) ++ [.atEnd (Place.start.after source)],
      errorsFrom .start (ofText source)⟩ := rfl

private theorem emits_of_items (place : Place) (items : List Item) :
    Emits place items
      (tokensFrom place items ++ [.atEnd (place.after (items.flatMap Item.text))])
      (errorsFrom place items) := by
  induction items generalizing place with
  | nil => exact .done place
  | cons item items ih =>
      have more := ih (place.after item.text)
      rw [tokensFrom_cons, errorsFrom_cons, List.flatMap_cons, Place.after_append]
      rcases isToken_or_isError_or_isSilent place item with ⟨token, is⟩ | ⟨error, is⟩ | is
      · rw [is.views.1, is.views.2]
        exact .token is more
      · rw [is.views.1, is.views.2]
        exact .error is more
      · rw [(is.views place).1, (is.views place).2]
        exact .silent is more

private theorem Emits.eq (emits : Emits place items tokens errors) :
    tokens = tokensFrom place items ++ [.atEnd (place.after (items.flatMap Item.text))] ∧
      errors = errorsFrom place items := by
  induction emits with
  | done place => exact ⟨rfl, rfl⟩
  | token first more ih =>
      obtain ⟨rfl, rfl⟩ := ih
      rw [tokensFrom_cons, errorsFrom_cons, List.flatMap_cons, Place.after_append, first.views.1,
        first.views.2]
      exact ⟨rfl, rfl⟩
  | error first more ih =>
      obtain ⟨rfl, rfl⟩ := ih
      rw [tokensFrom_cons, errorsFrom_cons, List.flatMap_cons, Place.after_append, first.views.1,
        first.views.2]
      exact ⟨rfl, rfl⟩
  | @silent place item items tokens errors first more ih =>
      obtain ⟨rfl, rfl⟩ := ih
      rw [tokensFrom_cons, errorsFrom_cons, List.flatMap_cons, Place.after_append,
        (first.views place).1, (first.views place).2]
      exact ⟨rfl, rfl⟩

/-- Scanning gives what the items of a tiling stand for, and nothing else. -/
theorem Tiling.scan_eq_iff {source : Text} (tiling : Tiling items source) :
    scan source = ⟨tokens, errors⟩ ↔ Emits .start items tokens errors := by
  have whole := tiling.whole
  obtain rfl := tiling.eq_ofText
  rw [scan_eq]
  constructor
  · intro scanned
    obtain ⟨rfl, rfl⟩ := Scan.mk.inj scanned
    have emits := emits_of_items .start (ofText source)
    rw [whole] at emits
    exact emits
  · intro emits
    obtain ⟨rfl, rfl⟩ := emits.eq
    rw [whole]

end emits

/-- A text has exactly one tiling. None of its items is empty, and what they stand for is what
scanning gives. -/
theorem existsUnique_tiling (source : Text) :
    ∃ items, Tiling items source ∧ (∀ others, Tiling others source → others = items) ∧
      (∀ item ∈ items, item.text ≠ []) ∧
      ∀ tokens errors, scan source = ⟨tokens, errors⟩ ↔ Emits .start items tokens errors := by
  have tiling := tiling_ofText source
  refine ⟨ofText source, tiling, ?_, tiling.fit.text_ne_nil, ?_⟩
  · intro others another
    exact another.eq_ofText
  · intro tokens errors
    exact tiling.scan_eq_iff

end Item

end Lox
