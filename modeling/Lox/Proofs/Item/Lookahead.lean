import Lox.Proofs.Item.Tiling

/-!
What an item asks of the text behind it.

An item looks at the next character only, and asks that it be outside of one class. A numeral also
looks behind a point. So an item stays where it is when the text behind it is changed into one whose
first characters are outside of the same classes. Only what runs to the end of the text cannot have
anything behind it.
-/

set_option autoImplicit false
set_option relaxedAutoImplicit false

namespace Lox

theorem Text.Stops.append {run : Char → Bool} {rest other : Text}
    (relax : Stops run rest → Stops run other) (front : Text) (stops : Stops run (front ++ rest)) :
    Stops run (front ++ other) := by
  cases front with
  | nil => exact relax stops
  | cons c front => exact stops_cons.mpr (stops_cons.mp stops)

namespace Item

/-- The classes of characters with which items can go on. -/
def lookaheads : List (Char → Bool) :=
  [(· != '\n'), (· == '='), fun c => c == '/' || c == '*', Char.isDigit, continuesWord]

/-- A second text that is outside of every class that the first one is outside of. -/
structure Relaxes (rest other : Text) : Prop where
  stops : ∀ run ∈ lookaheads, Text.Stops run rest → Text.Stops run other
  point : ∀ behind, other = '.' :: behind →
    ∃ before, rest = '.' :: before ∧
      (Text.Stops Char.isDigit before → Text.Stops Char.isDigit behind)

def isOpen : Item → Bool
  | openString _ | openComment _ => true
  | _ => false

variable {item : Item} {items : List Item} {rest other : Text} {c : Char}

namespace Relaxes

theorem refl (rest : Text) : Relaxes rest rest := by
  refine ⟨fun run _ stops => stops, ?_⟩
  intro behind point
  exact ⟨behind, point, id⟩

theorem append (relaxes : Relaxes rest other) (front : Text) :
    Relaxes (front ++ rest) (front ++ other) := by
  have digits := relaxes.stops Char.isDigit (by simp [lookaheads])
  constructor
  · intro run member
    exact Text.Stops.append (relaxes.stops run member) front
  · intro behind point
    cases front with
    | nil => exact relaxes.point behind point
    | cons c front =>
        obtain ⟨rfl, rfl⟩ := List.cons.inj point
        exact ⟨front ++ rest, rfl, Text.Stops.append digits front⟩

theorem nil (rest : Text) : Relaxes rest [] := by
  constructor
  · intro run _ _
    exact Text.stops_nil
  · intro behind point
    contradiction

theorem lineFeed (rest other : Text) : Relaxes rest ('\n' :: other) := by
  have outside : ∀ run ∈ lookaheads, run '\n' = false := by decide
  constructor
  · intro run member _
    exact Text.stops_cons.mpr (outside run member)
  · intro behind point
    exact absurd (List.cons.inj point).1 (by decide)

theorem space (inside : c ≠ '\n') (rest other : Text) :
    Relaxes (c :: rest) (' ' :: other) := by
  -- A line comment may go on with a space, but it goes on with whatever stood there as well.
  have outside : ∀ run ∈ lookaheads.tail, run ' ' = false := by decide
  constructor
  · intro run member stops
    rcases List.mem_cons.mp member with rfl | member
    · have feed := Text.stops_cons.mp stops
      simp [inside] at feed
    · exact Text.stops_cons.mpr (outside run member)
  · intro behind point
    exact absurd (List.cons.inj point).1 (by decide)

end Relaxes

theorem Relaxes.endsAt (relaxes : Relaxes rest other) {numeral : Decimal}
    (ends : numeral.EndsAt rest) : numeral.EndsAt other := by
  constructor
  · exact relaxes.stops Char.isDigit (by simp [lookaheads]) ends.digits
  · intro none behind point
    obtain ⟨before, same, digits⟩ := relaxes.point behind point
    exact digits (ends.fraction none before same)

/-- An item fits in front of every text that relaxes what it fits in front of. -/
theorem Fits.relaxed (fits : Fits item rest) (relaxes : Relaxes rest other)
    (last : item.isOpen = true → other = []) : Fits item other := by
  have stops (run : Char → Bool) (member : run ∈ lookaheads) := relaxes.stops run member
  cases fits with
  | blank kind => exact .blank kind
  | lineComment inside ends => exact .lineComment inside (stops _ (by simp [lookaheads]) ends)
  | blockComment whole => exact .blockComment whole
  | openComment never =>
      obtain rfl := last rfl
      exact .openComment never
  | closedSymbol member => exact .closedSymbol member
  | openSymbol member ends => exact .openSymbol member (stops _ (by simp [lookaheads]) ends)
  | slash ends => exact .slash (stops _ (by simp [lookaheads]) ends)
  | string whole => exact .string whole
  | openString never =>
      obtain rfl := last rfl
      exact .openString never
  | number proper ends => exact .number proper (relaxes.endsAt ends)
  | word starts inside ends => exact .word starts inside (stops _ (by simp [lookaheads]) ends)
  | stray noBlank noDelimiter noDigit noWord =>
      exact .stray noBlank noDelimiter noDigit noWord

theorem Fits.rest_eq_nil (fits : Fits item rest) (runs : item.isOpen = true) : rest = [] := by
  cases fits with
  | openComment | openString => rfl
  | _ => contradiction

theorem FitTogether.relaxed (fit : FitTogether rest items) (relaxes : Relaxes rest other)
    (closed : ∀ item ∈ items, item.isOpen = false) : FitTogether other items := by
  induction fit with
  | nil => exact .nil
  | @cons item items first more ih =>
      have whole : item.isOpen = false := closed item List.mem_cons_self
      have behind := relaxes.append (items.flatMap Item.text)
      refine .cons (first.relaxed behind ?_) (ih fun later member => closed later (.tail _ member))
      simp [whole]

end Item

end Lox
