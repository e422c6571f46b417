import Lox.Proofs.Session.Prompt
import Lox.Proofs.Text.Utf8

/-!
A session over lines is what its lines are alone.

Some bytes are cut behind every line feed, in one way only. Each line is prompted for and run, and
writes and notes what it would alone. The first line that is not well-formed text ends the session,
so what stands behind it does not matter. A text that ends a line can be put in front of any other
input.
-/

set_option autoImplicit false
set_option relaxedAutoImplicit false

namespace Lox.Session

open Turn

section cut

variable {α : Type}

/-- A list is cut behind every final element. What is left behind the last one is a part too. -/
inductive LinesOf (final : α) : List α → List (List α) → Prop
  | done : LinesOf final [] []
  | last {line : List α} (some : line ≠ []) (inside : final ∉ line) : LinesOf final line [line]
  | cons {line rest : List α} {lines : List (List α)} (inside : final ∉ line)
      (more : LinesOf final rest lines) :
      LinesOf final (line ++ final :: rest) ((line ++ [final]) :: lines)

variable {final : α} {list other : List α} {lines others : List (List α)}

theorem exists_linesOf (final : α) (list : List α) : ∃ lines, LinesOf final list lines := by
  induction list with
  | nil => exact ⟨[], .done⟩
  | cons a list ih =>
      obtain ⟨lines, cut⟩ := ih
      by_cases ends : a = final
      · subst ends
        have whole : LinesOf a ([] ++ a :: list) (([] ++ [a]) :: lines) :=
          .cons List.not_mem_nil cut
        exact ⟨_, whole⟩
      · have outside : final ≠ a := fun same => ends same.symm
        cases cut with
        | done => exact ⟨[[a]], .last (List.cons_ne_nil a []) (by simpa using outside)⟩
        | last some inside =>
            refine ⟨[a :: list], .last (List.cons_ne_nil a list) ?_⟩
            simp [outside, inside]
        | @cons line rest lines inside more =>
            have longer : final ∉ a :: line := by simp [outside, inside]
            exact ⟨_, .cons longer more⟩

theorem LinesOf.append (cut : LinesOf final list lines) (ends : ∀ a ∈ list.getLast?, a = final)
    (behind : LinesOf final other others) : LinesOf final (list ++ other) (lines ++ others) := by
  induction cut with
  | done => exact behind
  | @last line some inside =>
      have member := List.getLast_mem some
      have own := ends _ (List.getLast?_eq_some_getLast some)
      rw [own] at member
      exact absurd member inside
  | @cons line rest lines inside more ih =>
      have later : ∀ a ∈ rest.getLast?, a = final := by
        intro a last
        apply ends a
        simp [List.getLast?_append, List.getLast?_cons, Option.mem_def.mp last]
      rw [List.append_assoc, List.cons_append, List.cons_append]
      exact .cons inside (ih later)

end cut

section byteLines

variable {line bytes : List UInt8} {lines : List (List UInt8)} {text : Text} {texts : List Text}

private theorem byteLines_of_not_mem (some : line ≠ []) (inside : 10 ∉ line) :
    byteLines line = [line] := by
  induction line with
  | nil => contradiction
  | cons byte line ih =>
      obtain ⟨other, within⟩ : 10 ≠ byte ∧ 10 ∉ line := by simpa using inside
      rw [byteLines, if_neg other.symm]
      cases line with
      | nil => rfl
      | cons next line => rw [ih (List.cons_ne_nil next line) within]

private theorem byteLines_append_lineFeed (inside : 10 ∉ line) (bytes : List UInt8) :
    byteLines (line ++ 10 :: bytes) = (line ++ [10]) :: byteLines bytes := by
  induction line with
  | nil => simp [byteLines]
  | cons byte line ih =>
      obtain ⟨other, within⟩ : 10 ≠ byte ∧ 10 ∉ line := by simpa using inside
      rw [List.cons_append, byteLines, if_neg other.symm, ih within]
      rfl

private theorem LinesOf.eq_byteLines (cut : LinesOf 10 bytes lines) : lines = byteLines bytes := by
  induction cut with
  | done => rfl
  | last some inside => rw [byteLines_of_not_mem some inside]
  | cons inside more ih => rw [byteLines_append_lineFeed inside, ih]

theorem linesOf_byteLines (bytes : List UInt8) : LinesOf 10 bytes (byteLines bytes) := by
  obtain ⟨lines, cut⟩ := exists_linesOf 10 bytes
  obtain rfl := cut.eq_byteLines
  exact cut

theorem LinesOf.utf8 (cut : LinesOf '\n' text texts) :
    LinesOf 10 text.utf8 (texts.map Text.utf8) := by
  induction cut with
  | done => exact .done
  | @last line some inside =>
      refine .last ?_ (fun member => inside (Text.lineFeed_mem_utf8.mp member))
      intro none
      have positive := Text.size_pos some
      rw [← Text.length_utf8, none] at positive
      contradiction
  | @cons line rest lines inside more ih =>
      have bytes : 10 ∉ Text.utf8 line := fun member => inside (Text.lineFeed_mem_utf8.mp member)
      rw [List.map_cons, Text.utf8_append, Text.utf8_lineFeed_cons, Text.utf8_concat_lineFeed]
      exact .cons bytes ih

private theorem exists_byteLines_append (text : Text) (later : List UInt8) :
    ∃ texts : List Text, byteLines (Text.utf8 (text ++ ['\n'])) = texts.map Text.utf8 ∧
      byteLines (Text.utf8 (text ++ ['\n']) ++ later) = texts.map Text.utf8 ++ byteLines later := by
  obtain ⟨texts, cut⟩ := exists_linesOf '\n' (text ++ ['\n'])
  have ends : ∀ byte ∈ (Text.utf8 (text ++ ['\n'])).getLast?, byte = 10 := by
    intro byte last
    rw [Text.utf8_concat_lineFeed, List.getLast?_concat] at last
    exact (Option.some.inj last).symm
  have whole := cut.utf8.append ends (linesOf_byteLines later)
  exact ⟨texts, cut.utf8.eq_byteLines.symm, whole.eq_byteLines.symm⟩

end byteLines

section legible

variable {texts : List Text} {lines : List (List UInt8)}

private theorem legible_map_utf8_append (texts : List Text) (lines : List (List UInt8)) :
    legible (texts.map Text.utf8 ++ lines) = texts ++ legible lines := by
  induction texts with
  | nil => rfl
  | cons text texts ih =>
      rw [List.map_cons, List.cons_append, legible, Text.ofUtf8?_utf8, ih]
      rfl

private theorem finish_map_utf8_append (texts : List Text) (lines : List (List UInt8)) :
    finish (texts.map Text.utf8 ++ lines) = finish lines := by
  induction texts with
  | nil => rfl
  | cons text texts ih =>
      rw [List.map_cons, List.cons_append, finish_of_some (Text.ofUtf8?_utf8 text), ih]

private theorem legible_cases (lines : List (List UInt8)) :
    (lines = (legible lines).map Text.utf8 ∧ finish lines = return ()) ∨
      ∃ broken behind, lines = (legible lines).map Text.utf8 ++ broken :: behind ∧
        (∀ text : Text, text.utf8 ≠ broken) ∧ finish lines = throw .invalidText := by
  induction lines with
  | nil => exact .inl ⟨rfl, rfl⟩
  | cons line lines ih =>
      cases spelled : Text.ofUtf8? line with
      | none =>
          right
          have noText := Text.ofUtf8?_eq_none_iff.mp spelled
          refine ⟨line, lines, ?_, noText, finish_of_none spelled⟩
          simp [legible, spelled]
      | some source =>
          have own := Text.utf8_of_ofUtf8? spelled
          have texts : legible (line :: lines) = source :: legible lines := by
            simp [legible, spelled]
          rw [texts, finish_of_some spelled, List.map_cons, own]
          rcases ih with ⟨whole, ended⟩ | ⟨broken, behind, split, noText, ended⟩
          · exact .inl ⟨congrArg (line :: ·) whole, ended⟩
          · exact .inr ⟨broken, behind, congrArg (line :: ·) split, noText, ended⟩

end legible

section alone

variable {style : Style} {source : Text} {input : List UInt8}

/-- What running a line alone writes. Nothing is run if the line is blank. -/
def lineOutput (style : Style) (line : Text) : List UInt8 :=
  if line.all Unicode.isWhiteSpace then [] else (run style line).outBytes none none

def lineBlock (style : Style) (line : Text) : List UInt8 :=
  if line.all Unicode.isWhiteSpace then []
  else
    match (run style line).result none none with
    | .ok (some error) => (error.text ++ ['\n']).utf8
    | _ => []

private theorem out_ofLine :
    (ofLine style source).out = promptText.utf8 ++ lineOutput style source := by
  rw [ofLine, lineOutput]
  split <;> rfl

private theorem err_ofLine : (ofLine style source).err = lineBlock style source := by
  rw [ofLine, lineBlock]
  split
  · rfl
  · exact err_ofReport promptText style source

private theorem outBytes_runPrompt (style : Style) (input : List UInt8) :
    (runPrompt style input).outBytes none none =
      (legible (byteLines input)).flatMap (fun line => promptText.utf8 ++ lineOutput style line) ++
        promptText.utf8 := by
  rw [runPrompt_eq, outBytes_turns fun _ => quiet_finish _, outOf, ofLines, List.flatMap_append,
    List.flatMap_map]
  simp only [out_ofLine]
  have prompt : [silent promptText none].flatMap out = promptText.utf8 := by decide
  rw [prompt]

private theorem errBytes_runPrompt (style : Style) (input : List UInt8) :
    (runPrompt style input).errBytes none none =
      (legible (byteLines input)).flatMap (lineBlock style) := by
  rw [runPrompt_eq, errBytes_turns fun _ => quiet_finish _, errOf, ofLines, List.flatMap_append,
    List.flatMap_map]
  simp only [err_ofLine]
  exact List.append_nil _

private theorem result_runPrompt (style : Style) (input : List UInt8) :
    (runPrompt style input).result none none = (finish (byteLines input)).result none none := by
  have ran := playAll_unlimited (ofLines style (byteLines input)) [] []
  rw [← Streams.limited_eq_offered] at ran
  rw [runPrompt_eq]
  rcases legible_cases (byteLines input) with ⟨-, ended⟩ | ⟨-, -, -, -, ended⟩
  · rw [ended]
    exact result_of_ok (bind_of_ok ran)
  · rw [ended]
    exact result_of_error (bind_of_ok ran)

end alone

/-- On outlets without limits, a session over lines does for each line what the line alone leads to,
behind a prompt, and prompts once more at the end. Its lines are the parts into which the input is
cut behind every line feed. The session fails at the first line that is not well-formed text, and
nothing else is left of this line and those behind it. A text that ends a line is done with before
what follows it, so its last prompt is the first one of the rest. -/
theorem runPrompt_linewise (style : Style) :
    (∀ input : List UInt8, ∃ lines, LinesOf 10 input lines ∧
      (∀ others, LinesOf 10 input others → others = lines) ∧
      ∃ texts : List Text,
        (runPrompt style input).outBytes none none =
            texts.flatMap (fun line => Text.utf8 ">> ".toList ++ lineOutput style line) ++
              Text.utf8 ">> ".toList ∧
          (runPrompt style input).errBytes none none = texts.flatMap (lineBlock style) ∧
          (lines = texts.map Text.utf8 ∧ (runPrompt style input).result none none = .ok () ∨
            ∃ broken behind, lines = texts.map Text.utf8 ++ broken :: behind ∧
              (∀ text : Text, text.utf8 ≠ broken) ∧
              (runPrompt style input).result none none = .error .invalidText)) ∧
      ∀ (text : Text) (later : List UInt8), ∃ written,
        (runPrompt style (Text.utf8 (text ++ ['\n']))).outBytes none none =
            written ++ Text.utf8 ">> ".toList ∧
          (runPrompt style (Text.utf8 (text ++ ['\n']))).result none none = .ok () ∧
          (runPrompt style (Text.utf8 (text ++ ['\n']) ++ later)).outBytes none none =
            written ++ (runPrompt style later).outBytes none none ∧
          (runPrompt style (Text.utf8 (text ++ ['\n']) ++ later)).errBytes none none =
            (runPrompt style (Text.utf8 (text ++ ['\n']))).errBytes none none ++
              (runPrompt style later).errBytes none none ∧
          (runPrompt style (Text.utf8 (text ++ ['\n']) ++ later)).result none none =
            (runPrompt style later).result none none := by
  constructor
  · intro input
    refine ⟨byteLines input, linesOf_byteLines input, fun others cut => cut.eq_byteLines,
      legible (byteLines input), outBytes_runPrompt style input, errBytes_runPrompt style input, ?_⟩
    rw [result_runPrompt]
    rcases legible_cases (byteLines input) with
      ⟨whole, ended⟩ | ⟨broken, behind, split, noText, ended⟩
    · left
      rw [ended]
      exact ⟨whole, rfl⟩
    · right
      rw [ended]
      exact ⟨broken, behind, split, noText, rfl⟩
  · intro text later
    obtain ⟨texts, own, joined⟩ := exists_byteLines_append text later
    have front := legible_map_utf8_append texts []
    have ended := finish_map_utf8_append texts []
    rw [List.append_nil, ← own] at front ended
    simp only [legible, List.append_nil] at front
    refine ⟨texts.flatMap fun line => promptText.utf8 ++ lineOutput style line, ?_, ?_, ?_, ?_, ?_⟩
    · rw [outBytes_runPrompt, front]
      rfl
    · rw [result_runPrompt, ended]
      rfl
    · rw [outBytes_runPrompt, outBytes_runPrompt, joined, legible_map_utf8_append,
        List.flatMap_append, List.append_assoc]
    · simp only [errBytes_runPrompt, joined, front, legible_map_utf8_append, List.flatMap_append]
    · rw [result_runPrompt, result_runPrompt, joined, finish_map_utf8_append]

/-- The byte 255 is no text, and the session ends in front of it. -/
example : (runPrompt .reversePolish (Text.utf8 "1-2\n@\n\n".toList ++ [255, 10, 49])).outBytes
    none none = Text.utf8 ">> 1 2 -\n>> >> >> ".toList := by
  decide +kernel

end Lox.Session
