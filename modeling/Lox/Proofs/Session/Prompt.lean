import Lox.Proofs.Session.Turn
import Lox.Session.Prompt

/-!
Lines as turns.

A line takes one turn: the prompt in front of it, what running it writes, and the message if it is
in error. Behind the last line there is one more prompt, and so there is in front of a line that is
not well-formed text, where the session ends with a failure.
-/

set_option autoImplicit false
set_option relaxedAutoImplicit false

namespace Lox

open Session

namespace Turn

def ofLine (style : Style) (source : Text) : Turn :=
  if source.all Unicode.isWhiteSpace then silent promptText none
  else ofReport promptText (.ofSource style source)

/-- The texts of the lines in front of the first one that is not well-formed text. -/
def legible : List (List UInt8) → List Text
  | [] => []
  | line :: lines =>
      match Text.ofUtf8? line with
      | none => []
      | some source => source :: legible lines

def ofLines (style : Style) (lines : List (List UInt8)) : List Turn :=
  (legible lines).map (ofLine style) ++ [silent promptText none]

def finish (lines : List (List UInt8)) : Session Unit :=
  if lines.all fun line => (Text.ofUtf8? line).isSome then return () else throw .invalidText

variable {style : Style} {line : List UInt8} {lines : List (List UInt8)} {source : Text}

private theorem heading_ofLine : (ofLine style source).heading = promptText := by
  rw [ofLine]
  split <;> rfl

private theorem ofLines_of_none (broken : Text.ofUtf8? line = none) :
    ofLines style (line :: lines) = [silent promptText none] := by
  rw [ofLines, legible, broken]
  rfl

private theorem ofLines_of_some (spelled : Text.ofUtf8? line = some source) :
    ofLines style (line :: lines) = ofLine style source :: ofLines style lines := by
  rw [ofLines, legible, spelled]
  rfl

theorem finish_of_none (broken : Text.ofUtf8? line = none) :
    finish (line :: lines) = throw .invalidText := by
  rw [finish, List.all_cons, broken]
  rfl

theorem finish_of_some (spelled : Text.ofUtf8? line = some source) :
    finish (line :: lines) = finish lines := by
  rw [finish, List.all_cons, spelled]
  rfl

theorem quiet_finish (lines : List (List UInt8)) : (finish lines).Quiet := by
  intro streams
  rw [finish]
  split
  · exact .inl ⟨(), rfl⟩
  · exact .inr rfl

theorem headed_ofLines {turn : Turn} (member : turn ∈ ofLines style lines) : turn.heading ≠ [] := by
  have prompt : turn.heading = promptText := by
    rw [ofLines, List.mem_append, List.mem_map, List.mem_singleton] at member
    rcases member with ⟨source, -, rfl⟩ | rfl
    · exact heading_ofLine
    · rfl
  rw [prompt]
  exact List.cons_ne_nil _ _

private theorem answer_eq (spelled : Text.ofUtf8? line = some source) :
    answer style line = (ofLine style source).deliver >>= note := by
  rw [answer, spelled, ofLine]
  dsimp only
  split
  · rw [deliver_silent, pure_bind]
    rfl
  · rw [deliver_ofReport, bind_map_left]
    refine congrArg _ (funext fun error => ?_)
    cases error <;> rfl

private theorem play_silent (heading : Text) : (silent heading none).play = do
    writeOut heading
    return none := by
  rw [play, deliver_silent]
  simp only [pure_bind, note]
  rfl

private theorem answerAll_eq (style : Style) (lines : List (List UInt8)) :
    answerAll style lines = playAll (ofLines style lines) >>= fun _ => finish lines := by
  induction lines with
  | nil =>
      change _ = playAll [silent promptText none] >>= _
      rw [answerAll, playAll, play_silent]
      simp only [playAll, bind_assoc, pure_bind, finish, List.all_nil, if_true]
      rw [bind_pure_unit]
  | cons line lines ih =>
      cases spelled : Text.ofUtf8? line with
      | none =>
          rw [ofLines_of_none spelled, finish_of_none spelled, playAll, play_silent, answerAll,
            answer, spelled]
          simp only [playAll, bind_assoc, pure_bind]
          rfl
      | some source =>
          rw [ofLines_of_some spelled, finish_of_some spelled, playAll, play, answerAll, ih,
            answer_eq spelled, heading_ofLine]
          simp only [bind_assoc, pure_bind]

theorem runPrompt_eq (style : Style) (input : List UInt8) :
    runPrompt style input =
      playAll (ofLines style (byteLines input)) >>= fun _ => finish (byteLines input) :=
  answerAll_eq style (byteLines input)

end Turn

end Lox
