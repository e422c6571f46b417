import Lox.Proofs.Session.Status
import Lox.Proofs.Session.Turn

/-!
Files are run one by one, and none of them knows of the others.

A file takes one turn: its banner, what running its text writes, and the message if it cannot be
read or is in error. What several files write and note is what each of them does, in order.
-/

set_option autoImplicit false
set_option relaxedAutoImplicit false

namespace Lox

open Session

variable {read : Text → Except ReadError Text} {style : Style} {path : Text}

namespace Turn

def ofFile (read : Text → Except ReadError Text) (style : Style) (path : Text) : Turn :=
  match read path with
  | .error error => silent (banner path) (some (unreadable path error))
  | .ok source => ofReport (banner path) (.ofSource style source)

/-- The status of a file about which something was noted or not. -/
def statusOf : Option Text → Nat
  | none => 0
  | some _ => dataErrorStatus

def highest (messages : List (Option Text)) : Nat := (messages.map statusOf).foldr max 0

theorem heading_ofFile : (ofFile read style path).heading = banner path := by
  rw [ofFile]
  split <;> rfl

theorem ofFile_of_error {error : ReadError} (failed : read path = .error error) :
    ofFile read style path = silent (banner path) (some (unreadable path error)) := by
  rw [ofFile, failed]

theorem ofFile_of_ok {source : Text} (found : read path = .ok source) :
    ofFile read style path = ofReport (banner path) (.ofSource style source) := by
  rw [ofFile, found]

theorem banner_ne_nil (path : Text) : banner path ≠ [] := List.cons_ne_nil _ _

private theorem runFile_eq (read : Text → Except ReadError Text) (style : Style) (path : Text) :
    runFile read style path = do return statusOf (← (ofFile read style path).play) := by
  rw [runFile, play, heading_ofFile]
  simp only [bind_assoc, pure_bind]
  refine congrArg _ (funext fun _ => ?_)
  cases found : read path with
  | error error =>
      rw [ofFile_of_error found, deliver_silent, pure_bind]
      rfl
  | ok source =>
      rw [ofFile_of_ok found, deliver_ofReport, bind_map_left]
      funext streams
      obtain ⟨error, later, ran⟩ := exists_run_ok style source streams
      have proper := ensures_run style source streams error later ran
      dsimp only
      rw [bind_of_ok ran, bind_of_ok ran]
      cases error with
      | none => rfl
      | some error =>
          have status := RunError.exitStatus_eq_dataErrorStatus fun fault same =>
            proper fault (congrArg some same)
          dsimp only
          rw [status]
          rfl

theorem runFiles_eq (read : Text → Except ReadError Text) (style : Style) (paths : List Text) :
    runFiles read style paths = do
      return highest (← playAll (paths.map (ofFile read style))) := by
  induction paths with
  | nil => rfl
  | cons path paths ih =>
      rw [runFiles, runFile_eq, ih, List.map_cons, playAll]
      simp only [bind_assoc, pure_bind]
      rfl

end Turn

namespace Session

/-- What running the text of a file alone writes. -/
def fileOutput (read : Text → Except ReadError Text) (style : Style) (path : Text) : List UInt8 :=
  match read path with
  | .error _ => []
  | .ok source => (run style source).outBytes none none

/-- What is noted about a file alone. -/
def fileBlock (read : Text → Except ReadError Text) (style : Style) (path : Text) : List UInt8 :=
  match read path with
  | .error error =>
      Text.utf8 ("Could not read ".toList ++ path ++ ": ".toList ++ error.message ++ ['\n'])
  | .ok source =>
      match (run style source).result none none with
      | .ok (some error) => (error.text ++ ['\n']).utf8
      | _ => []

/-- A file can be read, and running its text alone is a success. -/
def InOrder (read : Text → Except ReadError Text) (style : Style) (path : Text) : Prop :=
  ∃ source, read path = .ok source ∧ (run style source).result none none = .ok none

end Session

namespace Turn

private theorem out_ofFile :
    (ofFile read style path).out = (banner path).utf8 ++ fileOutput read style path := by
  cases found : read path with
  | error error =>
      rw [ofFile_of_error found, fileOutput, found]
      rfl
  | ok source =>
      rw [ofFile_of_ok found, fileOutput, found]
      rfl

private theorem err_ofFile : (ofFile read style path).err = fileBlock read style path := by
  cases found : read path with
  | error error =>
      rw [ofFile_of_error found, fileBlock, found]
      rfl
  | ok source =>
      rw [ofFile_of_ok found, fileBlock, found]
      exact err_ofReport (banner path) style source

private theorem message_ofFile_eq_none_iff :
    (ofFile read style path).message = none ↔ InOrder read style path := by
  cases found : read path with
  | error error => simp [ofFile_of_error found, silent, InOrder, found]
  | ok source => simp [ofFile_of_ok found, ofReport, InOrder, found, result_run]

private theorem highest_append (messages others : List (Option Text)) :
    highest (messages ++ others) = max (highest messages) (highest others) := by
  induction messages with
  | nil => exact (Nat.zero_max _).symm
  | cons message messages ih =>
      change max (statusOf message) (highest (messages ++ others)) = _
      rw [ih, ← Nat.max_assoc]
      rfl

theorem highest_cases (messages : List (Option Text)) :
    highest messages = 0 ∧ (∀ message ∈ messages, message = none) ∨
      highest messages = dataErrorStatus ∧ ∃ message ∈ messages, message ≠ none := by
  induction messages with
  | nil => simp [highest]
  | cons message messages ih =>
      have step : highest (message :: messages) = max (statusOf message) (highest messages) := rfl
      cases message with
      | none =>
          rw [step, statusOf, Nat.zero_max]
          simpa using ih
      | some text =>
          right
          refine ⟨?_, some text, List.mem_cons_self, Option.some_ne_none _⟩
          rcases ih with ⟨rest, -⟩ | ⟨rest, -⟩
          · rw [step, rest]
            rfl
          · rw [step, rest]
            rfl

theorem highest_concat_full (messages : List (Option Text)) :
    highest (messages ++ [full]) = dataErrorStatus := by
  rcases highest_cases (messages ++ [full]) with ⟨-, silent⟩ | ⟨status, -⟩
  · exact absurd (silent full (by simp)) (Option.some_ne_none _)
  · exact status

end Turn

namespace Session

open Turn

theorem outBytes_runFiles (files : List Text) :
    (runFiles read style files).outBytes none none = outOf (files.map (ofFile read style)) := by
  rw [runFiles_eq]
  exact outBytes_turns fun messages => quiet_pure (highest messages)

theorem errBytes_runFiles (files : List Text) :
    (runFiles read style files).errBytes none none = errOf (files.map (ofFile read style)) := by
  rw [runFiles_eq]
  exact errBytes_turns fun messages => quiet_pure (highest messages)

theorem result_runFiles (files : List Text) :
    (runFiles read style files).result none none =
      .ok (highest ((files.map (ofFile read style)).map message)) := by
  have ran := playAll_unlimited (files.map (ofFile read style)) [] []
  rw [runFiles_eq]
  exact result_of_ok (bind_of_ok ran)

private theorem status_runFiles (read : Text → Except ReadError Text) (style : Style)
    (files : List Text) :
    (runFiles read style files).result none none = .ok 0 ∧
        (∀ path ∈ files, InOrder read style path) ∨
      (runFiles read style files).result none none = .ok 65 ∧
        ∃ path ∈ files, ¬ InOrder read style path := by
  rw [result_runFiles]
  rcases highest_cases ((files.map (ofFile read style)).map message) with
    ⟨status, silent⟩ | ⟨status, noted⟩
  · left
    simp only [List.forall_mem_map] at silent
    exact ⟨congrArg _ status, fun path member =>
      message_ofFile_eq_none_iff.mp (silent path member)⟩
  · right
    simp only [List.mem_map, exists_exists_and_eq_and] at noted
    obtain ⟨path, member, noted⟩ := noted
    exact ⟨congrArg _ status, path, member, fun fine =>
      noted (message_ofFile_eq_none_iff.mpr fine)⟩

/-- On outlets without limits, several files write and note what each of them does alone, in order:
a file writes its banner and what running its text writes, and one message is noted about a file
that cannot be read or whose run fails. The status tells whether there is such a file. -/
theorem runFiles_independent (read : Text → Except ReadError Text) (style : Style) :
    (∀ files others : List Text,
      (runFiles read style (files ++ others)).outBytes none none =
          (runFiles read style files).outBytes none none ++
            (runFiles read style others).outBytes none none ∧
        (runFiles read style (files ++ others)).errBytes none none =
          (runFiles read style files).errBytes none none ++
            (runFiles read style others).errBytes none none ∧
        ∃ status status' : Nat,
          (runFiles read style files).result none none = .ok status ∧
            (runFiles read style others).result none none = .ok status' ∧
            (runFiles read style (files ++ others)).result none none =
              .ok (max status status')) ∧
      ∀ files : List Text,
        (runFiles read style files).outBytes none none =
            files.flatMap (fun path =>
              Text.utf8 ("-- ".toList ++ path ++ ['\n']) ++ fileOutput read style path) ∧
          (runFiles read style files).errBytes none none =
            files.flatMap (fileBlock read style) ∧
          (∀ path, fileBlock read style path = [] ↔ InOrder read style path) ∧
          ((runFiles read style files).result none none = .ok 0 ↔
            ∀ path ∈ files, InOrder read style path) ∧
          ((runFiles read style files).result none none = .ok 65 ↔
            ∃ path ∈ files, ¬ InOrder read style path) := by
  refine ⟨fun files others => ⟨?_, ?_, ?_⟩, fun files => ⟨?_, ?_, ?_, ?_, ?_⟩⟩
  · simp only [outBytes_runFiles, List.map_append, outOf_append]
  · simp only [errBytes_runFiles, List.map_append, errOf_append]
  · refine ⟨_, _, result_runFiles files, result_runFiles others, ?_⟩
    rw [result_runFiles, List.map_append, List.map_append, highest_append]
  · simp only [outBytes_runFiles, outOf, List.flatMap_map, out_ofFile]
    rfl
  · simp only [errBytes_runFiles, errOf, List.flatMap_map, err_ofFile]
  · intro path
    rw [← err_ofFile, err_eq_nil_iff]
    exact message_ofFile_eq_none_iff
  · rcases status_runFiles read style files with
      ⟨status, fine⟩ | ⟨status, path, member, bad⟩
    · exact iff_of_true status fine
    · rw [status]
      refine iff_of_false (fun same => absurd (Except.ok.inj same) (by decide)) ?_
      exact fun fine => bad (fine path member)
  · rcases status_runFiles read style files with
      ⟨status, fine⟩ | ⟨status, noted⟩
    · rw [status]
      refine iff_of_false (fun same => absurd (Except.ok.inj same) (by decide)) ?_
      rintro ⟨path, member, bad⟩
      exact bad (fine path member)
    · exact iff_of_true status noted

end Session

end Lox
