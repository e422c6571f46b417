import Lox.Session.Files
import Lox.Session.Prompt

/-!
The command line: options and file names, and what the program does for them.

Without file names the program prompts for lines, otherwise it runs the files. How arguments are
read, and what is shown where a stream fails, is not decided here: the program is given both with
its frontend. One frontend is at hand. There options may stand before and behind file names, and two
dashes end them. How many messages were asked for is read and has no effect here, where nothing is
logged.
-/

set_option autoImplicit false
set_option relaxedAutoImplicit false

namespace Lox

structure Options where
  /-- How often more messages were asked for. -/
  verbosity : Nat
  style : Option Style
  files : List Text
  deriving DecidableEq

inductive EarlyExit
  | help
  | badArguments
  deriving DecidableEq

inductive Expected
  | anything
  | styleName
  | fileName
  deriving DecidableEq

structure ArgumentState where
  options : Options
  expected : Expected
  deriving DecidableEq

namespace ArgumentState

def start : ArgumentState := ⟨⟨0, none, []⟩, .anything⟩

def addFile (state : ArgumentState) (file : Text) : Except EarlyExit ArgumentState :=
  if file = [] then .error .badArguments
  else .ok { state with options.files := state.options.files ++ [file] }

def setStyle (state : ArgumentState) (name : Text) : Except EarlyExit ArgumentState :=
  let style? : Option Style :=
    if name = "infix".toList then some .parenthesized
    else if name = "rpn".toList then some .reversePolish
    else none
  match style?, state.options.style with
  | some style, none => .ok ⟨{ state.options with style := some style }, .anything⟩
  | _, _ => .error .badArguments

def addVerbosity (state : ArgumentState) : ArgumentState :=
  { state with options.verbosity := state.options.verbosity + 1 }

/-- Takes the letters behind one dash. The value of an option can follow its letter. -/
def readLetters (state : ArgumentState) : Text → Except EarlyExit ArgumentState
  | [] => .ok state
  | 'd' :: letters => readLetters state.addVerbosity letters
  | 'h' :: _ => .error .help
  | ['n'] => .ok { state with expected := .styleName }
  | 'n' :: '=' :: value => state.setStyle value
  | 'n' :: value => state.setStyle value
  | _ => .error .badArguments

/-- Takes the name behind two dashes. The value of an option can follow an equals sign. -/
def readName (state : ArgumentState) (argument : Text) : Except EarlyExit ArgumentState :=
  let name := argument.takeWhile (· != '=')
  match argument.dropWhile (· != '=') with
  | [] =>
      if name = "debug".toList then .ok state.addVerbosity
      else if name = "notation".toList then .ok { state with expected := .styleName }
      else if name = "help".toList then .error .help
      else .error .badArguments
  | _ :: value =>
      if name = "notation".toList then state.setStyle value else .error .badArguments

def read (state : ArgumentState) (argument : Text) : Except EarlyExit ArgumentState :=
  match state.expected with
  | .styleName => state.setStyle argument
  | .fileName => state.addFile argument
  | .anything =>
      match argument with
      | ['-', '-'] => .ok { state with expected := .fileName }
      | '-' :: '-' :: name => state.readName name
      | '-' :: letter :: letters => state.readLetters (letter :: letters)
      | file => state.addFile file

end ArgumentState

def Options.ofArguments (arguments : List Text) : Except EarlyExit Options := do
  let state ← arguments.foldlM ArgumentState.read .start
  if state.expected = .styleName then throw .badArguments
  return state.options

def Options.effectiveStyle (options : Options) : Style := options.style.getD .parenthesized

def Options.session (options : Options) (read : Text → Except ReadError Text)
    (input : List UInt8) : Session Nat :=
  match options.files with
  | [] => do
      Session.runPrompt options.effectiveStyle input
      return 0
  | files => Session.runFiles read options.effectiveStyle files

def badArgumentsStatus : Nat := 2

def streamErrorStatus : Nat := 1

/-- What the program leaves behind. -/
structure Outcome where
  status : Nat
  out : List UInt8
  err : List UInt8
  deriving DecidableEq

/-- The outcome of a session on some streams. Where one of them fails, the outlet for messages gets
what it still takes of a text about this. -/
def Outcome.ofSession (failureText : StreamError → Text) (session : Session Nat)
    (streams : Streams) : Outcome :=
  match session streams with
  | .ok status streams => ⟨status, streams.out.stored, streams.err.stored⟩
  | .error error streams =>
      ⟨streamErrorStatus, streams.out.stored, (streams.err.write (failureText error)).1.stored⟩

/-- What the program is given: how arguments are read, and what is shown where a stream fails. -/
structure Frontend where
  /-- The options that some arguments ask for, or the outcome of ending before anything is run. -/
  options : List Text → Except Outcome Options
  failureText : StreamError → Text

def Frontend.execute (frontend : Frontend) (read : Text → Except ReadError Text)
    (input : List UInt8) (streams : Streams) (arguments : List Text) : Outcome :=
  match frontend.options arguments with
  | .error outcome => outcome
  | .ok options => .ofSession frontend.failureText (options.session read input) streams

def usage : Text :=
  "Usage: lox-expr [-d|--debug]... [-n|--notation infix|rpn] [FILES]...\n".toList

def Outcome.early : EarlyExit → Outcome
  | .help => ⟨0, Text.utf8 usage, []⟩
  | .badArguments => ⟨badArgumentsStatus, [], Text.utf8 usage⟩

/-- The frontend at hand. -/
def Frontend.plain : Frontend where
  options arguments := (Options.ofArguments arguments).mapError Outcome.early
  failureText error := "Error: ".toList ++ error.message ++ ['\n']

/-- The program behind the frontend at hand, on streams that take everything. -/
def execute (read : Text → Except ReadError Text) (input : List UInt8) (arguments : List Text) :
    Outcome :=
  Frontend.plain.execute read input .unlimited arguments

end Lox
