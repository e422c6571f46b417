import Lox.Session.Run

/-!
Running files one after the other, each behind a banner with its path.

A file that cannot be read or is in error is reported and does not stop the ones after it. The
status of all is the highest status of one.
-/

set_option autoImplicit false
set_option relaxedAutoImplicit false

namespace Lox

/-- Why a file cannot be read as a text. -/
inductive ReadError
  | notFound
  | isDirectory
  | notDirectory
  | invalidText
  /-- Another failure of the system, with its description and its number. -/
  | system (description : Text) (code : Nat)
  /-- A failure without a number, such as a path that no system call takes. -/
  | described (description : Text)
  deriving DecidableEq

namespace ReadError

def numbered (description : Text) (code : Nat) : Text :=
  description ++ " (os error ".toList ++ Text.ofNat code ++ ")".toList

def message : ReadError → Text
  | notFound => numbered "No such file or directory".toList 2
  | isDirectory => numbered "Is a directory".toList 21
  | notDirectory => numbered "Not a directory".toList 20
  | invalidText => StreamError.invalidText.message
  | system description code => numbered description code
  | described description => description

def textOf (bytes : List UInt8) : Except ReadError Text :=
  match Text.ofUtf8? bytes with
  | some text => .ok text
  | none => .error .invalidText

end ReadError

namespace Session

def banner (path : Text) : Text := "-- ".toList ++ path ++ ['\n']

def unreadable (path : Text) (error : ReadError) : Text :=
  "Could not read ".toList ++ path ++ ": ".toList ++ error.message

def runFile (read : Text → Except ReadError Text) (style : Style) (path : Text) :
    Session Nat := do
  writeOut (banner path)
  match read path with
  | .error error =>
      reportLine (unreadable path error)
      return dataErrorStatus
  | .ok source =>
      match ← run style source with
      | none => return 0
      | some error =>
          reportLine error.text
          return error.exitStatus

/-- Runs files in order, and gives the highest status. -/
def runFiles (read : Text → Except ReadError Text) (style : Style) :
    List Text → Session Nat
  | [] => return 0
  | path :: paths => do
      let status ← runFile read style path
      return max status (← runFiles read style paths)

end Session

end Lox
