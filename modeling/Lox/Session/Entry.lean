import Lox.Session.Files

/-!
Directory trees held in memory, so that a session over files can be run and reasoned about without
a disk.

A path is walked name by name. Walking on from a file fails, also where the next name is empty, is
a point or leads upward. What lies above the tree is not known, except that it is a directory.
Making a file or a folder makes what is missing on the way, name by name.
-/

set_option autoImplicit false
set_option relaxedAutoImplicit false

namespace Lox

/-- A file with its bytes, or a folder with its named entries. -/
inductive Entry
  | file (content : List UInt8)
  | folder (entries : List (Text × Entry))

namespace Entry

def names : Text → List Text
  | [] => [[]]
  | c :: path =>
      if c = '/' then [] :: names path
      else
        match names path with
        | [] => [[c]]
        | name :: rest => (c :: name) :: rest

def assign (name : Text) (entry : Entry) : List (Text × Entry) → List (Text × Entry)
  | [] => [(name, entry)]
  | (other, old) :: entries =>
      if other = name then (name, entry) :: entries
      else (other, old) :: assign name entry entries

/-- Changes the entry at the end of some names; the folders on the way are made. -/
def change (update : Option Entry → Entry) : List Text → Option Entry → Entry
  | [], old => update old
  | name :: rest, some (folder entries) =>
      folder (assign name (change update rest (entries.lookup name)) entries)
  | name :: rest, _ => folder [(name, change update rest none)]

/-- The place to which one more name leads. A place is given by the names down to it, the last one
first; above the tree there is none. -/
def follow : Option (List Text) → Text → Option (List Text)
  | none, _ => none
  | some place, name =>
      if name = [] ∨ name = ['.'] then some place
      else if name = ['.', '.'] then
        match place with
        | [] => none
        | _ :: above => some above
      else some (name :: place)

def changeAt (update : Option Entry → Entry) (root : Entry) : Option (List Text) → Entry
  | none => root
  | some place => change update place.reverse (some root)

def asFolder : Option Entry → Entry
  | some (folder entries) => folder entries
  | _ => folder []

/-- Walks along names and makes every folder that is missing, also one that a later name leaves
upward. -/
def makeWay (root : Entry) (names : List Text) : Option (List Text) × Entry :=
  names.foldl
    (fun (place, root) name => (follow place name, changeAt asFolder root (follow place name)))
    (some [], root)

def addFolder (path : Text) (root : Entry) : Entry :=
  (makeWay root (names path)).2

def addFile (path : Text) (content : List UInt8) (root : Entry) : Entry :=
  let (place, root) := makeWay root (names path).dropLast
  changeAt (fun _ => file content) root (follow place ((names path).getLastD []))

/-- One step along a path. The trail leads from the current entry up to the root; it is empty
above the tree. -/
def step : List Entry → Text → Except ReadError (List Entry)
  | [], name =>
      if name = [] ∨ name = ['.'] ∨ name = ['.', '.'] then .ok [] else .error .notFound
  | file _ :: _, _ => .error .notDirectory
  | folder entries :: above, name =>
      if name = [] ∨ name = ['.'] then .ok (folder entries :: above)
      else if name = ['.', '.'] then .ok above
      else
        match entries.lookup name with
        | some entry => .ok (entry :: folder entries :: above)
        | none => .error .notFound

def read (root : Entry) (path : Text) : Except ReadError (List UInt8) := do
  if path = [] then throw .notFound
  let origin := if path.head? = some '/' then [] else [root]
  match ← (names path).foldlM step origin with
  | file content :: _ => return content
  | _ => throw .isDirectory

def readText (root : Entry) (path : Text) : Except ReadError Text := do
  ReadError.textOf (← root.read path)

end Entry

end Lox
