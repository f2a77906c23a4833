import StepEngine.Text.Blank
/-!
# Files under a working directory

* `FileFault` : why a file cannot be read, with its wording;
* `Files` : texts by the names that lead to them, and the folders that hold them;
* `Files.write`, `Files.ofPaths` : files written one after the other, each with the folders on the way;
* `Files.Location` : where a walk over names stands, inside or outside the working directory;
* `Files.read` : the text at a path; the path is walked name by name, and every name on the way has
  to be that of a folder. No file outside the working directory can be read.
-/

namespace StepEngine

inductive FileFault where
  | missing
  | notFolder
  | isFolder
  | nameTooLong
  | badName
  /-- Anything else, as the file system words it. -/
  | other (details : String)
  deriving DecidableEq

def FileFault.message : FileFault → String
  | missing => "No such file or directory (os error 2)"
  | notFolder => "Not a directory (os error 20)"
  | isFolder => "Is a directory (os error 21)"
  | nameTooLong => "File name too long (os error 36)"
  | badName => "file name contained an unexpected NUL byte"
  | other details => details

/-- The names that lead to a file from the working directory. -/
abbrev Place := List String

/-- Texts by the names that lead to them, and the folders that hold them. -/
structure Files where
  folders : List Place
  texts : List (Place × String)

namespace Files

/-- The names between the slashes of a path. -/
def names (path : String) : List String :=
  (Text.split (· == '/') path.toList).map String.ofList

def text? (f : Files) (place : Place) : Option String :=
  f.texts.lookup place

/-- The working directory, or a folder under it. -/
def isFolder (f : Files) (place : Place) : Bool :=
  place.isEmpty || f.folders.contains place

/-! ## Writing -/

def nameLimit : Nat := 255

def pathLimit : Nat := 4095

def isName (name : String) : Bool :=
  name != "" && name != "." && name != ".." && name.utf8ByteSize ≤ nameLimit &&
    !name.toList.contains '\x00'

/-- Makes the folders along names, from a place down: the folders that there are then, and the last of
them, unless a file stands in the way or the way leaves the working directory. -/
def makeFolders (f : Files) (place : Place) : List String → Files × Option Place
  | [] => (f, some place)
  | name :: rest =>
    if name = ".." ∧ place ≠ [] then makeFolders f place.dropLast rest
    else if !isName name || (f.text? (place ++ [name])).isSome then (f, none)
    else
      let next := place ++ [name]
      makeFolders (if f.isFolder next then f else { f with folders := next :: f.folders }) next rest

/-- Writes a text to a path, with the folders on the way to it. Nothing is written where a folder
stands, outside the working directory, and to a path that does not end in a name. -/
def write (f : Files) (path text : String) : Files :=
  let way := (names path).filter fun name => name != "" && name != "."
  if path.toList.head? = some '/' then f
  else
    match f.makeFolders [] way.dropLast, (names path).getLast? with
    | (f, some folder), some name =>
      if !isName name || f.isFolder (folder ++ [name]) then f
      else { f with texts := (folder ++ [name], text) :: f.texts }
    | (f, _), _ => f

/-- The files written one after the other. -/
def ofPaths (texts : List (String × String)) : Files :=
  texts.foldl (fun f t => f.write t.1 t.2) ⟨[], []⟩

/-! ## Reading -/

inductive Location where
  /-- At a place under the working directory. -/
  | inside (place : Place)
  /-- At one of the folders above the working directory. -/
  | above
  /-- At a place under the root, away from the working directory. -/
  | outside (place : Place)
  deriving DecidableEq

def rootFolders : List String :=
  ["bin", "boot", "dev", "etc", "home", "lib", "media", "mnt", "opt", "proc", "root", "run", "sbin",
    "srv", "sys", "tmp", "usr", "var"]

def holdsNames (f : Files) : Location → Bool
  | .inside place => f.isFolder place
  | .above | .outside [] => true
  | .outside [name] => rootFolders.contains name
  | .outside _ => false

def isFile (f : Files) : Location → Bool
  | .inside place => (f.text? place).isSome
  | _ => false

/-- The folder that holds a location; the root holds itself. -/
def Location.parent : Location → Location
  | inside [] => above
  | inside place => inside place.dropLast
  | above => above
  | outside place => outside place.dropLast

/-- The location of a name in a folder. Nothing is known of what else lies above the working
directory. -/
def Location.child (name : String) : Location → Option Location
  | inside place => some (inside (place ++ [name]))
  | above => none
  | outside place => some (outside (place ++ [name]))

def walk (f : Files) (location : Location) : List String → Except FileFault Location
  | [] => .ok location
  | name :: rest =>
    if f.holdsNames location then
      if name = "" ∨ name = "." then walk f location rest
      else if name = ".." then walk f location.parent rest
      else if nameLimit < name.utf8ByteSize then .error .nameTooLong
      else
        match location.child name with
        | some next => walk f next rest
        | none => .error .missing
    else if f.isFile location then .error .notFolder
    else .error .missing

def read (f : Files) (path : String) : Except FileFault String :=
  if path.toList.contains '\x00' then .error .badName
  else if path = "" then .error .missing
  else if pathLimit < path.utf8ByteSize then .error .nameTooLong
  else do
    let start := if path.toList.head? = some '/' then Location.outside [] else .inside []
    let location ← f.walk start (names path)
    if f.holdsNames location then .error .isFolder
    else
      match location with
      | .inside place =>
        match f.text? place with
        | some text => .ok text
        | none => .error .missing
      | _ => .error .missing

end Files

end StepEngine
