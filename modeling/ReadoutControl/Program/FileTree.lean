import ReadoutControl.Program.Path

set_option autoImplicit false

/-!
A tree of directories and files held in memory, with the directory in which a program runs.
-/

namespace ReadoutControl

inductive FileError where
  | notFound
  | alreadyExists
  | notDirectory
  | isDirectory
  | nameTooLong
  deriving DecidableEq

namespace FileError

def message : FileError → String
  | notFound => "No such file or directory (os error 2)"
  | alreadyExists => "File exists (os error 17)"
  | notDirectory => "Not a directory (os error 20)"
  | isDirectory => "Is a directory (os error 21)"
  | nameTooLong => "File name too long (os error 36)"

end FileError

/-- The way from the root to a directory or file. -/
abbrev Place := List String

structure FileTree where
  here : Place
  directories : List Place
  files : List (Place × String)

namespace FileTree

/-- A tree of the given files, by their paths from the directory of the program. -/
def ofFiles (files : List (String × String)) : FileTree :=
  let here := ["work"]
  let placed := files.map fun (path, content) =>
    (here ++ (Path.ofText path).names.filter (· ≠ "."), content)
  let directories := placed.flatMap fun (place, _) =>
    (List.range place.length).map fun n => place.take n
  ⟨here, ([] :: here :: directories).eraseDups, placed⟩

def isDirectory (t : FileTree) (place : Place) : Bool := t.directories.contains place

def content? (t : FileTree) (place : Place) : Option String := t.files.lookup place

def existsAt (t : FileTree) (place : Place) : Bool :=
  t.isDirectory place || (t.content? place).isSome

/-- Names have at most this many bytes. -/
def maxName : Nat := 255

/-- Paths have fewer bytes than this. -/
def maxPath : Nat := 4096

/-- The directory entry of a name. -/
def entry (place : Place) (name : String) : Except FileError Place :=
  if maxName < name.utf8ByteSize then .error .nameTooLong else .ok (place ++ [name])

/-- Goes on from a directory by a name; one point stays there and two points lead back. -/
def enter (t : FileTree) (place : Place) (name : String) : Except FileError Place :=
  if !t.isDirectory place then .error .notDirectory
  else if name = "." then .ok place
  else if name = ".." then .ok place.dropLast
  else (entry place name).bind fun target =>
    if t.existsAt target then .ok target else .error .notFound

/-- Follows the first names of a path from where it starts. -/
def follow (t : FileTree) (p : Path) (names : List String) : Except FileError Place :=
  if maxPath ≤ p.text.utf8ByteSize then .error .nameTooLong
  else names.foldlM t.enter (if p.isAbsolute then [] else t.here)

/-- The place of an existing directory or file. -/
def locate (t : FileTree) (p : Path) : Except FileError Place := do
  let place ← t.follow p p.names
  if p.endsInSlash && !t.isDirectory place then .error .notDirectory else .ok place

def isDirectoryAt (t : FileTree) (p : Path) : Bool :=
  match t.locate p with
  | .ok place => t.isDirectory place
  | .error _ => false

def read (t : FileTree) (p : Path) : Except FileError String := do
  let place ← t.locate p
  match t.content? place with
  | some content => .ok content
  | none => .error .isDirectory

/-- The directory in which the last name of a path stands, and that name. A path that ends in
points has none. -/
def lastName? (t : FileTree) (p : Path) : Except FileError (Option (Place × String)) := do
  let place ← t.follow p p.names.dropLast
  if !t.isDirectory place then .error .notDirectory
  else .ok ((p.names.getLast?.filter fun name => name ≠ "." ∧ name ≠ "..").map (place, ·))

def makeDirectory (t : FileTree) (p : Path) : Except FileError FileTree := do
  match ← t.lastName? p with
  | none => .error .alreadyExists
  | some (place, name) =>
    let target ← entry place name
    if t.existsAt target then .error .alreadyExists
    else .ok { t with directories := t.directories ++ [target] }

/-- Makes a directory and all that lead to it, as far as they are missing. -/
def makeDirectories (t : FileTree) (p : Path) : Except FileError FileTree :=
  go p.pieces.length t p
where
  settle (t : FileTree) (p : Path) (e : FileError) : Except FileError FileTree :=
    if t.isDirectoryAt p then .ok t else .error e
  go : Nat → FileTree → Path → Except FileError FileTree
    | 0, _, _ => .error .notFound
    | fuel + 1, t, p =>
      match t.makeDirectory p with
      | .ok t => .ok t
      | .error .notFound =>
        match p.parent? with
        | none => .error .notFound
        | some outer =>
          (go fuel t outer).bind fun t =>
            match t.makeDirectory p with
            | .ok t => .ok t
            | .error e => settle t p e
      | .error e => settle t p e

/-- Writes a file, in place of the one that was there. A path that can only name a directory is
refused as one, whatever is there. -/
def write (t : FileTree) (p : Path) (content : String) : Except FileError FileTree := do
  match ← t.lastName? p with
  | none => .error .isDirectory
  | some (place, name) =>
    if p.endsInSlash then .error .isDirectory
    else
      let target ← entry place name
      if t.isDirectory target then .error .isDirectory
      else .ok { t with files := t.files.filter (·.1 ≠ target) ++ [(target, content)] }

/-- The files below the directory of the program, by their paths from there. -/
def listing (t : FileTree) : List (String × String) :=
  t.files.filterMap fun (place, content) =>
    if t.here.isPrefixOf place then some ("/".intercalate (place.drop t.here.length), content)
    else none

end FileTree

end ReadoutControl
