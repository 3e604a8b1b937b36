import FrameTee.Bytes
import FrameTee.Storage.IoError

/-!
# Files by name

A `FileTree` maps places, which are lists of names from the root down, to what is there: a file, a
directory, or the device that is always full. Files are numbered, so that a file can be open under
more than one handle. `FileTree.locate` finds the place that a path leads to for a file that is to
be opened for writing and created if it is missing; the first step of a path that cannot be taken
decides the error.
-/

namespace FrameTee

/-- Names from the root down. -/
abbrev Place := List String

/-- What is at a place. -/
inductive FileEntry where
  /-- A file, by its number. -/
  | file (number : Nat)
  /-- A directory. -/
  | directory
  /-- The device that has no room for any byte. -/
  | full
  deriving DecidableEq, Repr

/-- Files and directories. -/
structure FileTree where
  /-- What is where; the root itself is not listed. -/
  entries : List (Place × FileEntry)
  /-- The bytes of each file. -/
  contents : Array Bytes
  /-- The directory in which relative paths start. -/
  workPlace : Place

namespace FileTree

/-- The tree before anything is put into it. -/
def initial : FileTree where
  entries :=
    [(["dev"], .directory), (["dev", "full"], .full), (["tmp"], .directory), (["work"], .directory)]
  contents := #[]
  workPlace := ["work"]

variable (t : FileTree)

/-- What is at a place. -/
def entry? (place : Place) : Option FileEntry :=
  if place.isEmpty then some .directory else t.entries.lookup place

/-- Most bytes of one name. -/
def maxNameBytes : Nat := 255

/-- Number of bytes at which a path is too long. -/
def pathLimit : Nat := 4096

/-- Takes one step of a path. -/
def step (place : Place) (name : String) : Except OsFault Place :=
  match t.entry? place with
  | some .directory =>
    if name = "." then .ok place
    else if name = ".." then .ok place.dropLast
    else if maxNameBytes < name.utf8ByteSize then .error .nameTooLong
    else .ok (place ++ [name])
  | some _ => .error .notDirectory
  | none => .error .notFound

/-- Takes the steps of a path one after the other. -/
def walk (place : Place) (names : List String) : Except OsFault Place :=
  names.foldlM t.step place

/-- The names on a path; slashes that follow each other count as one. -/
def namesOf (path : String) : List String :=
  (path.splitOn "/").filter (!·.isEmpty)

/-- The directory in which a path starts. -/
def startOf (path : String) : Place :=
  if path.startsWith "/" then [] else t.workPlace

/-- Whether the last step of a path can only lead to a directory. -/
def endsInDirectory (path : String) : Bool :=
  path.endsWith "/" || path == "." || path == ".." || path.endsWith "/." || path.endsWith "/.."

/-- The place of a file that is to be opened for writing. -/
def locate (path : String) : Except IoError Place :=
  if path.toList.contains '\x00' then .error .nulInName
  else if path.isEmpty then .error (.os .notFound)
  else if pathLimit ≤ path.utf8ByteSize then .error (.os .nameTooLong)
  else
    let names := namesOf path
    match t.walk (t.startOf path) names.dropLast with
    | .error fault => .error (.os fault)
    | .ok parent =>
      match t.entry? parent with
      | none => .error (.os .notFound)
      | some .directory =>
        if endsInDirectory path then .error (.os .isDirectory)
        else
          match t.step parent (names.getLastD ".") with
          | .error fault => .error (.os fault)
          | .ok place => .ok place
      | some _ => .error (.os .notDirectory)

/-- Puts a file at a place and tells its number. -/
def addFile (place : Place) (data : Bytes) : Nat × FileTree :=
  let number := t.contents.size
  (number,
    { t with
      entries := (place, .file number) :: t.entries.filter (·.1 != place)
      contents := t.contents.push data })

/-- Puts a directory at a place. -/
def addDirectory (place : Place) : FileTree :=
  { t with entries := (place, .directory) :: t.entries.filter (·.1 != place) }

/-- Takes one step of a path, over a directory that is put there if nothing is. -/
private def stepInto (reached : FileTree × Place) (name : String) : FileTree × Place :=
  let (t, place) := reached
  match t.step place name with
  | .error _ => reached
  | .ok next => ((if (t.entry? next).isNone then t.addDirectory next else t), next)

/-- The tree with every directory that a path passes through, and the place it leads to. -/
def reach (path : String) : FileTree × Place :=
  let names := namesOf path
  let (t, parent) := names.dropLast.foldl stepInto (t, t.startOf path)
  (t, (t.step parent (names.getLastD ".")).toOption.getD parent)

/-- Puts a file where a path leads, with the directories on the way. A path that ends in a slash
puts a directory there. -/
def put (path : String) (data : Bytes) : FileTree :=
  let (t, place) := t.reach path
  if path.endsWith "/" then t.addDirectory place else (t.addFile place data).2

/-- The bytes of a file. -/
def bytes (number : Nat) : Bytes :=
  t.contents.getD number #[]

/-- The names in the directory of relative paths, with the bytes of those that are files. -/
def listing : List (String × Option Bytes) :=
  t.entries.filterMap fun (place, entry) =>
    match place.getLast? with
    | some name =>
      if place.dropLast == t.workPlace then
        match entry with
        | .file number => some (name, some (t.bytes number))
        | _ => some (name, none)
      else none
    | none => none

end FileTree

end FrameTee
