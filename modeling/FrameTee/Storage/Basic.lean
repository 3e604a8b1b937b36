import FrameTee.Sink.Medium
import FrameTee.Storage.Tree
import FrameTee.Storage.Writer

/-!
# Storage

The media of a whole run: writers in memory, files by name, and descriptors that refer to open
files. A descriptor and its duplicates share one position; a file opened by its path has a position
of its own, and what is written through one handle is seen by every other.
-/

namespace FrameTee

/-- What an open file refers to. -/
inductive FileTarget where
  /-- A file, by its number. -/
  | file (number : Nat)
  /-- The device that has no room. -/
  | full
  deriving DecidableEq, Repr

/-- An open file: what it refers to and where the next write goes. -/
structure OpenFile where
  /-- What is open. -/
  target : FileTarget
  /-- Position of the next write. -/
  position : Nat := 0
  deriving DecidableEq, Repr

/-- The same open file, moved to a position. The device that has no room has no positions either and
stays at its start. -/
def OpenFile.moveTo (file : OpenFile) (position : Nat) : OpenFile :=
  match file.target with
  | .file _ => { file with position }
  | .full => { file with position := 0 }

/-- How a sink reaches its bytes. -/
inductive Handle where
  /-- A writer, by its number. -/
  | writer (number : Nat)
  /-- An open file, by its number. -/
  | file (number : Nat)
  deriving DecidableEq, Repr

/-- Writers, files and descriptors. -/
structure Storage where
  /-- The writers. -/
  writers : Array BufferWriter := #[]
  /-- The files. -/
  tree : FileTree := FileTree.initial
  /-- The open files. -/
  openFiles : Array OpenFile := #[]
  /-- The open file of each descriptor. -/
  descriptors : List (Int × Nat) := []

namespace Storage

variable (s : Storage)

/-- Adds a writer. -/
def addWriter (writer : BufferWriter) : Handle × Storage :=
  (.writer s.writers.size, { s with writers := s.writers.push writer })

/-- Adds an open file. -/
def addOpenFile (file : OpenFile) : Nat × Storage :=
  (s.openFiles.size, { s with openFiles := s.openFiles.push file })

/-- Opens a file for writing and creates it if it is missing. -/
def openFile (path : String) : Except IoError Nat × Storage :=
  match s.tree.locate path with
  | .error e => (.error e, s)
  | .ok place =>
    match s.tree.entry? place with
    | some .directory => (.error (.os .isDirectory), s)
    | some (.file number) =>
      let (opened, s) := s.addOpenFile ⟨.file number, 0⟩
      (.ok opened, s)
    | some .full =>
      let (opened, s) := s.addOpenFile ⟨.full, 0⟩
      (.ok opened, s)
    | none =>
      let (number, tree) := s.tree.addFile place #[]
      let (opened, s) := { s with tree }.addOpenFile ⟨.file number, 0⟩
      (.ok opened, s)

/-- Opens a file and lets a descriptor refer to it, at a position. -/
def place (fd : Int) (path : String) (position : Nat) : Storage :=
  match s.openFile path with
  | (.error _, s) => s
  | (.ok opened, s) =>
    { s with
      openFiles := s.openFiles.modify opened (·.moveTo position)
      descriptors := (fd, opened) :: s.descriptors }

/-- The open file that a descriptor refers to. -/
def openFileOf? (fd : Int) : Option OpenFile :=
  (s.descriptors.lookup fd).bind (s.openFiles[·]?)

/-- Writes through an open file. -/
def writeFile (opened : Nat) (bytes : Bytes) : Except IoError Nat × Storage :=
  match s.openFiles[opened]? with
  | none => (.error (.os .badDescriptor), s)
  | some file =>
    match file.target with
    | .full => if bytes.isEmpty then (.ok 0, s) else (.error (.os .noSpace), s)
    | .file number =>
      let contents := s.tree.contents.modify number fun data =>
        Bytes.overwriteAt data file.position bytes
      let moved := { file with position := file.position + bytes.size }
      (.ok bytes.size,
        { s with
          tree := { s.tree with contents }
          openFiles := s.openFiles.setIfInBounds opened moved })

/-- Moves the position of an open file. The device without room has no positions. -/
def seekFile (opened : Nat) (distance : Int) : Except IoError Nat × Storage :=
  match s.openFiles[opened]? with
  | none => (.error (.os .badDescriptor), s)
  | some file =>
    match file.target with
    | .full => (.ok 0, s)
    | .file _ =>
      let target := (file.position : Int) + distance
      if target < 0 then (.error (.os .invalidArgument), s)
      else
        let moved := { file with position := target.toNat }
        (.ok target.toNat, { s with openFiles := s.openFiles.setIfInBounds opened moved })

/-- Acts on a writer. Its place is free meanwhile, so that its bytes have one owner. -/
def withWriter {α : Type} (number : Nat)
    (action : BufferWriter → Except IoError α × BufferWriter) : Except IoError α × Storage :=
  match s.writers[number]? with
  | none => (.error (.os .badDescriptor), s)
  | some writer =>
    let freed := { s with writers := s.writers.setIfInBounds number {} }
    let (result, writer) := action writer
    (result, { freed with writers := freed.writers.setIfInBounds number writer })

theorem withWriter_of_getElem? {α : Type} {number : Nat} {writer : BufferWriter}
    (action : BufferWriter → Except IoError α × BufferWriter)
    (h : s.writers[number]? = some writer) :
    s.withWriter number action =
      ((action writer).1,
        { s with writers := s.writers.setIfInBounds number (action writer).2 }) := by
  simp [withWriter, h]

instance : Medium Storage Handle where
  openFile path s :=
    let (opened, s) := s.openFile path
    (opened.map .file, s)
  duplicate fd s :=
    if fd < 0 then (.error (.negativeDescriptor fd), s)
    else
      match s.descriptors.lookup fd with
      | some opened => (.ok (.file opened), s)
      | none => (.error (.os .badDescriptor), s)
  write
    | .writer number, bytes, s => s.withWriter number (·.write bytes)
    | .file opened, bytes, s => s.writeFile opened bytes
  seek
    | .writer number, distance, s => s.withWriter number (·.seek distance)
    | .file opened, distance, s => s.seekFile opened distance
  flush
    | .writer number, s => s.withWriter number fun writer => (writer.flush, writer)
    | .file _, s => (.ok (), s)

end Storage

end FrameTee
