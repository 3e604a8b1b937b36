import FrameTee.Tone.Recital

/-!
# The command

Plays the tone through a tee. The one argument names the file that keeps the copy; the file is
created if it is missing and never cut short.
-/

namespace FrameTee.Tone

/-- The error that a failure to open a file stands for. -/
private def errorOf : IO.Error → IoError
  | .noFileOrDirectory .. => .os .notFound
  | .inappropriateType _ 20 _ => .os .notDirectory
  | .inappropriateType .. => .os .isDirectory
  | .invalidArgument _ 36 _ => .os .nameTooLong
  | e => .reported (toString e)

/-- Opens the file as the sink will, which creates it if it is missing, and reads what it holds. -/
private def loadFile (path : String) : IO (Except IoError ByteArray) := do
  try
    let handle ← IO.FS.Handle.mk path .append
    handle.flush
    return .ok (← IO.FS.readBinFile path)
  catch e => return .error (errorOf e)

/-- Storage in which the file of the command holds what it really holds. -/
private def storageWith (path : String) (data : Bytes) : Storage :=
  { tree := FileTree.initial.put path data }

/-- What the file of the command holds in a storage. -/
private def fileIn (path : String) (storage : Storage) : Option Bytes :=
  match storage.tree.locate path with
  | .error _ => none
  | .ok place =>
    match storage.tree.entry? place with
    | some (.file number) => some (storage.tree.bytes number)
    | _ => none

/-- Shows what a run has to say and gives its exit status. -/
private def report (r : Recital) : IO UInt32 := do
  IO.print r.shown
  IO.eprint r.complaint
  return if r.failed then 1 else 0

/-- Runs the command over the real file. The device that is always full is never read. -/
def command (arguments : List String) : IO UInt32 := do
  let path := arguments.headD defaultPath
  if path == "/dev/full" then report (recital arguments {})
  else
    match ← loadFile path with
    | .error source =>
      let error := SinkError.opening (.file path) source
      IO.eprint ("Error: " ++ error.inspect ++ "\n")
      return 1
    | .ok data =>
      let r := recital arguments (storageWith path (Array.mk data.toList))
      match fileIn path r.storage with
      | some bytes => IO.FS.writeBinFile path ⟨bytes⟩
      | none => pure ()
      report r

end FrameTee.Tone

/-- Plays the tone into the file that the first argument names. -/
def main (arguments : List String) : IO UInt32 :=
  FrameTee.Tone.command arguments
