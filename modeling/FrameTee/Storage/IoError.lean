import FrameTee.Text.Inspect

/-!
# Input and output errors

What a file, a descriptor or a writer reports when it refuses a request. Refusals of the operating
system carry its error number.
-/

namespace FrameTee

/-- A refusal of the operating system. -/
inductive OsFault where
  /-- A file or one of its directories does not exist. -/
  | notFound
  /-- A descriptor is not open. -/
  | badDescriptor
  /-- A file stands where a directory is needed. -/
  | notDirectory
  /-- A directory stands where a file is needed. -/
  | isDirectory
  /-- A position before the start of a file. -/
  | invalidArgument
  /-- There is no room left. -/
  | noSpace
  /-- A name is longer than names may be. -/
  | nameTooLong
  deriving DecidableEq, Repr

namespace OsFault

/-- The error number. -/
def code : OsFault → Nat
  | notFound => 2
  | badDescriptor => 9
  | notDirectory => 20
  | isDirectory => 21
  | invalidArgument => 22
  | noSpace => 28
  | nameTooLong => 36

/-- The system's words for the error. -/
def text : OsFault → String
  | notFound => "No such file or directory"
  | badDescriptor => "Bad file descriptor"
  | notDirectory => "Not a directory"
  | isDirectory => "Is a directory"
  | invalidArgument => "Invalid argument"
  | noSpace => "No space left on device"
  | nameTooLong => "File name too long"

/-- The kind of the error in inspected values. -/
def kind : OsFault → String
  | notFound => "NotFound"
  | badDescriptor => "Uncategorized"
  | notDirectory => "NotADirectory"
  | isDirectory => "IsADirectory"
  | invalidArgument => "InvalidInput"
  | noSpace => "StorageFull"
  | nameTooLong => "InvalidFilename"

end OsFault

/-- Why a request to a file, a descriptor or a writer failed. -/
inductive IoError where
  /-- The operating system refused. -/
  | os (fault : OsFault)
  /-- A file name holds a zero byte. -/
  | nulInName
  /-- A descriptor number is negative. -/
  | negativeDescriptor (fd : Int)
  /-- A distance back that no seek can express. -/
  | rewindTooFar
  /-- A seek of a writer to a position before its start. -/
  | seekBeforeStart
  /-- A writer reported a failure in its own words. -/
  | reported (text : String)
  deriving DecidableEq, Repr

namespace IoError

/-- The error as shown to people. -/
def message : IoError → String
  | os fault => s!"{fault.text} (os error {fault.code})"
  | nulInName => "file name contained an unexpected NUL byte"
  | negativeDescriptor fd => s!"negative descriptor {fd}"
  | rewindTooFar => "rewind distance too large"
  | seekBeforeStart => "invalid seek to a negative or overflowing position"
  | reported text => text

/-- The error as an inspected value. -/
def inspect : IoError → String
  | os fault =>
    Text.record "Os"
      [("code", toString fault.code), ("kind", fault.kind), ("message", Text.quote fault.text)]
  | nulInName =>
    Text.record "Error"
      [("kind", "InvalidInput"), ("message", Text.quote (message nulInName))]
  | negativeDescriptor fd =>
    Text.record "Custom"
      [("kind", "InvalidInput"), ("error", Text.quote (message (negativeDescriptor fd)))]
  | rewindTooFar =>
    Text.record "Custom"
      [("kind", "InvalidInput"), ("error", Text.quote (message rewindTooFar))]
  | seekBeforeStart =>
    Text.record "Error"
      [("kind", "InvalidInput"), ("message", Text.quote (message seekBeforeStart))]
  | reported text => Text.record "Custom" [("kind", "Other"), ("error", Text.quote text)]

end IoError

end FrameTee
