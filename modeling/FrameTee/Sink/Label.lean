import FrameTee.Text.Inspect

/-!
# Names of sinks

A sink keeps the durable copy of a stream. Its label says where the copy goes: to a file opened by
its path, to a descriptor of the caller, or to a writer that the caller named. A sink target is what
a caller asks to be opened: a path or a descriptor.
-/

namespace FrameTee

/-- Where a sink writes to. -/
inductive SinkLabel where
  /-- A file opened by its path. -/
  | file (path : String)
  /-- A descriptor of the caller. -/
  | descriptor (fd : Int)
  /-- A writer of the caller. -/
  | writer (name : String)
  deriving DecidableEq, Repr

namespace SinkLabel

/-- The label as shown to people. -/
def describe : SinkLabel → String
  | file path => "file=" ++ path
  | descriptor fd => "fd=" ++ toString fd
  | writer name => "writer=" ++ name

/-- The label as an inspected value. -/
def inspect : SinkLabel → String
  | file path => Text.variant "Path" [Text.quote path]
  | descriptor fd => Text.variant "Descriptor" [toString fd]
  | writer name => Text.variant "Writer" [Text.quote name]

end SinkLabel

/-- What a caller asks to be opened as a sink. -/
inductive SinkTarget where
  /-- A file, created if it is missing and never cut short. -/
  | file (path : String)
  /-- An open descriptor of the caller, which stays open when the sink closes. -/
  | descriptor (fd : Int)
  deriving DecidableEq, Repr

/-- The label of the sink that a target opens. -/
def SinkTarget.label : SinkTarget → SinkLabel
  | file path => .file path
  | descriptor fd => .descriptor fd

end FrameTee
