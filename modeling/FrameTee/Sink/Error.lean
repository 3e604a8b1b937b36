import FrameTee.Sink.Label
import FrameTee.Storage.IoError

/-!
# Failures of a sink

None of these is retried: once a write or a seek has failed, the copy is out of step with the
stream.
-/

namespace FrameTee

/-- Why the durable copy could not be kept. -/
inductive SinkError where
  /-- The sink could not be opened. -/
  | opening (target : SinkLabel) (source : IoError)
  /-- A write failed. -/
  | write (target : SinkLabel) (source : IoError)
  /-- A write took fewer bytes than it was given. -/
  | shortWrite (target : SinkLabel) (expected written : Nat)
  /-- Moving or asking for the position failed. -/
  | seek (target : SinkLabel) (source : IoError)
  /-- Closing failed. -/
  | close (target : SinkLabel) (source : IoError)
  deriving DecidableEq, Repr

namespace SinkError

/-- The failure as shown to people. -/
def message : SinkError → String
  | opening target source => s!"cannot open sink {target.describe}: {source.message}"
  | write target source => s!"write to sink {target.describe} failed: {source.message}"
  | shortWrite target expected written =>
    s!"short write to sink {target.describe}: {written} of {expected} bytes"
  | seek target source => s!"seek on sink {target.describe} failed: {source.message}"
  | close target source => s!"closing sink {target.describe} failed: {source.message}"

/-- The name of the kind of failure. -/
def kind : SinkError → String
  | opening .. => "Open"
  | write .. => "Write"
  | shortWrite .. => "ShortWrite"
  | seek .. => "Seek"
  | close .. => "Close"

/-- The failure as an inspected value. -/
def inspect (error : SinkError) : String :=
  Text.record error.kind <|
    match error with
    | opening target source | write target source | seek target source | close target source =>
      [("target", target.inspect), ("source", source.inspect)]
    | shortWrite target expected written =>
      [("target", target.inspect), ("expected", toString expected),
        ("written", toString written)]

end SinkError

end FrameTee
