import FrameTee.Frame.Geometry
import FrameTee.Stream.Error

/-!
# Logged events

What the library reports while it runs. Each event carries its facts; its level, its message and its
named fields are computed from them. An event at level `error` says that a sink no longer holds what
its stream has moved.
-/

namespace FrameTee

/-- How much an event matters. -/
inductive LogLevel where
  /-- Something is lost. -/
  | error
  /-- Something went wrong on the side. -/
  | warn
  /-- A step in the life of a stream. -/
  | debug
  /-- A single transfer. -/
  | trace
  deriving DecidableEq, Repr

/-- The name of a level. -/
def LogLevel.name : LogLevel → String
  | error => "ERROR"
  | warn => "WARN"
  | debug => "DEBUG"
  | trace => "TRACE"

/-- The value of one field of an event. -/
inductive LogValue where
  /-- A count. -/
  | count (n : Nat)
  /-- A yes or no. -/
  | flag (b : Bool)
  /-- A text. -/
  | text (s : String)
  deriving DecidableEq, Repr

/-- What can be reported. -/
inductive LogEvent where
  /-- A tee was put over a stream. -/
  | teeOpened (slave : String) (sink : SinkLabel) (direction : Direction) (closeSlave : Bool)
  /-- A tee starts to close. -/
  | closingTee (slave : String) (frames bytes : Nat)
  /-- The stream below a closing tee could not be closed. -/
  | slaveCloseFailed (error : StreamError)
  /-- Frames were recorded. -/
  | framesTeed (frames bytes : Nat) (sink : SinkLabel)
  /-- A contiguous part of a committed range is about to be recorded. -/
  | ringSpan (offset frames : Nat)
  /-- A sink was moved back. -/
  | sinkRewound (frames bytes : Nat)
  /-- A sink was opened. -/
  | sinkOpened (sink : SinkLabel)
  /-- A sink took fewer bytes than it was given. -/
  | shortWrite (sink : SinkLabel) (expected written : Nat)
  /-- A sink could not be moved back. -/
  | rewindFailed (sink : SinkLabel) (bytes : Nat)
  /-- A sink starts to close. -/
  | closingSink (sink : SinkLabel)
  /-- A stream is closed again because its sink could not be opened. -/
  | sinkOpenFailed (slave : String) (error : SinkError)
  /-- Recorded frames found no room. -/
  | captureOverrun (device : String) (dropped : Nat)
  /-- A device took on new parameters. -/
  | paramsSet (device : String) (geometry : FrameGeometry)
  /-- A memory device closes. -/
  | closingMemory (device : String)
  /-- A tee description was understood. -/
  | configParsed (slave : String) (target : SinkLabel)
  /-- The name of the stream to wrap is no text. -/
  | slaveNameRejected (key kind : String)
  /-- The place of the copy is neither a path nor a descriptor. -/
  | fileValueRejected (key kind : String)
  deriving DecidableEq, Repr

namespace LogEvent

/-- How much the event matters. -/
def level : LogEvent → LogLevel
  | shortWrite .. | rewindFailed .. => .error
  | slaveCloseFailed .. => .warn
  | framesTeed .. | ringSpan .. | sinkRewound .. => .trace
  | _ => .debug

/-- The event in words. -/
def message : LogEvent → String
  | teeOpened .. => "tee opened"
  | closingTee .. => "closing tee"
  | slaveCloseFailed .. => "slave close failed"
  | framesTeed .. => "frames teed"
  | ringSpan .. => "ring span"
  | sinkRewound .. => "sink rewound"
  | sinkOpened .. => "sink opened"
  | shortWrite .. => "short write, sink no longer mirrors the stream"
  | rewindFailed .. => "rewind seek failed"
  | closingSink .. => "closing sink"
  | sinkOpenFailed .. => "sink open failed, closing slave"
  | captureOverrun .. => "capture ring overrun"
  | paramsSet .. => "parameters set"
  | closingMemory .. => "closing memory transport"
  | configParsed .. => "tee configuration parsed"
  | slaveNameRejected .. => "rejecting slave name"
  | fileValueRejected .. => "rejecting file value"

/-- The named facts of the event. -/
def fields : LogEvent → List (String × LogValue)
  | teeOpened slave sink direction closeSlave =>
    [("slave", .text slave), ("sink", .text sink.describe), ("direction", .text direction.name),
      ("close_slave", .flag closeSlave)]
  | closingTee slave frames bytes =>
    [("slave", .text slave), ("frames", .count frames), ("bytes", .count bytes)]
  | slaveCloseFailed error => [("error", .text error.message)]
  | framesTeed frames bytes sink =>
    [("frames", .count frames), ("bytes", .count bytes), ("sink", .text sink.describe)]
  | ringSpan offset frames => [("offset", .count offset), ("frames", .count frames)]
  | sinkRewound frames bytes => [("frames", .count frames), ("bytes", .count bytes)]
  | sinkOpened sink => [("sink", .text sink.describe)]
  | shortWrite sink expected written =>
    [("sink", .text sink.describe), ("expected", .count expected), ("written", .count written)]
  | rewindFailed sink bytes => [("sink", .text sink.describe), ("bytes", .count bytes)]
  | closingSink sink => [("sink", .text sink.describe)]
  | sinkOpenFailed slave error =>
    [("slave", .text slave), ("error", .text error.message)]
  | captureOverrun device dropped => [("transport", .text device), ("dropped", .count dropped)]
  | paramsSet device geometry =>
    [("transport", .text device), ("geometry", .text geometry.describe)]
  | closingMemory device => [("transport", .text device)]
  | configParsed slave target =>
    [("slave", .text slave), ("target", .text target.describe)]
  | slaveNameRejected key kind | fileValueRejected key kind =>
    [("key", .text key), ("kind", .text kind)]

end LogEvent

end FrameTee
