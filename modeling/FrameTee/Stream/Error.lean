import FrameTee.Area.Error
import FrameTee.Config.Error
import FrameTee.Sink.Error
import FrameTee.Stream.Params
import FrameTee.Stream.State

/-!
# Errors of a stream

Every operation of a stream fails with a `StreamError`. Errors of the device below pass through a
tee unchanged; `StreamError.isSinkFailure` tells those apart in which the durable copy failed.
-/

namespace FrameTee

/-- Why a stream rejected an argument. -/
inductive ArgumentFault where
  /-- Parameters outside the range of the device. -/
  | unsupportedParams (params : StreamParams)
  /-- A buffer shorter than the frames asked for. -/
  | shortBuffer (available needed : Nat)
  /-- Not one buffer per channel. -/
  | channelBuffers (expected actual : Nat)
  /-- A channel that the stream does not have. -/
  | noChannel (channel : UInt16)
  /-- Frames that do not fit in a byte count. -/
  | frameOverflow (frames : Nat)
  /-- Frames committed to a ring without room. -/
  | emptyRing
  /-- A reason in the device's own words. -/
  | other (text : String)
  deriving DecidableEq, Repr

/-- The reason as shown to people. -/
def ArgumentFault.message : ArgumentFault → String
  | unsupportedParams params => "unsupported parameters " ++ params.inspect
  | shortBuffer available needed => s!"buffer holds {available} bytes, {needed} needed"
  | channelBuffers expected actual => s!"expected {expected} channel buffers, got {actual}"
  | noChannel channel => "no channel " ++ toString channel.toNat
  | frameOverflow frames => s!"{frames} frames do not fit in a byte count"
  | emptyRing => "mapped ring has no capacity but frames were committed"
  | other text => text

/-- Why an operation of a stream failed. -/
inductive StreamError where
  /-- The ring ran empty or over. -/
  | xrun
  /-- The stream is suspended. -/
  | suspended
  /-- A stream that does not block cannot make progress now. -/
  | wouldBlock
  /-- The operation is not allowed in the state of the stream. -/
  | badState (op : String) (state : StreamState)
  /-- An argument was rejected. -/
  | invalidArgument (fault : ArgumentFault)
  /-- The device does not know the operation. -/
  | unsupported (what : String)
  /-- The device is gone. -/
  | disconnected
  /-- No stream has this name. -/
  | notFound (name : String)
  /-- The audio system reported a failure. -/
  | backend (text : String)
  /-- The durable copy failed. -/
  | sink (error : SinkError)
  /-- A channel area does not fit its memory. -/
  | area (error : AreaError)
  /-- A tee description was rejected. -/
  | config (error : ConfigError)
  deriving DecidableEq, Repr

namespace StreamError

/-- The error as shown to people. -/
def message : StreamError → String
  | xrun => "xrun: stream needs to be prepared again"
  | suspended => "stream suspended"
  | wouldBlock => "operation would block"
  | badState op state => s!"{op} not allowed in state {state.name}"
  | invalidArgument fault => "invalid argument: " ++ fault.message
  | unsupported what => "operation not supported: " ++ what
  | disconnected => "device disconnected"
  | notFound name => "stream not found: " ++ name
  | backend text => "audio backend error: " ++ text
  | sink error => error.message
  | area error => error.message
  | config error => error.message

/-- Whether a caller is answered with the error, or not at all. -/
def isAnswer : StreamError → Bool
  | area error => error.isAnswer
  | _ => true

/-- Whether the durable copy is out of step with the stream. -/
def isSinkFailure : StreamError → Bool
  | sink _ => true
  | _ => false

/-- The name of the kind of error, alone for an error of the stream and after the name of its part
for one of the sink, an area or the description. -/
def kind : StreamError → String
  | xrun => "Xrun"
  | suspended => "Suspended"
  | wouldBlock => "WouldBlock"
  | badState .. => "BadState"
  | invalidArgument .. => "InvalidArgument"
  | unsupported .. => "Unsupported"
  | disconnected => "Disconnected"
  | notFound .. => "NotFound"
  | backend .. => "Backend"
  | sink error => "Sink." ++ error.kind
  | area error => "Area." ++ error.kind
  | config error => "Config." ++ error.kind

/-- The error as an inspected value. -/
def inspect (error : StreamError) : String :=
  match error with
  | xrun | suspended | wouldBlock | disconnected => error.kind
  | badState op state =>
    Text.record error.kind [("op", Text.quote op), ("state", state.inspect)]
  | invalidArgument fault => Text.variant error.kind [Text.quote fault.message]
  | unsupported text | backend text => Text.variant error.kind [Text.quote text]
  | notFound name => Text.record error.kind [("name", Text.quote name)]
  | sink inner => Text.variant "Sink" [inner.inspect]
  | area inner => Text.variant "Area" [inner.inspect]
  | config inner => Text.variant "Config" [inner.inspect]

end StreamError

end FrameTee
