import FrameTee.Stack.Transfer

/-!
# Requests as data

Everything that an application can ask of a stream, closing apart, is a `Request`, and what it gets
is a `Reply`. A run of a program is then a list of requests, each performed on what the one before
left behind.
-/

namespace FrameTee

/-- What an application can ask of a stream. -/
inductive Request where
  /-- The name of the stream. -/
  | name
  /-- The direction of the stream. -/
  | direction
  /-- The fixed description. -/
  | info
  /-- The parameters on offer. -/
  | paramsRange
  /-- To take on parameters. -/
  | setParams (params : StreamParams)
  /-- What the parameters came to. -/
  | setup
  /-- Where a channel lies in the ring. -/
  | channelInfo (channel : UInt16)
  /-- A snapshot. -/
  | status
  /-- The state. -/
  | state
  /-- The frames between application and hardware. -/
  | delay
  /-- The frames that can be moved. -/
  | availUpdate
  /-- To become ready. -/
  | prepare
  /-- To start. -/
  | start
  /-- To stop at once. -/
  | stop
  /-- To stop once all is played. -/
  | drain
  /-- To halt or to go on. -/
  | pause (enable : Bool)
  /-- To block or not. -/
  | setNonblocking (enable : Bool)
  /-- The descriptor to wait on. -/
  | pollDescriptor
  /-- The channels of a mask that the stream has. -/
  | reduceMask (mask : ChannelMask)
  /-- To write one interleaved buffer. -/
  | writeInterleaved (buffer : Bytes) (frames : Nat)
  /-- To write one buffer per channel. -/
  | writePlanar (buffers : Array Bytes) (frames : Nat)
  /-- To read into one interleaved buffer. -/
  | readInterleaved (buffer : Bytes) (frames : Nat)
  /-- To read into one buffer per channel. -/
  | readPlanar (buffers : Array Bytes) (frames : Nat)
  /-- The position of the application. -/
  | applPtr
  /-- Whether the ring can be mapped for reading and for writing. -/
  | probeRing
  /-- To store interleaved frames in the mapped ring. -/
  | storeMapped (offset : Nat) (src : Bytes)
  /-- The frames of the mapped ring. -/
  | loadMapped (offset frames : Nat)
  /-- To hand over frames of the mapped ring. -/
  | commit (frames : Nat)
  /-- To take back frames. -/
  | rewind (frames : Nat)
  /-- The description for people. -/
  | dump

/-- What a stream can answer. -/
inductive Value where
  /-- Done. -/
  | done
  /-- A text. -/
  | text (s : String)
  /-- A direction. -/
  | direction (d : Direction)
  /-- A fixed description. -/
  | info (i : StreamInfo)
  /-- Parameters on offer. -/
  | paramsRange (r : ParamsRange)
  /-- A setup. -/
  | setup (s : StreamSetup)
  /-- The place of a channel. -/
  | channelInfo (c : ChannelInfo)
  /-- A snapshot. -/
  | status (s : StreamStatus)
  /-- A state. -/
  | state (s : StreamState)
  /-- A count of frames, or a position. -/
  | count (n : Nat)
  /-- A number that may be negative. -/
  | number (n : Int)
  /-- A set of channels. -/
  | mask (m : ChannelMask)
  /-- Frames. -/
  | bytes (b : Bytes)
  /-- Whether the ring can be mapped for reading and for writing. -/
  | probes (reading writing : Except StreamError Unit)

/-- The buffers of the caller after a read. -/
inductive ReadBuffers where
  /-- The request had no buffers to fill. -/
  | none
  /-- One interleaved buffer. -/
  | interleaved (buffer : Bytes)
  /-- One buffer per channel. -/
  | planar (buffers : Array Bytes)
  deriving DecidableEq

/-- What a request got. -/
structure Reply where
  /-- The answer. -/
  result : Except StreamError Value
  /-- The buffers of a read. -/
  buffers : ReadBuffers := .none

/-- What performing a request leaves behind. -/
structure Performed (δ μ η : Type) where
  /-- What the request got. -/
  reply : Reply
  /-- The stack afterwards. -/
  stack : TeeStack δ η
  /-- The media and the log afterwards. -/
  world : World μ

namespace TeeStack

variable {δ μ η α : Type} [Device δ] [Medium μ η]

private def answered (value : α → Value) (buffers : ReadBuffers)
    (outcome : StackOutcome δ μ η α) : Performed δ μ η :=
  ⟨⟨outcome.result.map value, buffers⟩, outcome.stack, outcome.world⟩

/-- Performs a request on a stack of tees. -/
def perform (request : Request) (stack : TeeStack δ η) (w : World μ) : Performed δ μ η :=
  let d := stack.device
  let tell (result : Except StreamError Value) : Performed δ μ η := ⟨⟨result, .none⟩, stack, w⟩
  let act (operation : δ → DeviceStep δ Unit) : Performed δ μ η :=
    answered (fun _ => .done) .none (stack.pass operation w)
  let moved (outcome : StackOutcome δ μ η Nat) : Performed δ μ η :=
    answered .count .none outcome
  match request with
  | .name => tell (.ok (.text (Device.name d)))
  | .direction => tell (.ok (.direction stack.direction))
  | .info => tell ((Device.info d).map .info)
  | .paramsRange => tell ((Device.paramsRange d).map .paramsRange)
  | .setParams params => act (Device.setParams params)
  | .setup => tell ((Device.setup d).map .setup)
  | .channelInfo channel => tell ((Device.channelInfo channel d).map .channelInfo)
  | .status => tell ((Device.status d).map .status)
  | .state => tell (.ok (.state (Device.state d)))
  | .delay => tell ((Device.delay d).map .number)
  | .availUpdate => moved (stack.pass Device.availUpdate w)
  | .prepare => act Device.prepare
  | .start => act Device.start
  | .stop => act Device.stop
  | .drain => act Device.drain
  | .pause enable => act (Device.pause enable)
  | .setNonblocking enable => act (Device.setNonblocking enable)
  | .pollDescriptor => tell ((Device.pollDescriptor d).map .number)
  | .reduceMask mask => tell ((Device.reduceMask mask d).map .mask)
  | .writeInterleaved buffer frames => moved (stack.writeInterleaved buffer frames w)
  | .writePlanar buffers frames => moved (stack.writePlanar buffers frames w)
  | .readInterleaved buffer frames =>
    let (outcome, buffer) := stack.readInterleaved buffer frames w
    answered .count (.interleaved buffer) outcome
  | .readPlanar buffers frames =>
    let (outcome, buffers) := stack.readPlanar buffers frames w
    answered .count (.planar buffers) outcome
  | .applPtr => tell (.ok (.count (Device.applPtr d)))
  | .probeRing =>
    tell (.ok (.probes ((Device.mappedRing d).map fun _ => ())
      ((Device.writableRing d).map fun _ => ())))
  | .storeMapped offset src => act (Device.storeMapped offset src)
  | .loadMapped offset frames => tell ((Device.loadMapped offset frames d).map .bytes)
  | .commit frames => moved (stack.commit frames w)
  | .rewind frames => moved (stack.rewind frames w)
  | .dump => tell (.ok (.text stack.dump))

/-- Performs a request on the device alone, past the tees. -/
def performBelow (request : Request) (stack : TeeStack δ η) (w : World μ) : Performed δ μ η :=
  let performed := (bare stack.device : TeeStack δ η).perform request w
  { performed with stack := ⟨stack.layers, performed.stack.device⟩ }

end TeeStack

end FrameTee
