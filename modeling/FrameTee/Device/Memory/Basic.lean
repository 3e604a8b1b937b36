import FrameTee.Device.Basic
import FrameTee.Device.Memory.Config
import FrameTee.Ring.Cursor

/-!
# The memory device

A memory device is a ring of frames whose hardware side is driven by hand. The application and the
hardware each have a position that only counts up; taken modulo the size of the ring it is a place
in the ring. For playback the frames between the two are pending: written and not yet played. For
capture they are recorded and not yet read.

`MemoryDevice.storeAt` and `MemoryDevice.loadAt` move interleaved frames into and out of the ring at
a position, span by span where the range passes the end of the ring.
-/

namespace FrameTee

/-- A device whose frames live in memory. -/
structure MemoryDevice where
  /-- Name of the stream. -/
  name : String
  /-- Way frames flow. -/
  direction : Direction
  /-- State of the stream. -/
  state : StreamState := .opened
  /-- Whether a transfer that cannot make progress fails. -/
  nonblocking : Bool := false
  /-- Layout that the next parameters will use. -/
  layout : RingLayout := .interleaved
  /-- What the parameters came to. -/
  setup : Option StreamSetup := none
  /-- Where each channel lies in the ring. -/
  areas : Array AreaLayout := #[]
  /-- Memory of the ring. -/
  ring : Memory := .zeros 0
  /-- Position of the application. -/
  applPtr : Nat := 0
  /-- Position of the hardware. -/
  hwPtr : Nat := 0
  /-- Most frames that one transfer may move. -/
  transferLimit : Option Nat := none
  /-- Error with which the next transfer fails. -/
  fault : Option StreamError := none
  /-- All bytes played so far. -/
  played : Bytes := #[]
  /-- Whether the device was closed. -/
  closed : Bool := false
  deriving DecidableEq

namespace MemoryDevice

/-- Most channels that a memory device takes. -/
def maxChannels : UInt16 := 32

/-- Most frames that the ring of a memory device holds. -/
def maxBufferFrames : Nat := 0x100000

/-- The parameters that a memory device takes. -/
def range : ParamsRange where
  formats := SampleFormat.all
  minChannels := 1
  maxChannels := maxChannels
  minRate := 4000
  maxRate := 384000
  minBufferSize := 1
  maxBufferSize := maxBufferFrames

variable (m : MemoryDevice)

/-- The error for an operation that the current state does not allow. -/
def badState (op : String) : StreamError :=
  .badState op m.state

/-- Playback frames that are written and not yet played. -/
def pending : Nat := m.applPtr - m.hwPtr

/-- Capture frames that are recorded and not yet read. -/
def captured : Nat := m.hwPtr - m.applPtr

/-- Frames between application and hardware. -/
def lag : Nat :=
  match m.direction with
  | .playback => m.pending
  | .capture => m.captured

/-- Frames that the application can move at once. -/
def avail (s : StreamSetup) : Nat :=
  match m.direction with
  | .playback => s.bufferSize - m.pending
  | .capture => m.captured

/-- Frames that the application can take back. Recorded frames can be taken back for as long as the
ring still holds them. -/
def rewindable (s : StreamSetup) : Nat :=
  match m.direction with
  | .playback => m.pending
  | .capture => m.applPtr - (m.hwPtr - s.bufferSize)

/-- The ring as mapped memory. -/
def mapped : MappedRing := ⟨m.ring, m.areas⟩

/-- The layout of each channel in the ring for a setup. -/
def channelLayouts (layout : RingLayout) (s : StreamSetup) : Array AreaLayout :=
  Array.ofFn fun channel : Fin s.geometry.channelCount =>
    match layout with
    | .interleaved => AreaLayout.interleaved channel s.geometry
    | .planar => AreaLayout.planar channel s.bufferSize s.geometry

/-- Stores one span of `src` in the ring; the state is the memory of the ring and the frames stored
so far. -/
def storeSpan (s : StreamSetup) (src : Bytes) (span : RingSpan) (state : Memory × Nat) :
    Except StreamError Unit × Memory × Nat :=
  let (data, done) := state
  let frames := src.extract (done * s.geometry.frameBytes)
    ((done + span.frames) * s.geometry.frameBytes)
  let ring : MappedRing := ⟨data, m.areas⟩
  let (result, data) := ring.storeInterleaved s.geometry span.offset frames
  (result.mapError .area, data, done + span.frames)

/-- Stores the whole frames of `src` in the ring from a stream position on, and returns the memory
of the ring. -/
def storeAt (s : StreamSetup) (position : Nat) (src : Bytes) :
    Except StreamError Unit × Memory :=
  let spans := (RingCursor.ofPosition position s.bufferSize).split
    (s.geometry.bytesToFrames src.size)
  let (result, data, _) := spans.walk (m.storeSpan s src) (m.ring, 0)
  (result, data)

/-- Appends the frames of one span of the ring to `out`. -/
def loadSpan (s : StreamSetup) (span : RingSpan) (out : Bytes) :
    Except StreamError Unit × Bytes :=
  match m.mapped.copyInterleaved s.geometry span.offset span.frames with
  | .error e => (.error (.area e), out)
  | .ok data => (.ok (), out ++ data)

/-- Appends `frames` frames of the ring, from a stream position on, to `out`. The frames of the
spans before a failure are kept. -/
def loadOnto (s : StreamSetup) (position frames : Nat) (out : Bytes) :
    Except StreamError Unit × Bytes :=
  ((RingCursor.ofPosition position s.bufferSize).split frames).walk (m.loadSpan s) out

/-- The frames of the ring from a stream position on. -/
def loadAt (s : StreamSetup) (position frames : Nat) : Except StreamError Bytes :=
  match m.loadOnto s position frames #[] with
  | (.error e, _) => .error e
  | (.ok (), out) => .ok out

/-- The device as an inspected value. -/
def inspect : String :=
  Text.openRecord "MemoryTransport"
    [("name", Text.quote m.name), ("direction", m.direction.inspect), ("state", m.state.inspect),
      ("setup", Text.optional (m.setup.map (·.inspect))), ("appl_ptr", toString m.applPtr),
      ("hw_ptr", toString m.hwPtr)]

end MemoryDevice

end FrameTee
