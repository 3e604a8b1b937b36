import FrameTee.Area.Mapped
import FrameTee.Log.Event
import FrameTee.Stream.Status

/-!
# Devices

A device is whatever moves the frames of a stream: hardware, a ring in memory, or a stand-in that
answers from a script. `Device` is the contract between a device and the tees above it, over the
device's own state. An operation that may change the state yields a `DeviceStep`: its result, the
state afterwards and the events it reported. Operations that only ask cannot change anything.

Transfers return the frames that really moved, which may be fewer than were asked for.
-/

namespace FrameTee

/-- The outcome of one operation of a device. -/
structure DeviceStep (δ α : Type) where
  /-- What the operation answered. -/
  result : Except StreamError α
  /-- The device afterwards, also after a failure. -/
  device : δ
  /-- What was reported meanwhile. -/
  events : List LogEvent := []

namespace DeviceStep

variable {δ δ' α : Type}

/-- A step that answers `value` and leaves the device as given. -/
def ok (value : α) (device : δ) : DeviceStep δ α :=
  { result := .ok value, device }

/-- A step that fails and leaves the device as given. -/
def fail (error : StreamError) (device : δ) : DeviceStep δ α :=
  { result := .error error, device }

/-- The same step inside a larger state. -/
def map (f : δ → δ') (step : DeviceStep δ α) : DeviceStep δ' α :=
  { result := step.result, device := f step.device, events := step.events }

end DeviceStep

/-- What a tee and an application can ask of a device with state `δ`. -/
class Device (δ : Type) where
  /-- Name of the stream. -/
  name : δ → String
  /-- Way frames flow. -/
  direction : δ → Direction
  /-- Fixed description. -/
  info : δ → Except StreamError StreamInfo
  /-- Parameters on offer. -/
  paramsRange : δ → Except StreamError ParamsRange
  /-- Takes on parameters. -/
  setParams : StreamParams → δ → DeviceStep δ Unit
  /-- What the parameters came to. -/
  setup : δ → Except StreamError StreamSetup
  /-- Where a channel lies in the mapped ring. -/
  channelInfo : UInt16 → δ → Except StreamError ChannelInfo
  /-- Snapshot of the stream. -/
  status : δ → Except StreamError StreamStatus
  /-- State of the stream. -/
  state : δ → StreamState
  /-- Frames between application and hardware. -/
  delay : δ → Except StreamError Int
  /-- Refreshes and tells the frames that can be moved. -/
  availUpdate : δ → DeviceStep δ Nat
  /-- Makes the stream ready. -/
  prepare : δ → DeviceStep δ Unit
  /-- Starts to move frames. -/
  start : δ → DeviceStep δ Unit
  /-- Stops at once. -/
  stop : δ → DeviceStep δ Unit
  /-- Stops once the pending frames are played. -/
  drain : δ → DeviceStep δ Unit
  /-- Halts or goes on. -/
  pause : Bool → δ → DeviceStep δ Unit
  /-- Chooses whether transfers may block. -/
  setNonblocking : Bool → δ → DeviceStep δ Unit
  /-- Descriptor to wait on. -/
  pollDescriptor : δ → Except StreamError Int
  /-- The channels of a mask that the stream has. -/
  reduceMask : ChannelMask → δ → Except StreamError ChannelMask
  /-- Writes up to a number of frames from one interleaved buffer. -/
  writeInterleaved : Bytes → Nat → δ → DeviceStep δ Nat
  /-- Writes up to a number of frames from one buffer per channel. -/
  writePlanar : Array Bytes → Nat → δ → DeviceStep δ Nat
  /-- Reads up to a number of frames into one interleaved buffer, which is returned. -/
  readInterleaved : Bytes → Nat → δ → DeviceStep δ Nat × Bytes
  /-- Reads up to a number of frames into one buffer per channel, which are returned. -/
  readPlanar : Array Bytes → Nat → δ → DeviceStep δ Nat × Array Bytes
  /-- Position of the application, in frames. -/
  applPtr : δ → Nat
  /-- The mapped ring for reading. -/
  mappedRing : δ → Except StreamError MappedRing
  /-- The mapped ring for writing. -/
  writableRing : δ → Except StreamError MappedRing
  /-- Puts back the memory of the mapped ring after a change in place. -/
  putRing : Memory → δ → δ
  /-- Hands over frames of the mapped ring. -/
  commit : Nat → δ → DeviceStep δ Nat
  /-- Takes back frames. -/
  rewind : Nat → δ → DeviceStep δ Nat
  /-- Description for people. -/
  dump : δ → String
  /-- Closes the device. -/
  close : δ → DeviceStep δ Unit

namespace Device

variable {δ : Type} [Device δ]

/-- Shape of a frame, once parameters are set. -/
def geometry (device : δ) : Except StreamError FrameGeometry :=
  (setup device).map (·.geometry)

/-- Stores interleaved frames in the mapped ring from frame `offset` on, in the negotiated geometry.
What was stored before a sample without a place stays. -/
def storeMapped (offset : Nat) (src : Bytes) (device : δ) : DeviceStep δ Unit :=
  match geometry device with
  | .error e => .fail e device
  | .ok g =>
    match writableRing device with
    | .error e => .fail e device
    | .ok ring =>
      let (result, data) := ring.storeInterleaved g offset src
      { result := result.mapError .area, device := putRing data device }

/-- Gathers frames of the mapped ring from frame `offset` on, in the negotiated geometry. -/
def loadMapped (offset frames : Nat) (device : δ) : Except StreamError Bytes :=
  match geometry device with
  | .error e => .error e
  | .ok g =>
    match mappedRing device with
    | .error e => .error e
    | .ok ring => (ring.copyInterleaved g offset frames).mapError .area

end Device

end FrameTee
