import FrameTee.Device.Memory.Basic

/-!
# The hardware side of a memory device

`MemoryDevice.consume` plays pending frames and `MemoryDevice.inject` records new ones. The other
operations shape what the application will meet: a limit on transfers, an error for the next one,
the layout for the next parameters.
-/

namespace FrameTee.MemoryDevice

variable (m : MemoryDevice)

/-- Plays up to `frames` pending frames. -/
def consume (frames : Nat) : DeviceStep MemoryDevice Nat :=
  match m.setup with
  | none => .fail (m.badState "consume") m
  | some s =>
    if m.direction ≠ .playback then .fail (m.badState "consume") m
    else
      let n := min frames m.pending
      match m.loadOnto s m.hwPtr n m.played with
      | (.error e, played) => .fail e { m with played }
      | (.ok (), played) => .ok n { m with played, hwPtr := m.hwPtr + n }

/-- Records the whole frames of `data`. Frames without room are dropped and stop the stream. -/
def inject (data : Bytes) : DeviceStep MemoryDevice Nat :=
  match m.setup with
  | none => .fail (m.badState "inject") m
  | some s =>
    if m.direction ≠ .capture then .fail (m.badState "inject") m
    else
      let frames := s.geometry.bytesToFrames data.size
      let n := min frames (s.bufferSize - m.captured)
      match m.storeAt s m.hwPtr (data.extract 0 (n * s.geometry.frameBytes)) with
      | (.error e, ring) => .fail e { m with ring }
      | (.ok (), ring) =>
        let m := { m with ring, hwPtr := m.hwPtr + n }
        if n < frames then
          { result := .ok n
            device := { m with state := .xrun }
            events := [.captureOverrun m.name (frames - n)] }
        else .ok n m

/-- The same device with another layout for its next parameters. -/
def withLayout (layout : RingLayout) : MemoryDevice :=
  { m with layout }

/-- The same device with another limit on its transfers. -/
def withTransferLimit (limit : Option Nat) : MemoryDevice :=
  { m with transferLimit := limit }

/-- The same device with an error for its next transfer. -/
def withFault (error : StreamError) : MemoryDevice :=
  { m with fault := some error }

end FrameTee.MemoryDevice
