import FrameTee.Device.Memory.Basic

/-!
# The application side of a memory device

All transfers begin the same way: a planted error strikes first, then the state is checked, and then
the frames are cut down to what the ring can take or give and to the transfer limit. A transfer that
moves frames sets the stream running.
-/

namespace FrameTee.MemoryDevice

variable (m : MemoryDevice)

/-- The byte count of `frames` frames. -/
def byteLength (s : StreamSetup) (frames : Nat) : Except StreamError Nat :=
  match s.geometry.framesToBytes? frames with
  | some bytes => .ok bytes
  | none => .error (.invalidArgument (.frameOverflow frames))

/-- Refuses a buffer that is shorter than needed. -/
def checkBuffer (needed available : Nat) : Except StreamError Unit :=
  if available < needed then .error (.invalidArgument (.shortBuffer available needed)) else .ok ()

/-- Refuses a number of buffers that is not the number of channels. -/
def checkCount (s : StreamSetup) (count : Nat) : Except StreamError Unit :=
  if count ≠ s.geometry.channelCount then
    .error (.invalidArgument (.channelBuffers s.geometry.channelCount count))
  else .ok ()

/-- The frames that a transfer of `frames` frames may move now. -/
def movable (s : StreamSetup) (frames : Nat) : Nat :=
  let n := min frames (m.avail s)
  match m.transferLimit with
  | none => n
  | some limit => min n limit

/-- Opens a transfer: yields the frames it may move, and the device with its fault taken or set
running. -/
def beginTransfer (op : String) (frames : Nat) : Except StreamError Nat × MemoryDevice :=
  match m.fault with
  | some error => (.error error, { m with fault := none })
  | none =>
    match m.setup with
    | none => (.error (m.badState op), m)
    | some s =>
      match m.state with
      | .prepared | .running =>
        let n := m.movable s frames
        if n = 0 ∧ 0 < frames ∧ m.nonblocking = true then (.error .wouldBlock, m)
        else if 0 < n then (.ok n, { m with state := .running })
        else (.ok n, m)
      | .xrun => (.error .xrun, m)
      | .suspended => (.error .suspended, m)
      | .disconnected => (.error .disconnected, m)
      | _ => (.error (m.badState op), m)

/-- Stores `n` frames at the application position and moves the position on. -/
def storeNext (s : StreamSetup) (src : Bytes) (n : Nat) : DeviceStep MemoryDevice Nat :=
  match m.storeAt s m.applPtr src with
  | (.error e, ring) => .fail e { m with ring }
  | (.ok (), ring) => .ok n { m with ring, applPtr := m.applPtr + n }

/-- Writes up to `frames` frames of one interleaved buffer. -/
def writeInterleaved (buffer : Bytes) (frames : Nat) : DeviceStep MemoryDevice Nat :=
  match m.direction, m.setup with
  | .playback, some s =>
    match byteLength s frames >>= (checkBuffer · buffer.size) with
    | .error e => .fail e m
    | .ok () =>
      match m.beginTransfer "write" frames with
      | (.error e, m) => .fail e m
      | (.ok n, m) => m.storeNext s (buffer.extract 0 (n * s.geometry.frameBytes)) n
  | _, _ => .fail (m.badState "write") m

/-- Writes up to `frames` frames of one buffer per channel. How long the buffers are is found out
only when their samples are taken. -/
def writePlanar (buffers : Array Bytes) (frames : Nat) : DeviceStep MemoryDevice Nat :=
  match m.direction, m.setup with
  | .playback, some s =>
    match checkCount s buffers.size with
    | .error e => .fail e m
    | .ok () =>
      match m.beginTransfer "write" frames with
      | (.error e, m) => .fail e m
      | (.ok n, m) =>
        match (ChannelAreas.planar buffers s.geometry).copyInterleaved s.geometry 0 n with
        | .error e => .fail (.area e) m
        | .ok flat => m.storeNext s flat n
  | _, _ => .fail (m.badState "write") m

/-- Reads up to `frames` frames into one interleaved buffer. -/
def readInterleaved (buffer : Bytes) (frames : Nat) : DeviceStep MemoryDevice Nat × Bytes :=
  match m.direction, m.setup with
  | .capture, some s =>
    match byteLength s frames >>= (checkBuffer · buffer.size) with
    | .error e => (.fail e m, buffer)
    | .ok () =>
      match m.beginTransfer "read" frames with
      | (.error e, m) => (.fail e m, buffer)
      | (.ok n, m) =>
        match m.loadAt s m.applPtr n with
        | .error e => (.fail e m, buffer)
        | .ok flat =>
          (.ok n { m with applPtr := m.applPtr + n }, Bytes.blit flat 0 buffer 0 flat.size)
  | _, _ => (.fail (m.badState "read") m, buffer)

/-- Puts the samples of one channel, for the frames `frame`, …, `frame + count - 1` of `flat`, into
the buffer of the channel. -/
def spreadChannel (g : FrameGeometry) (flat : Bytes) (channel : Nat) :
    (frame count : Nat) → Bytes → Bytes
  | _, 0, buffer => buffer
  | frame, count + 1, buffer =>
    let origin := frame * g.frameBytes + channel * g.sampleBytes
    spreadChannel g flat channel (frame + 1) count
      (Bytes.blit flat origin buffer (frame * g.sampleBytes) g.sampleBytes)

/-- Takes `frames` interleaved frames apart into one buffer per channel. -/
def spread (g : FrameGeometry) (flat : Bytes) (frames : Nat) (buffers : Array Bytes) :
    Array Bytes :=
  buffers.mapIdx fun channel buffer => spreadChannel g flat channel 0 frames buffer

/-- The byte count of `frames` samples of one channel. -/
def sampleLength (s : StreamSetup) (frames : Nat) : Except StreamError Nat :=
  match Count.mul? frames s.geometry.sampleBytes with
  | some bytes => .ok bytes
  | none => .error (.invalidArgument (.frameOverflow frames))

/-- Refuses buffers for a planar read: there has to be one per channel, and each has to be long
enough for the frames asked for. -/
def checkPlanar (s : StreamSetup) (buffers : Array Bytes) (frames : Nat) :
    Except StreamError Unit := do
  checkCount s buffers.size
  let needed ← sampleLength s frames
  buffers.toList.forM fun buffer => checkBuffer needed buffer.size

/-- Reads up to `frames` frames into one buffer per channel. -/
def readPlanar (buffers : Array Bytes) (frames : Nat) :
    DeviceStep MemoryDevice Nat × Array Bytes :=
  match m.direction, m.setup with
  | .capture, some s =>
    match checkPlanar s buffers frames with
    | .error e => (.fail e m, buffers)
    | .ok () =>
      match m.beginTransfer "read" frames with
      | (.error e, m) => (.fail e m, buffers)
      | (.ok n, m) =>
        match m.loadAt s m.applPtr n with
        | .error e => (.fail e m, buffers)
        | .ok flat =>
          (.ok n { m with applPtr := m.applPtr + n }, spread s.geometry flat n buffers)
  | _, _ => (.fail (m.badState "read") m, buffers)

/-- Hands over up to `frames` frames of the mapped ring. -/
def commit (frames : Nat) : DeviceStep MemoryDevice Nat :=
  match m.beginTransfer "mmap_commit" frames with
  | (.error e, m) => .fail e m
  | (.ok n, m) => .ok n { m with applPtr := m.applPtr + n }

/-- The frames that a rewind by `frames` frames may take back now. -/
def rewindLimit (s : StreamSetup) (frames : Nat) : Nat :=
  let n := min frames (m.rewindable s)
  match m.transferLimit with
  | none => n
  | some limit => min n limit

/-- Takes back up to `frames` frames. -/
def rewind (frames : Nat) : DeviceStep MemoryDevice Nat :=
  match m.fault with
  | some error => .fail error { m with fault := none }
  | none =>
    match m.setup with
    | none => .fail (m.badState "rewind") m
    | some s =>
      match m.state with
      | .prepared | .running | .paused =>
        let n := m.rewindLimit s frames
        .ok n { m with applPtr := m.applPtr - n }
      | .xrun => .fail .xrun m
      | _ => .fail (m.badState "rewind") m

end FrameTee.MemoryDevice
