import FrameTee.Device.Memory.Hardware
import FrameTee.Device.Memory.Transfer

/-!
# A memory device is a device

The changes of state of a memory device, its instance of the device contract, and the ways to open
one.
-/

namespace FrameTee

namespace MemoryDevice

variable (m : MemoryDevice)

/-- Takes on parameters: the ring is laid out anew and filled with zeros, and both positions return
to the start. -/
def setParams (p : StreamParams) : DeviceStep MemoryDevice Unit :=
  match m.state with
  | .opened | .setup | .prepared =>
    if range.accepts p then
      let s := StreamSetup.ofParams p
      match byteLength s s.bufferSize with
      | .error e => .fail e m
      | .ok bytes =>
        { result := .ok ()
          device :=
            { m with
              areas := channelLayouts m.layout s
              ring := .zeros bytes
              applPtr := 0
              hwPtr := 0
              setup := some s
              state := .setup }
          events := [.paramsSet m.name s.geometry] }
    else .fail (.invalidArgument (.unsupportedParams p)) m
  | _ => .fail (m.badState "set_params") m

/-- The setup, if there is one. -/
def requireSetup (op : String) : Except StreamError StreamSetup :=
  match m.setup with
  | some s => .ok s
  | none => .error (m.badState op)

/-- Where a channel lies in the ring. -/
def channelInfo (channel : UInt16) : Except StreamError ChannelInfo :=
  match m.requireSetup "channel_info" with
  | .error e => .error e
  | .ok _ =>
    match m.areas[channel.toNat]? with
    | some layout => .ok ⟨channel, layout.firstBit, layout.stepBits⟩
    | none => .error (.invalidArgument (.noChannel channel))

/-- A snapshot of the device. -/
def status : StreamStatus where
  state := m.state
  applPtr := m.applPtr
  hwPtr := m.hwPtr
  avail := (m.setup.map m.avail).getD 0
  delay := m.lag

/-- Makes the stream ready, with both positions at the start. -/
def prepare : DeviceStep MemoryDevice Unit :=
  match m.state with
  | .opened | .disconnected => .fail (m.badState "prepare") m
  | _ => .ok () { m with applPtr := 0, hwPtr := 0, state := .prepared }

/-- Sets a ready stream running. -/
def start : DeviceStep MemoryDevice Unit :=
  match m.state with
  | .prepared => .ok () { m with state := .running }
  | _ => .fail (m.badState "start") m

/-- Stops the stream where it is. -/
def stop : DeviceStep MemoryDevice Unit :=
  match m.state with
  | .opened | .disconnected => .fail (m.badState "stop") m
  | _ => .ok () { m with state := .setup }

/-- Plays all pending frames and stops. -/
def drain : DeviceStep MemoryDevice Unit :=
  match m.state with
  | .prepared | .running | .paused =>
    match m.direction with
    | .capture => .ok () { m with state := .setup }
    | .playback =>
      let step := { m with state := .draining }.consume m.pending
      match step.result with
      | .error e => { result := .error e, device := step.device, events := step.events }
      | .ok _ =>
        { result := .ok ()
          device := { step.device with state := .setup }
          events := step.events }
  | _ => .fail (m.badState "drain") m

/-- Halts a running stream or lets a halted one go on. -/
def pause (enable : Bool) : DeviceStep MemoryDevice Unit :=
  match enable, m.state with
  | true, .running => .ok () { m with state := .paused }
  | false, .paused => .ok () { m with state := .running }
  | _, _ => .fail (m.badState "pause") m

/-- The channels of a mask that the device has. -/
def reduceMask (mask : ChannelMask) : ChannelMask :=
  mask.intersect (.first ((m.setup.map (·.geometry.channels)).getD maxChannels))

/-- The mapped ring, once parameters are set. -/
def mappedRing : Except StreamError MappedRing :=
  (m.requireSetup "mmap").map fun _ => m.mapped

/-- Description for people. -/
def dump : String :=
  s!"Memory PCM (name={m.name}, {m.direction.name}, {m.layout.inspect} ring)\n" ++
    "  state       : " ++ m.state.name ++ "\n" ++
    (match m.setup with
      | some s => s.describe
      | none => "")

/-- Closes the device. -/
def close : DeviceStep MemoryDevice Unit where
  result := .ok ()
  device := { m with closed := true }
  events := [.closingMemory m.name]

instance : Device MemoryDevice where
  name := MemoryDevice.name
  direction := MemoryDevice.direction
  info m := .ok ⟨m.name, m.direction, true, true⟩
  paramsRange _ := .ok range
  setParams p m := m.setParams p
  setup m := m.requireSetup "setup"
  channelInfo channel m := m.channelInfo channel
  status m := .ok m.status
  state := MemoryDevice.state
  delay m := .ok m.lag
  availUpdate m :=
    match m.requireSetup "avail_update" with
    | .ok s => .ok (m.avail s) m
    | .error e => .fail e m
  prepare := prepare
  start := start
  stop := stop
  drain := drain
  pause enable m := m.pause enable
  setNonblocking nonblocking m := .ok () { m with nonblocking }
  pollDescriptor _ := .error (.unsupported "poll descriptor")
  reduceMask mask m := .ok (m.reduceMask mask)
  writeInterleaved buffer frames m := m.writeInterleaved buffer frames
  writePlanar buffers frames m := m.writePlanar buffers frames
  readInterleaved buffer frames m := m.readInterleaved buffer frames
  readPlanar buffers frames m := m.readPlanar buffers frames
  applPtr := MemoryDevice.applPtr
  mappedRing := mappedRing
  writableRing := mappedRing
  putRing ring m := { m with ring }
  commit frames m := m.commit frames
  rewind frames m := m.rewind frames
  dump := dump
  close := close

/-- A device without parameters. -/
def new (name : String) (direction : Direction) : MemoryDevice where
  name := name
  direction := direction

/-- Opens a device and takes on the parameters of a configuration. -/
def ofConfig (name : String) (direction : Direction) (config : MemoryConfig) :
    DeviceStep MemoryDevice Unit :=
  ((new name direction).withLayout config.layout).setParams config.params

end MemoryDevice

end FrameTee
