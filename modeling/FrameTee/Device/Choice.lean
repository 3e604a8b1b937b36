import FrameTee.Device.Basic

/-!
# A choice of devices

Where a stream may run on one of two kinds of device, the choice of the two is itself a device:
every operation is the one of the device at hand.
-/

namespace FrameTee

variable {δ ε α : Type} [Device δ] [Device ε]

/-- Asks whichever device is at hand. -/
private def ask (left : δ → α) (right : ε → α) : δ ⊕ ε → α
  | .inl d => left d
  | .inr d => right d

/-- Acts on whichever device is at hand. -/
private def act (left : δ → DeviceStep δ α) (right : ε → DeviceStep ε α) :
    δ ⊕ ε → DeviceStep (δ ⊕ ε) α
  | .inl d => (left d).map .inl
  | .inr d => (right d).map .inr

/-- Reads from whichever device is at hand. -/
private def read {β : Type} (left : δ → DeviceStep δ α × β) (right : ε → DeviceStep ε α × β) :
    δ ⊕ ε → DeviceStep (δ ⊕ ε) α × β
  | .inl d => ((left d).1.map .inl, (left d).2)
  | .inr d => ((right d).1.map .inr, (right d).2)

instance : Device (δ ⊕ ε) where
  name := ask Device.name Device.name
  direction := ask Device.direction Device.direction
  info := ask Device.info Device.info
  paramsRange := ask Device.paramsRange Device.paramsRange
  setParams p := act (Device.setParams p) (Device.setParams p)
  setup := ask Device.setup Device.setup
  channelInfo channel := ask (Device.channelInfo channel) (Device.channelInfo channel)
  status := ask Device.status Device.status
  state := ask Device.state Device.state
  delay := ask Device.delay Device.delay
  availUpdate := act Device.availUpdate Device.availUpdate
  prepare := act Device.prepare Device.prepare
  start := act Device.start Device.start
  stop := act Device.stop Device.stop
  drain := act Device.drain Device.drain
  pause enable := act (Device.pause enable) (Device.pause enable)
  setNonblocking nonblocking :=
    act (Device.setNonblocking nonblocking) (Device.setNonblocking nonblocking)
  pollDescriptor := ask Device.pollDescriptor Device.pollDescriptor
  reduceMask mask := ask (Device.reduceMask mask) (Device.reduceMask mask)
  writeInterleaved buffer frames :=
    act (Device.writeInterleaved buffer frames) (Device.writeInterleaved buffer frames)
  writePlanar buffers frames :=
    act (Device.writePlanar buffers frames) (Device.writePlanar buffers frames)
  readInterleaved buffer frames :=
    read (Device.readInterleaved buffer frames) (Device.readInterleaved buffer frames)
  readPlanar buffers frames :=
    read (Device.readPlanar buffers frames) (Device.readPlanar buffers frames)
  applPtr := ask Device.applPtr Device.applPtr
  mappedRing := ask Device.mappedRing Device.mappedRing
  writableRing := ask Device.writableRing Device.writableRing
  putRing ring
    | .inl d => .inl (Device.putRing ring d)
    | .inr d => .inr (Device.putRing ring d)
  commit frames := act (Device.commit frames) (Device.commit frames)
  rewind frames := act (Device.rewind frames) (Device.rewind frames)
  dump := ask Device.dump Device.dump
  close := act Device.close Device.close

end FrameTee
