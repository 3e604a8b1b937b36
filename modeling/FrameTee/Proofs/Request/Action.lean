import FrameTee.Request.Basic

/-!
# Actions of an application

Besides what it can ask of a stream, an application can change the mapped ring in place. `Action` is
either of the two; as any change of the ring is a number of changes of single bytes, changing one
byte is all that is needed. `Action.after` is the device after an action, and so says which
operation of the device an action comes down to.
-/

namespace FrameTee

variable {δ : Type} [Device δ]

/-- Changes one byte of the mapped ring in place. -/
def Device.poke (address : Nat) (value : UInt8) (device : δ) : DeviceStep δ Unit :=
  match writableRing device with
  | .error e => .fail e device
  | .ok ring => .ok () (putRing (ring.data.set address value) device)

/-- The device after a request. -/
def Request.after (request : Request) (device : δ) : δ :=
  match request with
  | .setParams params => (Device.setParams params device).device
  | .availUpdate => (Device.availUpdate device).device
  | .prepare => (Device.prepare device).device
  | .start => (Device.start device).device
  | .stop => (Device.stop device).device
  | .drain => (Device.drain device).device
  | .pause enable => (Device.pause enable device).device
  | .setNonblocking enable => (Device.setNonblocking enable device).device
  | .writeInterleaved buffer frames => (Device.writeInterleaved buffer frames device).device
  | .writePlanar buffers frames => (Device.writePlanar buffers frames device).device
  | .readInterleaved buffer frames => (Device.readInterleaved buffer frames device).1.device
  | .readPlanar buffers frames => (Device.readPlanar buffers frames device).1.device
  | .storeMapped offset src => (Device.storeMapped offset src device).device
  | .commit frames => (Device.commit frames device).device
  | .rewind frames => (Device.rewind frames device).device
  | _ => device

/-- What an application can do with a stream. -/
inductive Action where
  /-- To ask for something. -/
  | ask (request : Request)
  /-- To change one byte of the mapped ring in place. -/
  | poke (address : Nat) (value : UInt8)

/-- The device after an action. -/
def Action.after (action : Action) (device : δ) : δ :=
  match action with
  | .ask request => request.after device
  | .poke address value => (Device.poke address value device).device

end FrameTee
