import FrameTee.Device.Basic

/-!
# A device that answers from a script

A scripted device moves no frames. Every operation that changes a stream takes the next reply of the
script, whether it fits the call or not, and answers no frames once the script has ended. It shows
how a tee behaves above a device that keeps to no rule.
-/

namespace FrameTee

/-- A stand-in for a device. -/
structure ScriptedDevice where
  /-- Name of the stream. -/
  name : String
  /-- Way frames would flow. -/
  direction : Direction
  /-- The state it reports. -/
  state : StreamState
  /-- The setup it reports. -/
  setup : Option StreamSetup
  /-- Memory of its mapped ring. -/
  ring : Memory
  /-- Where each channel lies in the ring. -/
  areas : Array AreaLayout
  /-- The application position it reports. -/
  applPtr : Nat
  /-- Replies still to be given. -/
  replies : List (Except StreamError Nat)
  /-- Error with which it fails to close. -/
  closeError : Option StreamError := none

namespace ScriptedDevice

variable (d : ScriptedDevice)

/-- Gives the next reply. -/
def reply : DeviceStep ScriptedDevice Nat :=
  match d.replies with
  | [] => .ok 0 d
  | answer :: rest => { result := answer, device := { d with replies := rest } }

/-- Gives the next reply without its number. -/
def acknowledge : DeviceStep ScriptedDevice Unit :=
  let step := d.reply
  { result := step.result.map fun _ => (), device := step.device, events := step.events }

private def unsupported {α : Type} : Except StreamError α :=
  .error (.unsupported "scripted")

instance : Device ScriptedDevice where
  name := ScriptedDevice.name
  direction := ScriptedDevice.direction
  info _ := unsupported
  paramsRange _ := unsupported
  setParams p d := .ok () { d with setup := some (StreamSetup.ofParams p) }
  setup d :=
    match d.setup with
    | some s => .ok s
    | none => .error (.badState "setup" d.state)
  channelInfo _ _ := unsupported
  status d := .ok ⟨d.state, d.applPtr, 0, 0, 0⟩
  state := ScriptedDevice.state
  delay _ := .ok (-1)
  availUpdate := reply
  prepare := acknowledge
  start := acknowledge
  stop := acknowledge
  drain := acknowledge
  pause _ := acknowledge
  setNonblocking _ := acknowledge
  pollDescriptor _ := .ok 7
  reduceMask _ _ := unsupported
  writeInterleaved _ _ := reply
  writePlanar _ _ := reply
  readInterleaved buffer _ d := (d.reply, buffer)
  readPlanar buffers _ d := (d.reply, buffers)
  applPtr := ScriptedDevice.applPtr
  mappedRing d := .ok ⟨d.ring, d.areas⟩
  writableRing d := .ok ⟨d.ring, d.areas⟩
  putRing ring d := { d with ring }
  commit _ := reply
  rewind _ := reply
  dump _ := "Scripted PCM\n"
  close d :=
    match d.closeError with
    | some error => .fail error d
    | none => .ok () d

end ScriptedDevice

end FrameTee
