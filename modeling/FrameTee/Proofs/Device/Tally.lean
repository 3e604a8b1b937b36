import FrameTee.Proofs.Request.Action

/-!
# Devices that count their closings

How often a device was closed cannot be told from the device. `Tallied` is a device together with
that number. A tallied device passes everything on to the device inside and answers what that
answers.
-/

namespace FrameTee

variable {δ α : Type}

/-- A device with the number of times it was closed. -/
structure Tallied (δ : Type) where
  /-- The device. -/
  device : δ
  /-- How often it was closed. -/
  closes : Nat := 0
  deriving DecidableEq

namespace Tallied

variable [Device δ]

/-- Acts on the device inside. -/
private def act (operation : δ → DeviceStep δ α) (d : Tallied δ) : DeviceStep (Tallied δ) α :=
  (operation d.device).map fun device => { d with device }

/-- Reads from the device inside. -/
private def fill {β : Type} (operation : δ → DeviceStep δ α × β) (d : Tallied δ) :
    DeviceStep (Tallied δ) α × β :=
  ((operation d.device).1.map fun device => { d with device }, (operation d.device).2)

instance : Device (Tallied δ) where
  name d := Device.name d.device
  direction d := Device.direction d.device
  info d := Device.info d.device
  paramsRange d := Device.paramsRange d.device
  setParams p := act (Device.setParams p)
  setup d := Device.setup d.device
  channelInfo channel d := Device.channelInfo channel d.device
  status d := Device.status d.device
  state d := Device.state d.device
  delay d := Device.delay d.device
  availUpdate := act Device.availUpdate
  prepare := act Device.prepare
  start := act Device.start
  stop := act Device.stop
  drain := act Device.drain
  pause enable := act (Device.pause enable)
  setNonblocking nonblocking := act (Device.setNonblocking nonblocking)
  pollDescriptor d := Device.pollDescriptor d.device
  reduceMask mask d := Device.reduceMask mask d.device
  writeInterleaved buffer frames := act (Device.writeInterleaved buffer frames)
  writePlanar buffers frames := act (Device.writePlanar buffers frames)
  readInterleaved buffer frames := fill (Device.readInterleaved buffer frames)
  readPlanar buffers frames := fill (Device.readPlanar buffers frames)
  applPtr d := Device.applPtr d.device
  mappedRing d := Device.mappedRing d.device
  writableRing d := Device.writableRing d.device
  putRing ring d := { d with device := Device.putRing ring d.device }
  commit frames := act (Device.commit frames)
  rewind frames := act (Device.rewind frames)
  dump d := Device.dump d.device
  close d := (Device.close d.device).map fun device => ⟨device, d.closes + 1⟩

theorem device_storeMapped (offset : Nat) (src : Bytes) (d : Tallied δ) :
    (Device.storeMapped offset src d).device =
      { d with device := (Device.storeMapped offset src d.device).device } := by
  have hgeometry : Device.geometry d = Device.geometry d.device := rfl
  have hring : Device.writableRing d = Device.writableRing d.device := rfl
  simp only [Device.storeMapped, hgeometry, hring]
  cases Device.geometry d.device with
  | error e => rfl
  | ok g =>
      cases Device.writableRing d.device with
      | error e => rfl
      | ok ring => rfl

theorem device_poke (address : Nat) (value : UInt8) (d : Tallied δ) :
    (Device.poke address value d).device =
      { d with device := (Device.poke address value d.device).device } := by
  have hring : Device.writableRing d = Device.writableRing d.device := rfl
  simp only [Device.poke, hring]
  cases Device.writableRing d.device with
  | error e => rfl
  | ok ring => rfl

/-- No action closes a device. -/
theorem after_eq (action : Action) (d : Tallied δ) :
    action.after d = { d with device := action.after d.device } := by
  cases action with
  | poke address value => exact device_poke address value d
  | ask request =>
      cases request with
      | storeMapped offset src => exact device_storeMapped offset src d
      | _ => rfl

end Tallied

end FrameTee
