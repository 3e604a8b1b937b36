import FrameTee.Device.Memory
import FrameTee.Request.Basic

/-!
# Requests to the hardware side

What can be asked of a memory device besides the requests of an application: to play and to record,
to tell what it played, and to change how the next transfers go.
-/

namespace FrameTee

/-- What can be asked of the hardware side of a memory device. -/
inductive HardwareRequest where
  /-- To play pending frames. -/
  | consume (frames : Nat)
  /-- To record frames. -/
  | inject (data : Bytes)
  /-- All bytes played so far. -/
  | played
  /-- To limit transfers. -/
  | setTransferLimit (limit : Option Nat)
  /-- To fail the next transfer. -/
  | failNext (error : StreamError)
  /-- To use another layout for the next parameters. -/
  | setLayout (layout : RingLayout)
  /-- Whether transfers never block. -/
  | isNonblocking
  /-- The device as an inspected value. -/
  | inspect

/-- What the hardware side can answer. -/
inductive HardwareValue where
  /-- Done. -/
  | done
  /-- A count of frames. -/
  | count (n : Nat)
  /-- Yes or no. -/
  | flag (b : Bool)
  /-- A text. -/
  | text (s : String)
  /-- Frames. -/
  | bytes (b : Bytes)

/-- Performs a request to the hardware side. -/
def MemoryDevice.perform (request : HardwareRequest) (m : MemoryDevice) :
    DeviceStep MemoryDevice HardwareValue :=
  let counted (step : DeviceStep MemoryDevice Nat) : DeviceStep MemoryDevice HardwareValue :=
    { result := step.result.map .count, device := step.device, events := step.events }
  match request with
  | .consume frames => counted (m.consume frames)
  | .inject data => counted (m.inject data)
  | .played => .ok (.bytes m.played) m
  | .setTransferLimit limit => .ok .done (m.withTransferLimit limit)
  | .failNext error => .ok .done (m.withFault error)
  | .setLayout layout => .ok .done (m.withLayout layout)
  | .isNonblocking => .ok (.flag m.nonblocking) m
  | .inspect => .ok (.text m.inspect) m

end FrameTee
