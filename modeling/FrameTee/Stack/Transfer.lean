import FrameTee.Stack.Basic

/-!
# Transfers through a stack of tees

A transfer first runs on the device. If that moved frames, the tees record them from the innermost
to the outermost; a tee whose recording fails ends the call with its error, and the tees outside it
never learn of the transfer. The device is the same whatever the tees do.
-/

namespace FrameTee.TeeStack

variable {δ μ η : Type} [Device δ] [Medium μ η]

/-- Lets the tees record from the innermost to the outermost, up to the first failure. -/
def recordAll (recording : Recording μ η) :
    List (Layer η) → World μ → Except StreamError Unit × List (Layer η) × World μ
  | [], w => (.ok (), [], w)
  | outer :: inner, w =>
    match recordAll recording inner w with
    | (.error e, inner, w) => (.error e, outer :: inner, w)
    | (.ok (), inner, w) =>
      let (result, outer, w) := recording outer w
      (result, outer :: inner, w)

/-- Completes a transfer of the device: frames that were moved are recorded. -/
def recorded (layers : List (Layer η)) (step : DeviceStep δ Nat)
    (recording : δ → Nat → Recording μ η) (w : World μ) : StackOutcome δ μ η Nat :=
  let w := w.reportAll step.events
  match step.result with
  | .error e => ⟨.error e, ⟨layers, step.device⟩, w⟩
  | .ok 0 => ⟨.ok 0, ⟨layers, step.device⟩, w⟩
  | .ok frames =>
    let (result, layers, w) := recordAll (recording step.device frames) layers w
    ⟨result.map fun _ => frames, ⟨layers, step.device⟩, w⟩

variable (stack : TeeStack δ η)

/-- Writes up to `frames` frames of one interleaved buffer. -/
def writeInterleaved (buffer : Bytes) (frames : Nat) (w : World μ) : StackOutcome δ μ η Nat :=
  recorded stack.layers (Device.writeInterleaved buffer frames stack.device)
    (Layer.recordInterleaved buffer) w

/-- Writes up to `frames` frames of one buffer per channel. -/
def writePlanar (buffers : Array Bytes) (frames : Nat) (w : World μ) : StackOutcome δ μ η Nat :=
  recorded stack.layers (Device.writePlanar buffers frames stack.device)
    (Layer.recordPlanar buffers) w

/-- Reads up to `frames` frames into one interleaved buffer, which is returned. -/
def readInterleaved (buffer : Bytes) (frames : Nat) (w : World μ) :
    StackOutcome δ μ η Nat × Bytes :=
  let (step, buffer) := Device.readInterleaved buffer frames stack.device
  (recorded stack.layers step (Layer.recordInterleaved buffer) w, buffer)

/-- Reads up to `frames` frames into one buffer per channel, which are returned. -/
def readPlanar (buffers : Array Bytes) (frames : Nat) (w : World μ) :
    StackOutcome δ μ η Nat × Array Bytes :=
  let (step, buffers) := Device.readPlanar buffers frames stack.device
  (recorded stack.layers step (Layer.recordPlanar buffers) w, buffers)

/-- Hands over up to `frames` frames of the mapped ring. The recording starts at the position that
the application had before. -/
def commit (frames : Nat) (w : World μ) : StackOutcome δ μ η Nat :=
  recorded stack.layers (Device.commit frames stack.device)
    (Layer.recordCommit (Device.applPtr stack.device)) w

/-- Takes back up to `frames` frames, in the device and in every sink. -/
def rewind (frames : Nat) (w : World μ) : StackOutcome δ μ η Nat :=
  recorded stack.layers (Device.rewind frames stack.device) Layer.recordRewind w

end FrameTee.TeeStack
