import FrameTee.Stack.Layer

/-!
# Stacks of tees

A tee is a stream again, so tees can be stacked. A `TeeStack` is a device under any number of tees,
the outermost first; without tees it is the device alone. What an application asks of a stack is
answered by the device; the direction is the one that the outermost tee found when it was opened.
-/

namespace FrameTee

/-- A device under tees, outermost first. -/
structure TeeStack (δ η : Type) where
  /-- The tees, outermost first. -/
  layers : List (Layer η)
  /-- The device at the bottom. -/
  device : δ

/-- What one operation on a stack leaves behind. -/
structure StackOutcome (δ μ η α : Type) where
  /-- What the operation answered. -/
  result : Except StreamError α
  /-- The stack afterwards. -/
  stack : TeeStack δ η
  /-- The media and the log afterwards. -/
  world : World μ

namespace TeeStack

variable {δ μ η α : Type} [Device δ] [Medium μ η]

/-- A device without tees. -/
def bare (device : δ) : TeeStack δ η :=
  ⟨[], device⟩

variable (stack : TeeStack δ η)

/-- The counters of all tees are counts. -/
def Countable : Prop :=
  ∀ layer ∈ stack.layers, layer.stats.Countable

instance : Decidable stack.Countable :=
  inferInstanceAs (Decidable (∀ layer ∈ stack.layers, layer.stats.Countable))

/-- The direction of the stream. -/
def direction : Direction :=
  match stack.layers with
  | [] => Device.direction stack.device
  | layer :: _ => layer.direction

/-- Puts a tee on top. -/
def push (sink : Sink η) (closeSlave : Bool) (w : World μ) : TeeStack δ η × World μ :=
  let direction := stack.direction
  (⟨⟨sink, closeSlave, direction, {}⟩ :: stack.layers, stack.device⟩,
    w.report (.teeOpened (Device.name stack.device) sink.label direction closeSlave))

/-- Asks the device for an operation that the tees only pass on. -/
def pass (operation : δ → DeviceStep δ α) (w : World μ) : StackOutcome δ μ η α :=
  let step := operation stack.device
  { result := step.result
    stack := { stack with device := step.device }
    world := w.reportAll step.events }

private def dumpOver (device : δ) : List (Layer η) → String
  | [] => Device.dump device
  | layer :: inner =>
    "Tee PCM (" ++ layer.sink.label.describe ++ ")\n" ++
      (match Device.setup device with
        | .ok s => "Its setup is:\n" ++ s.describe
        | .error _ => "") ++
      "Slave: " ++ dumpOver device inner

/-- Description for people: every tee with its sink and setup, then the device. -/
def dump : String :=
  dumpOver stack.device stack.layers

end TeeStack

end FrameTee
