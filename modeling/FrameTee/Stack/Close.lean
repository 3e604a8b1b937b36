import FrameTee.Stack.Basic

/-!
# Closing a stack of tees

A tee that owns the stream below closes its sink first and then that stream, also when the sink
could not be closed; the error of the sink then wins. A tee that does not own the stream below
closes its sink and hands the stream back.
-/

namespace FrameTee

/-- What closing a stack leaves behind. -/
structure CloseOutcome (δ μ α : Type) where
  /-- What closing answered. -/
  result : Except StreamError α
  /-- The device afterwards. -/
  device : δ
  /-- The media and the log afterwards. -/
  world : World μ

namespace TeeStack

variable {δ μ η : Type} [Device δ] [Medium μ η]

/-- Reports that a tee closes and closes its sink. -/
def closeSink (device : δ) (layer : Layer η) (w : World μ) : Except SinkError Unit × World μ :=
  layer.sink.close
    (w.report
      (.closingTee (Device.name device) layer.stats.framesTeed layer.stats.bytesWritten))

/-- Joins the closing of a sink with the closing of the stream below it. -/
def joinClose (sink : Except SinkError Unit) (below : CloseOutcome δ μ Unit) :
    CloseOutcome δ μ Unit :=
  let world :=
    match below.result with
    | .error e => below.world.report (.slaveCloseFailed e)
    | .ok () => below.world
  let result :=
    match sink with
    | .error e => .error (.sink e)
    | .ok () => below.result
  { result, device := below.device, world }

/-- Closes the tees of a stream from the outermost on, and the device if every tee owns what is
below it. A stream that is not owned is let go without being closed. -/
def closeAll (device : δ) : List (Layer η) → World μ → CloseOutcome δ μ Unit
  | [], w =>
    let step := Device.close device
    ⟨step.result, step.device, w.reportAll step.events⟩
  | layer :: inner, w =>
    let (sink, w) := closeSink device layer w
    if layer.closeSlave then joinClose sink (closeAll device inner w)
    else ⟨sink.mapError .sink, device, w⟩

/-- Closes the outermost tee, or the device where there is none. A stream that the tee does not own
is handed back. -/
def close (stack : TeeStack δ η) (w : World μ) :
    CloseOutcome δ μ (Option (TeeStack δ η)) :=
  match stack.layers with
  | layer :: inner =>
    if layer.closeSlave then
      let outcome := closeAll stack.device stack.layers w
      ⟨outcome.result.map fun _ => none, outcome.device, outcome.world⟩
    else
      let (sink, w) := closeSink stack.device layer w
      ⟨(sink.mapError .sink).map fun _ => some ⟨inner, stack.device⟩, stack.device, w⟩
  | [] =>
    let outcome := closeAll stack.device stack.layers w
    ⟨outcome.result.map fun _ => none, outcome.device, outcome.world⟩

end TeeStack

end FrameTee
