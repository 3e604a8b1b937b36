import FrameTee.Sink.Medium

/-!
# Sinks

A sink appends what a stream moves to a medium. Every write is one request: a medium that takes
fewer bytes makes the write fail, and it is not tried again, so a sink either holds every byte of a
transfer or says that it does not. A sink can be moved back, and what is written next replaces what
was there.
-/

namespace FrameTee

/-- A place for the durable copy. -/
structure Sink (η : Type) where
  /-- What the sink writes to. -/
  label : SinkLabel
  /-- The handle it writes through. -/
  handle : η
  deriving DecidableEq, Repr

namespace Sink

variable {μ η : Type} [Medium μ η]

/-- Opens the sink of a target. -/
def ofTarget (target : SinkTarget) (w : World μ) : Except SinkError (Sink η) × World μ :=
  let (opened, media) :=
    match target with
    | .file path => Medium.openFile path w.media
    | .descriptor fd => Medium.duplicate fd w.media
  let w := { w with media }
  match opened with
  | .error source => (.error (.opening target.label source), w)
  | .ok handle => (.ok ⟨target.label, handle⟩, w.report (.sinkOpened target.label))

/-- The sink of a writer, under a name of the caller. -/
def ofWriter (name : String) (handle : η) : Sink η :=
  ⟨.writer name, handle⟩

variable (sink : Sink η)

/-- Writes bytes in one request. Nothing is asked of the medium when there are none. -/
def write (bytes : Bytes) (w : World μ) : Except SinkError Unit × World μ :=
  if bytes.isEmpty then (.ok (), w)
  else
    let (taken, media) := Medium.write sink.handle bytes w.media
    let w := { w with media }
    match taken with
    | .error source => (.error (.write sink.label source), w)
    | .ok written =>
      if written = bytes.size then (.ok (), w)
      else
        (.error (.shortWrite sink.label bytes.size written),
          w.report (.shortWrite sink.label bytes.size written))

/-- The largest distance that a seek can express. -/
def maxDistance : Nat := 0x7fffffffffffffff

/-- Moves the position back and tells the new one. -/
def seekBack (bytes : Nat) (w : World μ) : Except SinkError Nat × World μ :=
  if maxDistance < bytes then (.error (.seek sink.label .rewindTooFar), w)
  else
    let (moved, media) := Medium.seek sink.handle (-(bytes : Int)) w.media
    let w := { w with media }
    match moved with
    | .error source => (.error (.seek sink.label source), w.report (.rewindFailed sink.label bytes))
    | .ok position => (.ok position, w)

/-- Tells the position. -/
def position (w : World μ) : Except SinkError Nat × World μ :=
  let (told, media) := Medium.seek sink.handle 0 w.media
  (told.mapError (.seek sink.label), { w with media })

/-- Passes on what is held back and gives up the handle. -/
def close (w : World μ) : Except SinkError Unit × World μ :=
  let w := w.report (.closingSink sink.label)
  let (flushed, media) := Medium.flush sink.handle w.media
  (flushed.mapError (.close sink.label), { w with media })

/-- The sink as an inspected value. -/
def inspect : String :=
  Text.openRecord "FileSink" [("label", sink.label.inspect)]

end Sink

end FrameTee
