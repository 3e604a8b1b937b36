import FrameTee.Bytes
import FrameTee.Log.Event
import FrameTee.Storage.IoError

/-!
# Media

A sink writes to a medium: files, descriptors and writers, reached through handles. `Medium` is the
contract between sinks and the state `μ` of all media together. A medium may fail, may take fewer
bytes than it is given, and may let two handles reach the same bytes.

A `World` is the media with the log of what was reported.
-/

namespace FrameTee

/-- What a sink can ask of the media with state `μ` and handles `η`. -/
class Medium (μ η : Type) where
  /-- Opens a file for writing, creating it if it is missing. -/
  openFile : String → μ → Except IoError η × μ
  /-- Makes a second handle for an open descriptor. -/
  duplicate : Int → μ → Except IoError η × μ
  /-- Writes bytes at the position, in one request, and tells how many were taken. -/
  write : η → Bytes → μ → Except IoError Nat × μ
  /-- Moves the position by a distance and tells the new one. -/
  seek : η → Int → μ → Except IoError Nat × μ
  /-- Passes on what is held back. -/
  flush : η → μ → Except IoError Unit × μ

/-- The media and the log. -/
structure World (μ : Type) where
  /-- State of all media. -/
  media : μ
  /-- What was reported, oldest first. -/
  log : Array LogEvent := #[]

namespace World

variable {μ : Type}

/-- Reports an event. -/
def report (w : World μ) (event : LogEvent) : World μ :=
  { w with log := w.log.push event }

/-- Reports events in order. -/
def reportAll (w : World μ) (events : List LogEvent) : World μ :=
  { w with log := w.log ++ events }

@[simp] theorem media_report (w : World μ) (event : LogEvent) :
    (w.report event).media = w.media := rfl

@[simp] theorem media_reportAll (w : World μ) (events : List LogEvent) :
    (w.reportAll events).media = w.media := rfl

@[simp] theorem log_report (w : World μ) (event : LogEvent) :
    (w.report event).log = w.log.push event := rfl

end World

end FrameTee
