/-!
# Directions and states of a stream

A stream either plays frames or records them, and it is in one of nine states. Each value has the
name shown to people and the name used when a whole value is inspected.
-/

namespace FrameTee

/-- The way frames flow through a stream. -/
inductive Direction where
  /-- The application writes frames, the hardware plays them. -/
  | playback
  /-- The hardware records frames, the application reads them. -/
  | capture
  deriving DecidableEq, Repr, Inhabited

namespace Direction

/-- The name shown to people. -/
def name : Direction → String
  | playback => "PLAYBACK"
  | capture => "CAPTURE"

/-- The name used in inspected values. -/
def inspect : Direction → String
  | playback => "Playback"
  | capture => "Capture"

/-- The word that selects a direction. -/
def keyword : Direction → String
  | playback => "playback"
  | capture => "capture"

/-- The direction that a word selects. -/
def ofKeyword? (word : String) : Option Direction :=
  [playback, capture].find? (·.keyword == word)

/-- The word of a direction selects that direction. -/
@[simp] theorem ofKeyword?_keyword (direction : Direction) :
    ofKeyword? direction.keyword = some direction := by
  cases direction <;> decide

end Direction

/-- The state of a stream. -/
inductive StreamState where
  /-- Opened, without parameters. -/
  | opened
  /-- Parameters are set. -/
  | setup
  /-- Ready to start. -/
  | prepared
  /-- Moving frames. -/
  | running
  /-- Stopped because the ring ran empty or over. -/
  | xrun
  /-- Playing the rest before it stops. -/
  | draining
  /-- Halted for the moment. -/
  | paused
  /-- Suspended from outside. -/
  | suspended
  /-- The hardware is gone. -/
  | disconnected
  deriving DecidableEq, Repr, Inhabited

namespace StreamState

/-- The name shown to people. -/
def name : StreamState → String
  | opened => "OPEN"
  | setup => "SETUP"
  | prepared => "PREPARED"
  | running => "RUNNING"
  | xrun => "XRUN"
  | draining => "DRAINING"
  | paused => "PAUSED"
  | suspended => "SUSPENDED"
  | disconnected => "DISCONNECTED"

/-- The name used in inspected values. -/
def inspect : StreamState → String
  | opened => "Open"
  | setup => "Setup"
  | prepared => "Prepared"
  | running => "Running"
  | xrun => "Xrun"
  | draining => "Draining"
  | paused => "Paused"
  | suspended => "Suspended"
  | disconnected => "Disconnected"

/-- Every state. -/
def all : List StreamState :=
  [opened, setup, prepared, running, xrun, draining, paused, suspended, disconnected]

/-- The state of a name. -/
def ofName? (name : String) : Option StreamState :=
  all.find? (·.name == name)

theorem mem_all (state : StreamState) : state ∈ all := by
  cases state <;> decide

/-- The name of a state stands for that state. -/
@[simp] theorem ofName?_name (state : StreamState) : ofName? state.name = some state := by
  cases state <;> decide

end StreamState

end FrameTee
