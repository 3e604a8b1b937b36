import FrameTee.Device.Memory
import FrameTee.Stack.Close
import FrameTee.Stack.Transfer
import FrameTee.Storage.Basic
import FrameTee.Tone.Wave

/-!
# Playing a tone through a tee

One second of the tone is written to a memory device under a tee that keeps every frame in a file.
The hardware side plays one period after each write, so the ring always has room. What people see at
the end is the description of the stream and a count of what was written.
-/

namespace FrameTee.Tone

/-- The stack that the tone is played through. -/
abbrev ToneStack := TeeStack MemoryDevice Handle

/-- A run under way: it changes the stack and the world, and may be ended by an error. -/
abbrev Run (α : Type) := ExceptT StreamError (StateM (ToneStack × World Storage)) α

/-- One operation of the stack. -/
private def operate {α : Type}
    (operation : ToneStack → World Storage → StackOutcome MemoryDevice Storage Handle α) :
    Run α := do
  let (stack, w) ← get
  let outcome := operation stack w
  set (outcome.stack, outcome.world)
  liftExcept outcome.result
where
  liftExcept (result : Except StreamError α) : Run α :=
    ExceptT.mk (pure result)

/-- Lets the hardware side play one period. -/
private def makeRoom : Run Unit := do
  let _ ← operate (·.pass (MemoryDevice.consume · periodFrames))

/-- Writes the frames of a period from `offset` on, as many at a time as the ring takes. `turns`
bounds the number of writes; every second write finds room, so twice the frames are enough. -/
private def playFrames (bytes : Bytes) (offset : Nat) : (turns : Nat) → Run Unit
  | 0 => pure ()
  | turns + 1 =>
    if offset < periodFrames then do
      let moved ← operate
        (·.writeInterleaved (bytes.extract (offset * 4) bytes.size) (periodFrames - offset))
      makeRoom
      playFrames bytes (offset + moved) turns
    else pure ()

/-- Plays periods from a phase on. -/
private def playPeriods (phase : Float32) : (count : Nat) → Run Unit
  | 0 => pure ()
  | count + 1 => do
    let (bytes, phase) := period phase
    playFrames bytes 0 (2 * periodFrames)
    playPeriods phase count

/-- Makes the stream ready, plays the whole tone and waits for its end. -/
private def play : Run Unit := do
  operate (·.pass Device.prepare)
  playPeriods 0.0 periods
  operate (·.pass Device.drain)

/-- What a run of the command leaves behind. -/
structure Recital where
  /-- Whether the run failed. -/
  failed : Bool
  /-- What is shown. -/
  shown : String
  /-- What is complained of. -/
  complaint : String
  /-- The files afterwards. -/
  storage : Storage

private def failure (text : String) (w : World Storage) : Recital :=
  ⟨true, "", "Error: " ++ text ++ "\n", w.media⟩

/-- The file that is written when none is named. -/
def defaultPath : String := "tee.raw"

/-- The configuration of the device: a ring of four periods. -/
def config : MemoryConfig :=
  { channels := channels, rate := rate, bufferSize := periodFrames * 4 }

/-- The device that the tone is played on. -/
def openDevice (w : World Storage) : Except StreamError MemoryDevice × World Storage :=
  let step := MemoryDevice.ofConfig "memory" .playback config
  (step.result.map fun _ => step.device, w.reportAll step.events)

/-- Ends a run: shows the stream, closes the tee and counts what was written. -/
private def finish (path : String) (stack : ToneStack) (w : World Storage) : Recital :=
  let shown := stack.dump
  let stats := (stack.layers.head?.map (·.stats)).getD {}
  let outcome := stack.close w
  match outcome.result with
  | .error e => ⟨true, shown, "Error: " ++ e.inspect ++ "\n", outcome.world.media⟩
  | .ok _ =>
    let summary :=
      s!"Wrote {stats.framesTeed} frames ({stats.bytesWritten} bytes) to " ++ path ++ "\n"
    ⟨false, shown ++ summary, "", outcome.world.media⟩

/-- Plays the tone, and shows the stream unless an error ended the run. -/
private def playOn (path : String) (stack : ToneStack) (w : World Storage) : Recital :=
  let (result, stack, w) := play.run.run (stack, w)
  match result with
  | .error e => failure e.inspect w
  | .ok () => finish path stack w

/-- Runs the command with its arguments: the first one names the file. -/
def recital (arguments : List String) (storage : Storage) : Recital :=
  let path := arguments.headD defaultPath
  match Sink.ofTarget (.file path) (⟨storage, #[]⟩ : World Storage) with
  | (.error e, w) => failure e.inspect w
  | (.ok sink, w) =>
    match openDevice w with
    | (.error e, w) => failure e.inspect w
    | (.ok device, w) =>
      let (stack, w) := (TeeStack.bare device).push sink true w
      playOn path stack w

end FrameTee.Tone
