import FrameTee.Bytes

/-!
# A tone

A sine wave of 440 Hz at a quarter of full scale, as signed 16 bit samples of which every channel
gets the same. The phase runs from zero to one and is kept between periods; all arithmetic is in
binary floating point of 32 bits, rounded after every operation.
-/

namespace FrameTee.Tone

/-- Frames per second. -/
def rate : UInt32 := 48000

/-- Number of channels. -/
def channels : UInt16 := 2

/-- Frames in one period. -/
def periodFrames : Nat := 480

/-- Periods in one second. -/
def periods : Nat := rate.toNat / periodFrames

/-- A full turn in radians. -/
def fullTurn : Float32 := 6.2831855

/-- The part of a turn from one frame to the next. -/
def phaseStep : Float32 := 440.0 / 48000.0

/-- The sample at a phase. -/
def sample (phase : Float32) : Int16 :=
  ((phase * fullTurn).sin * 0.25 * 32767.0).toInt16

/-- The phase one frame later. -/
def nextPhase (phase : Float32) : Float32 :=
  let moved := phase + phaseStep
  moved - moved.floor

/-- Appends one sample, least significant byte first, `count` times. -/
def pushSample (bits : UInt16) (bytes : Bytes) : (count : Nat) → Bytes
  | 0 => bytes
  | count + 1 => pushSample bits ((bytes.push bits.toUInt8).push (bits >>> 8).toUInt8) count

/-- Appends `count` frames from a phase on, and tells the phase after them. -/
def pushFrames (phase : Float32) (bytes : Bytes) : (count : Nat) → Bytes × Float32
  | 0 => (bytes, phase)
  | count + 1 =>
    pushFrames (nextPhase phase) (pushSample (sample phase).toUInt16 bytes channels.toNat) count

/-- One period from a phase on, and the phase after it. -/
def period (phase : Float32) : Bytes × Float32 :=
  pushFrames phase #[] periodFrames

end FrameTee.Tone
