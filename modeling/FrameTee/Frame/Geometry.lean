import FrameTee.Count
import FrameTee.Sample.Format
import FrameTee.Text.Inspect

/-!
# Frame geometry

A frame holds one sample of every channel. `FrameGeometry` fixes how many channels there are and how
each sample is encoded, and with that how frame counts and byte counts convert.
-/

namespace FrameTee

/-- The shape of one frame. -/
structure FrameGeometry where
  /-- Number of channels. -/
  channels : UInt16
  /-- Encoding of each sample. -/
  format : SampleFormat
  deriving DecidableEq, Repr, Inhabited

namespace FrameGeometry

variable (g : FrameGeometry)

/-- Number of channels as a natural number. -/
def channelCount : Nat := g.channels.toNat

/-- Bits of one sample. -/
def bitsPerSample : Nat := g.format.physicalBits

/-- Bits of one frame. -/
def bitsPerFrame : Nat := g.bitsPerSample * g.channelCount

/-- Bytes of one sample. -/
def sampleBytes : Nat := g.bitsPerSample / 8

/-- Bytes of one frame. -/
def frameBytes : Nat := g.bitsPerFrame / 8

/-- Bytes that `frames` frames occupy, if that is a count. -/
def framesToBytes? (frames : Nat) : Option Nat :=
  Count.mul? frames g.frameBytes

/-- Whole frames in `bytes` bytes; a partial frame at the end does not count, and without channels
there are no frames at all. -/
def bytesToFrames (bytes : Nat) : Nat :=
  bytes / g.frameBytes

/-- The geometry as shown to people. -/
def describe : String :=
  s!"{g.channelCount} x {g.format.name} ({g.frameBytes} bytes/frame)"

/-- The geometry as an inspected value. -/
def inspect : String :=
  Text.record "FrameGeometry"
    [("channels", toString g.channelCount), ("format", g.format.inspect)]

theorem bitsPerSample_eq : g.bitsPerSample = 8 * g.sampleBytes := by
  have := g.format.eight_dvd_physicalBits
  unfold sampleBytes bitsPerSample
  omega

theorem sampleBytes_pos : 0 < g.sampleBytes := by
  have hpos := g.format.physicalBits_pos
  have := g.bitsPerSample_eq
  unfold bitsPerSample at this
  omega

/-- A frame is as long as its samples together. -/
theorem frameBytes_eq : g.frameBytes = g.channelCount * g.sampleBytes := by
  unfold frameBytes bitsPerFrame
  rw [bitsPerSample_eq, Nat.mul_assoc, Nat.mul_div_cancel_left _ (by decide), Nat.mul_comm]

theorem channelCount_lt : g.channelCount < 0x10000 :=
  g.channels.toNat_lt

end FrameGeometry

end FrameTee
