import FrameTee.Stream.Params

/-!
# Configuration of a memory device

A memory device is configured by the parameters of its stream and by the way its ring is laid out.
What a configuration leaves open is taken from `MemoryConfig`'s defaults.
-/

namespace FrameTee

/-- How the channels lie in a ring. -/
inductive RingLayout where
  /-- The samples of a frame follow one another. -/
  | interleaved
  /-- Each channel has a block of its own. -/
  | planar
  deriving DecidableEq, Repr, Inhabited

namespace RingLayout

/-- The name used in inspected values. -/
def inspect : RingLayout → String
  | interleaved => "Interleaved"
  | planar => "Planar"

/-- The word that selects a layout in a configuration. -/
def keyword : RingLayout → String
  | interleaved => "interleaved"
  | planar => "planar"

/-- The layout that a configuration word selects. -/
def ofKeyword? (word : String) : Option RingLayout :=
  [interleaved, planar].find? (·.keyword == word)

/-- The word of a layout selects that layout. -/
@[simp] theorem ofKeyword?_keyword (layout : RingLayout) :
    ofKeyword? layout.keyword = some layout := by
  cases layout <;> decide

end RingLayout

/-- Configuration of a memory device. -/
structure MemoryConfig where
  /-- Number of channels. -/
  channels : UInt16 := 2
  /-- Encoding of the samples. -/
  format : SampleFormat := .s16le
  /-- Frames per second. -/
  rate : UInt32 := 48000
  /-- Frames in the ring. -/
  bufferSize : Nat := 1024
  /-- How the channels lie in the ring. -/
  layout : RingLayout := .interleaved
  deriving DecidableEq, Repr

/-- The stream parameters of a configuration. -/
def MemoryConfig.params (c : MemoryConfig) : StreamParams :=
  ⟨c.format, c.channels, c.rate, c.bufferSize⟩

end FrameTee
