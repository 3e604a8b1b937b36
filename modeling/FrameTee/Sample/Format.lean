/-!
# Sample formats

The encodings a stream can carry. Nothing here looks inside a sample: only the number of bits it
occupies in memory matters, together with the three ways a format is written: the word that selects
it in a configuration, the name shown to people, and the name used when a whole value is inspected.
-/

namespace FrameTee

/-- The encoding of one sample. -/
inductive SampleFormat where
  /-- Signed 8 bit. -/
  | s8
  /-- Unsigned 8 bit. -/
  | u8
  /-- Signed 16 bit, least significant byte first. -/
  | s16le
  /-- Signed 16 bit, most significant byte first. -/
  | s16be
  /-- Unsigned 16 bit, least significant byte first. -/
  | u16le
  /-- Unsigned 16 bit, most significant byte first. -/
  | u16be
  /-- Signed 24 bit in four bytes. -/
  | s24le
  /-- Signed 24 bit packed in three bytes. -/
  | s24packed
  /-- Signed 32 bit, least significant byte first. -/
  | s32le
  /-- Signed 32 bit, most significant byte first. -/
  | s32be
  /-- Binary floating point of 32 bits. -/
  | float32le
  /-- Binary floating point of 64 bits. -/
  | float64le
  /-- Logarithmic 8 bit, mu-law. -/
  | muLaw
  /-- Logarithmic 8 bit, A-law. -/
  | aLaw
  deriving DecidableEq, Repr, Inhabited

namespace SampleFormat

/-- Every format, in the order in which a device advertises them. -/
def all : List SampleFormat :=
  [s8, u8, s16le, s16be, u16le, u16be, s24le, s24packed, s32le, s32be, float32le, float64le,
    muLaw, aLaw]

/-- Bits that one sample occupies in memory, padding included. -/
def physicalBits : SampleFormat → Nat
  | s8 | u8 | muLaw | aLaw => 8
  | s16le | s16be | u16le | u16be => 16
  | s24packed => 24
  | s24le | s32le | s32be | float32le => 32
  | float64le => 64

/-- The name shown to people. -/
def name : SampleFormat → String
  | s8 => "S8"
  | u8 => "U8"
  | s16le => "S16_LE"
  | s16be => "S16_BE"
  | u16le => "U16_LE"
  | u16be => "U16_BE"
  | s24le => "S24_LE"
  | s24packed => "S24_3LE"
  | s32le => "S32_LE"
  | s32be => "S32_BE"
  | float32le => "FLOAT_LE"
  | float64le => "FLOAT64_LE"
  | muLaw => "MU_LAW"
  | aLaw => "A_LAW"

/-- The name used when a value that holds a format is inspected. -/
def inspect : SampleFormat → String
  | s8 => "S8"
  | u8 => "U8"
  | s16le => "S16Le"
  | s16be => "S16Be"
  | u16le => "U16Le"
  | u16be => "U16Be"
  | s24le => "S24Le"
  | s24packed => "S24_3Le"
  | s32le => "S32Le"
  | s32be => "S32Be"
  | float32le => "FloatLe"
  | float64le => "Float64Le"
  | muLaw => "MuLaw"
  | aLaw => "ALaw"

/-- The word that selects a format in a configuration. -/
def keyword : SampleFormat → String
  | s8 => "s8"
  | u8 => "u8"
  | s16le => "s16_le"
  | s16be => "s16_be"
  | u16le => "u16_le"
  | u16be => "u16_be"
  | s24le => "s24_le"
  | s24packed => "s24_3_le"
  | s32le => "s32_le"
  | s32be => "s32_be"
  | float32le => "float_le"
  | float64le => "float64_le"
  | muLaw => "mu_law"
  | aLaw => "a_law"

/-- The format that a configuration word selects. -/
def ofKeyword? (word : String) : Option SampleFormat :=
  all.find? (·.keyword == word)

theorem mem_all (format : SampleFormat) : format ∈ all := by
  cases format <;> decide

/-- The word of a format selects that format. -/
@[simp] theorem ofKeyword?_keyword (format : SampleFormat) :
    ofKeyword? format.keyword = some format := by
  cases format <;> decide

theorem physicalBits_pos (format : SampleFormat) : 0 < physicalBits format := by
  cases format <;> decide

/-- Every format fills whole bytes. -/
theorem eight_dvd_physicalBits (format : SampleFormat) : 8 ∣ physicalBits format := by
  cases format <;> decide

end SampleFormat

end FrameTee
