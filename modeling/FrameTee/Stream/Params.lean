import FrameTee.Frame.Geometry

/-!
# Stream parameters

An application asks for `StreamParams`; a device says what it can do in a `ParamsRange`, and
`ParamsRange.accepts` compares the two. What the stream settled on is a `StreamSetup`.
-/

namespace FrameTee

/-- Parameters an application asks for. -/
structure StreamParams where
  /-- Encoding of the samples. -/
  format : SampleFormat
  /-- Number of channels. -/
  channels : UInt16
  /-- Frames per second. -/
  rate : UInt32
  /-- Frames in the ring. -/
  bufferSize : Nat
  deriving DecidableEq, Repr

/-- The parameters as an inspected value. -/
def StreamParams.inspect (p : StreamParams) : String :=
  Text.record "StreamParams"
    [("format", p.format.inspect), ("channels", toString p.channels.toNat),
      ("rate", toString p.rate.toNat), ("buffer_size", toString p.bufferSize)]

/-- What a device can be configured to. -/
structure ParamsRange where
  /-- Encodings on offer. -/
  formats : List SampleFormat
  /-- Fewest channels. -/
  minChannels : UInt16
  /-- Most channels. -/
  maxChannels : UInt16
  /-- Lowest rate. -/
  minRate : UInt32
  /-- Highest rate. -/
  maxRate : UInt32
  /-- Smallest ring. -/
  minBufferSize : Nat
  /-- Largest ring. -/
  maxBufferSize : Nat
  deriving DecidableEq, Repr

/-- Whether parameters are within a range. -/
def ParamsRange.accepts (range : ParamsRange) (p : StreamParams) : Bool :=
  range.formats.contains p.format &&
    (range.minChannels ≤ p.channels && p.channels ≤ range.maxChannels) &&
    (range.minRate ≤ p.rate && p.rate ≤ range.maxRate) &&
    (range.minBufferSize ≤ p.bufferSize && p.bufferSize ≤ range.maxBufferSize)

/-- What a stream settled on. -/
structure StreamSetup where
  /-- Shape of a frame. -/
  geometry : FrameGeometry
  /-- Frames per second. -/
  rate : UInt32
  /-- Frames in the ring. -/
  bufferSize : Nat
  deriving DecidableEq, Repr, Inhabited

namespace StreamSetup

/-- The setup that grants exactly the parameters asked for. -/
def ofParams (p : StreamParams) : StreamSetup :=
  ⟨⟨p.channels, p.format⟩, p.rate, p.bufferSize⟩

/-- The setup as shown to people, one property a line. -/
def describe (s : StreamSetup) : String :=
  String.join
    [ "  format      : " ++ s.geometry.format.name ++ "\n",
      "  channels    : " ++ toString s.geometry.channelCount ++ "\n",
      "  rate        : " ++ toString s.rate.toNat ++ "\n",
      "  frame bytes : " ++ toString s.geometry.frameBytes ++ "\n",
      "  buffer size : " ++ toString s.bufferSize ++ "\n" ]

/-- The setup as an inspected value. -/
def inspect (s : StreamSetup) : String :=
  Text.record "StreamSetup"
    [("geometry", s.geometry.inspect), ("rate", toString s.rate.toNat),
      ("buffer_size", toString s.bufferSize)]

end StreamSetup

end FrameTee
