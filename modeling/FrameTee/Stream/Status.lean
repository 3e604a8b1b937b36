import FrameTee.Stream.State

/-!
# What a stream tells about itself

The fixed description of a stream, the place of one channel in its mapped ring, a snapshot of where
it stands, and the set of its channels as one bit per channel, for the first sixty-four channels.
-/

namespace FrameTee

/-- The fixed description of a stream. -/
structure StreamInfo where
  /-- Name of the stream. -/
  name : String
  /-- Way frames flow. -/
  direction : Direction
  /-- Whether the ring can be mapped. -/
  mapped : Bool
  /-- Whether frames can be taken back. -/
  rewindable : Bool
  deriving DecidableEq, Repr

/-- Where the samples of one channel lie in the mapped ring. -/
structure ChannelInfo where
  /-- The channel. -/
  channel : UInt16
  /-- Bit at which its first sample starts. -/
  firstBit : Nat
  /-- Bits from one of its samples to the next. -/
  stepBits : Nat
  deriving DecidableEq, Repr

/-- A snapshot of a stream. -/
structure StreamStatus where
  /-- The state. -/
  state : StreamState
  /-- Position of the application, in frames. -/
  applPtr : Nat
  /-- Position of the hardware, in frames. -/
  hwPtr : Nat
  /-- Frames the application can move at once. -/
  avail : Nat
  /-- Frames between application and hardware. -/
  delay : Int
  deriving DecidableEq, Repr

/-- A set of channels. -/
structure ChannelMask where
  /-- Bit `c` stands for channel `c`. -/
  bits : UInt64
  deriving DecidableEq, Repr

namespace ChannelMask

/-- The first `channels` channels. -/
def first (channels : UInt16) : ChannelMask :=
  if 64 ≤ channels then ⟨0xffffffffffffffff⟩
  else ⟨(1 <<< channels.toUInt64) - 1⟩

/-- Whether a channel is in the set. -/
def contains (mask : ChannelMask) (channel : UInt16) : Bool :=
  channel < 64 && mask.bits &&& (1 <<< channel.toUInt64) != 0

/-- The channels that are in both sets. -/
def intersect (mask other : ChannelMask) : ChannelMask :=
  ⟨mask.bits &&& other.bits⟩

end ChannelMask

end FrameTee
