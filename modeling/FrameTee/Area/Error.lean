import FrameTee.Text.Inspect

/-!
# Faults of an area

A channel area says where the samples of a channel are. `AreaError` lists the ways in which such a
description can fail to fit the memory it points into.

One of them is no answer. A copy that asks for more bytes than a sequence has room for is given up,
and so is every call that waits for it; nobody is told (`AreaError.isAnswer`). What the calls have
done before stays done, as it does when they fail.
-/

namespace FrameTee

/-- Why areas and memory do not fit together. -/
inductive AreaError where
  /-- There is not one area per channel. -/
  | channelMismatch (expected actual : Nat)
  /-- An area starts or advances by a number of bits that is no whole number of bytes. -/
  | unaligned (channel firstBit stepBits : Nat)
  /-- A sample lies outside the `length` bytes of its area. -/
  | outOfBounds (channel frame length : Nat)
  /-- A buffer is too short for the frames asked for. -/
  | shortBuffer (needed available : Nat)
  /-- The frames do not fit in a byte count. -/
  | frameOverflow (frames : Nat)
  /-- There is no room for the bytes of a copy. This ends the call without an answer. -/
  | capacityOverflow
  deriving DecidableEq, Repr

namespace AreaError

/-- Whether a caller is answered with the fault. -/
def isAnswer : AreaError → Bool
  | capacityOverflow => false
  | _ => true

@[simp] theorem isAnswer_eq_false_iff {error : AreaError} :
    error.isAnswer = false ↔ error = .capacityOverflow := by
  cases error <;> simp [isAnswer]

/-- The fault as shown to people. -/
def message : AreaError → String
  | channelMismatch expected actual =>
    s!"expected {expected} channel areas, got {actual}"
  | unaligned channel firstBit stepBits =>
    s!"channel {channel} area is not byte aligned (first={firstBit}, step={stepBits})"
  | outOfBounds channel frame length =>
    s!"channel {channel} frame {frame} is outside its {length} byte area"
  | shortBuffer needed available =>
    s!"buffer holds {available} bytes, {needed} needed"
  | frameOverflow frames =>
    s!"{frames} frames do not fit in a byte count"
  | capacityOverflow => "capacity overflow"

/-- The name of the kind of fault. -/
def kind : AreaError → String
  | channelMismatch .. => "ChannelMismatch"
  | unaligned .. => "Unaligned"
  | outOfBounds .. => "OutOfBounds"
  | shortBuffer .. => "ShortBuffer"
  | frameOverflow .. => "FrameOverflow"
  | capacityOverflow => "CapacityOverflow"

/-- The fault as an inspected value. -/
def inspect (error : AreaError) : String :=
  match error with
  | channelMismatch expected actual =>
    Text.record error.kind [("expected", toString expected), ("actual", toString actual)]
  | unaligned channel firstBit stepBits =>
    Text.record error.kind
      [("channel", toString channel), ("first_bit", toString firstBit),
        ("step_bits", toString stepBits)]
  | outOfBounds channel frame length =>
    Text.record error.kind
      [("channel", toString channel), ("frame", toString frame), ("len", toString length)]
  | shortBuffer needed available =>
    Text.record error.kind [("needed", toString needed), ("available", toString available)]
  | frameOverflow frames => Text.record error.kind [("frames", toString frames)]
  | capacityOverflow => error.kind

end AreaError

end FrameTee
