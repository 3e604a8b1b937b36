import FrameTee.Area.Copy

/-!
# Mapped rings

A mapped ring is memory that an application reads and writes in place, with one layout per channel.
`MappedRing.copyInterleaved` gathers frames from it and `MappedRing.storeInterleaved` scatters
interleaved frames into it. Storing goes channel by channel and frame by frame and stops at the
first sample that has no place, so what was stored before stays.
-/

namespace FrameTee

/-- Ring memory and where each channel lies in it. -/
structure MappedRing where
  /-- The memory. -/
  data : Memory
  /-- One layout per channel, in channel order. -/
  layouts : Array AreaLayout
  deriving DecidableEq

namespace MappedRing

/-- The areas of the channels, which all share the memory. -/
def areas (ring : MappedRing) : ChannelAreas where
  buffers := #[ring.data]
  areas := ring.layouts.map (⟨0, ·⟩)

/-- Gathers `frames` frames from frame `offset` on. -/
def copyInterleaved (ring : MappedRing) (g : FrameGeometry) (offset frames : Nat) :
    Except AreaError Bytes :=
  ring.areas.copyInterleaved g offset frames

/-- Stores the samples of one channel for the frames `frame`, …, `frame + count - 1` of `src`. -/
def storeChannel (g : FrameGeometry) (src : Bytes) (offset channel : Nat) (layout : AreaLayout) :
    (frame count : Nat) → Memory → Except AreaError Unit × Memory
  | _, 0, data => (.ok (), data)
  | frame, count + 1, data =>
    match layout.sampleStart channel (Count.addSat offset frame) g.sampleBytes data.size with
    | .error e => (.error e, data)
    | .ok start =>
      let origin := frame * g.frameBytes + channel * g.sampleBytes
      storeChannel g src offset channel layout (frame + 1) count
        (Memory.blit src origin data start g.sampleBytes)

/-- Stores the samples of the channels from `channel` on. -/
def storeChannels (g : FrameGeometry) (src : Bytes) (offset frames : Nat) :
    (channel : Nat) → List AreaLayout → Memory → Except AreaError Unit × Memory
  | _, [], data => (.ok (), data)
  | channel, layout :: layouts, data =>
    match storeChannel g src offset channel layout 0 frames data with
    | (.error e, data) => (.error e, data)
    | (.ok (), data) => storeChannels g src offset frames (channel + 1) layouts data

/-- Scatters the whole frames of `src` into the ring from frame `offset` on. The memory is returned
also when a sample has no place. -/
def storeInterleaved (ring : MappedRing) (g : FrameGeometry) (offset : Nat) (src : Bytes) :
    Except AreaError Unit × Memory :=
  if ring.layouts.size ≠ g.channelCount then
    (.error (.channelMismatch g.channelCount ring.layouts.size), ring.data)
  else
    storeChannels g src offset (g.bytesToFrames src.size) 0 ring.layouts.toList ring.data

end MappedRing

end FrameTee
