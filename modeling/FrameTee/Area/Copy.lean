import FrameTee.Area.Layout
import FrameTee.Memory

/-!
# Channel areas and the copy to interleaved bytes

`ChannelAreas` describes audio that may be scattered over several buffers: each channel names the
buffer that holds its samples and their layout inside it. Two channels share memory exactly when
they name the same buffer. `ChannelAreas.copyInterleaved` flattens a range of frames into the plain
interleaved form.

Areas that already are one interleaved buffer are copied as a single slice. All others are copied
sample by sample, up to the first sample that cannot be read, all frames of the first channel before
those of the second. Room for the bytes is made before any sample is looked at, and where there
cannot be that much room the copy is given up, whatever the samples are.
-/

namespace FrameTee

/-- Where one channel lives: a buffer, by its number, and a layout inside it. -/
structure ChannelArea where
  /-- Number of the buffer. -/
  buffer : Nat
  /-- Layout inside the buffer. -/
  layout : AreaLayout
  deriving DecidableEq, Repr

/-- One area per channel over a list of buffers. -/
structure ChannelAreas where
  /-- The buffers that areas refer to. -/
  buffers : Array Memory
  /-- The areas in channel order. -/
  areas : Array ChannelArea
  deriving DecidableEq

namespace ChannelAreas

/-- The areas of one interleaved buffer. -/
def interleaved (buffer : Bytes) (g : FrameGeometry) : ChannelAreas where
  buffers := #[.ofBytes buffer]
  areas := Array.ofFn fun channel : Fin g.channelCount =>
    ⟨0, AreaLayout.interleaved channel g⟩

/-- The areas of one contiguous buffer per channel. -/
def planar (buffers : Array Bytes) (g : FrameGeometry) : ChannelAreas where
  buffers := buffers.map .ofBytes
  areas := Array.ofFn fun channel : Fin buffers.size =>
    ⟨channel, ⟨0, g.bitsPerSample⟩⟩

/-- The memory of an area. -/
def memory (a : ChannelAreas) (area : ChannelArea) : Memory :=
  a.buffers.getD area.buffer (.zeros 0)

/-- The shared buffer, if the areas are plain interleaved frames. -/
def asInterleaved? (a : ChannelAreas) (g : FrameGeometry) : Option Memory :=
  match a.areas[0]? with
  | none => none
  | some first =>
    if a.areas.toList.zipIdx.all fun (area, channel) =>
        area.buffer == first.buffer && area.layout == AreaLayout.interleaved channel g then
      some (a.memory first)
    else none

/-- The slice of an interleaved buffer that holds `frames` frames from frame `offset` on. -/
def sliceInterleaved (buffer : Memory) (offset frames : Nat) (g : FrameGeometry) :
    Except AreaError Bytes :=
  match Count.add? offset frames >>= g.framesToBytes? with
  | none => .error (.frameOverflow (Count.addSat offset frames))
  | some stop =>
    match buffer.slice? (offset * g.frameBytes) stop with
    | none => .error (.shortBuffer stop buffer.size)
    | some data => .ok data

/-- The first failing check among the frames `frame`, …, `frame + count - 1`. -/
def firstFault (check : Nat → Except AreaError Nat) (frame : Nat) : (count : Nat) → Option AreaError
  | 0 => none
  | count + 1 =>
    match check frame with
    | .error e => some e
    | .ok _ => firstFault check (frame + 1) count

/-- The check of one sample. -/
def checkSample (a : ChannelAreas) (g : FrameGeometry) (offset channel : Nat)
    (area : ChannelArea) (frame : Nat) : Except AreaError Nat :=
  area.layout.sampleStart channel (Count.addSat offset frame) g.sampleBytes (a.memory area).size

/-- The first sample that cannot be read, channel by channel. -/
def findFault? (a : ChannelAreas) (g : FrameGeometry) (offset frames : Nat) : Option AreaError :=
  a.areas.toList.zipIdx.findSome? fun (area, channel) =>
    firstFault (a.checkSample g offset channel area) 0 frames

/-- Byte `i` of the interleaved form of the frames from `offset` on. -/
def interleavedByte (a : ChannelAreas) (g : FrameGeometry) (offset i : Nat) : UInt8 :=
  let within := i % g.frameBytes
  match a.areas[within / g.sampleBytes]? with
  | none => 0
  | some area =>
    let start := area.layout.address (offset + i / g.frameBytes)
    (a.memory area).get (start + within % g.sampleBytes)

/-- Flattens frames sample by sample into `total` bytes, for which there has to be room first. -/
def copySamples (a : ChannelAreas) (g : FrameGeometry) (offset frames total : Nat) :
    Except AreaError Bytes :=
  if Bytes.maxSize < total then .error .capacityOverflow
  else
    match a.findFault? g offset frames with
    | some e => .error e
    | none => .ok (Array.ofFn fun i : Fin total => a.interleavedByte g offset i)

/-- Flattens `frames` frames from frame `offset` on into interleaved bytes. -/
def copyInterleaved (a : ChannelAreas) (g : FrameGeometry) (offset frames : Nat) :
    Except AreaError Bytes :=
  if a.areas.size ≠ g.channelCount then
    .error (.channelMismatch g.channelCount a.areas.size)
  else
    match g.framesToBytes? frames with
    | none => .error (.frameOverflow frames)
    | some total =>
      match a.asInterleaved? g with
      | some buffer => sliceInterleaved buffer offset frames g
      | none => a.copySamples g offset frames total

end ChannelAreas

end FrameTee
