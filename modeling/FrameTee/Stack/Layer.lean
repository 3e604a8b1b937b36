import FrameTee.Device.Basic
import FrameTee.Ring.Cursor
import FrameTee.Sink.Basic

/-!
# One tee

A tee sits over a stream and keeps a durable copy of the frames that the stream moves. `Layer` is
what a tee holds besides the stream below it: its sink, whether it owns that stream, and its
counters.

The recordings of this module are what a tee does once the stream below has moved frames. Each reads
the geometry from the device, brings the frames into interleaved form and writes them to the sink.
The counters follow the sink: they change exactly with the writes that were taken in full. They are
not bounded here. Where a program would have to go past its largest count, what it does is not told,
so what is said of its answers is said for counters that are `Countable`.
-/

namespace FrameTee

/-- Counters of a tee. -/
structure TeeStats where
  /-- Frames written to the sink. -/
  framesTeed : Nat := 0
  /-- Bytes written to the sink. -/
  bytesWritten : Nat := 0
  /-- Writes to the sink. -/
  sinkWrites : Nat := 0
  /-- Frames taken back. -/
  framesRewound : Nat := 0
  deriving DecidableEq, Repr, Inhabited

/-- The counters are counts. -/
structure TeeStats.Countable (stats : TeeStats) : Prop where
  /-- The frames written are a count. -/
  framesTeed_lt : stats.framesTeed < Count.limit
  /-- The bytes written are a count. -/
  bytesWritten_lt : stats.bytesWritten < Count.limit
  /-- The writes are a count. -/
  sinkWrites_lt : stats.sinkWrites < Count.limit
  /-- The frames taken back are a count. -/
  framesRewound_lt : stats.framesRewound < Count.limit

instance (stats : TeeStats) : Decidable stats.Countable :=
  decidable_of_iff (stats.framesTeed < Count.limit ∧ stats.bytesWritten < Count.limit ∧
      stats.sinkWrites < Count.limit ∧ stats.framesRewound < Count.limit)
    ⟨fun ⟨h₁, h₂, h₃, h₄⟩ => ⟨h₁, h₂, h₃, h₄⟩, fun ⟨h₁, h₂, h₃, h₄⟩ => ⟨h₁, h₂, h₃, h₄⟩⟩

/-- What a tee holds besides the stream below it. -/
structure Layer (η : Type) where
  /-- Where the copy goes. -/
  sink : Sink η
  /-- Whether closing the tee closes the stream below. -/
  closeSlave : Bool
  /-- Direction of the stream below when the tee was opened. -/
  direction : Direction
  /-- Counters since then. -/
  stats : TeeStats := {}
  deriving DecidableEq, Repr

/-- A recording by one tee: it may fail, and keeps what it did before. -/
abbrev Recording (μ η : Type) :=
  Layer η → World μ → Except StreamError Unit × Layer η × World μ

namespace Layer

variable {δ μ η : Type} [Device δ] [Medium μ η]

/-- Writes the bytes of `frames` frames to the sink and counts them. -/
def record (bytes : Bytes) (frames : Nat) : Recording μ η := fun layer w =>
  match layer.sink.write bytes w with
  | (.error e, w) => (.error (.sink e), layer, w)
  | (.ok (), w) =>
    let stats :=
      { layer.stats with
        framesTeed := layer.stats.framesTeed + frames
        bytesWritten := layer.stats.bytesWritten + bytes.size
        sinkWrites := layer.stats.sinkWrites + 1 }
    (.ok (), { layer with stats }, w.report (.framesTeed frames bytes.size layer.sink.label))

/-- The first `frames` frames of an interleaved buffer. -/
def leadingFrames (g : FrameGeometry) (buffer : Bytes) (frames : Nat) :
    Except StreamError Bytes :=
  match g.framesToBytes? frames with
  | none => .error (.invalidArgument (.frameOverflow frames))
  | some bytes =>
    match Bytes.slice? buffer 0 bytes with
    | none => .error (.area (.shortBuffer bytes buffer.size))
    | some data => .ok data

/-- Records the first `frames` frames of an interleaved buffer. -/
def recordInterleaved (buffer : Bytes) (device : δ) (frames : Nat) : Recording μ η :=
  fun layer w =>
    match Device.geometry device >>= (leadingFrames · buffer frames) with
    | .error e => (.error e, layer, w)
    | .ok data => record data frames layer w

/-- Records the first `frames` frames of one buffer per channel. -/
def recordPlanar (buffers : Array Bytes) (device : δ) (frames : Nat) : Recording μ η :=
  fun layer w =>
    match Device.geometry device with
    | .error e => (.error e, layer, w)
    | .ok g =>
      match (ChannelAreas.planar buffers g).copyInterleaved g 0 frames with
      | .error e => (.error (.area e), layer, w)
      | .ok data => record data frames layer w

/-- Records one span of the mapped ring. -/
def recordSpan (ring : MappedRing) (g : FrameGeometry) (span : RingSpan)
    (state : Layer η × World μ) : Except StreamError Unit × Layer η × World μ :=
  let (layer, w) := state
  let w := w.report (.ringSpan span.offset span.frames)
  match ring.copyInterleaved g span.offset span.frames with
  | .error e => (.error (.area e), layer, w)
  | .ok data => record data span.frames layer w

/-- Records `frames` frames of the mapped ring from the stream position `position` on, one write for
each contiguous span. -/
def recordCommit (position : Nat) (device : δ) (frames : Nat) : Recording μ η :=
  fun layer w =>
    match Device.setup device with
    | .error e => (.error e, layer, w)
    | .ok s =>
      if s.bufferSize = 0 then (.error (.invalidArgument .emptyRing), layer, w)
      else
        match Device.mappedRing device with
        | .error e => (.error e, layer, w)
        | .ok ring =>
          ((RingCursor.ofPosition position s.bufferSize).split frames).walk
            (recordSpan ring s.geometry) (layer, w)

/-- Moves the sink back by `frames` frames and counts them. -/
def recordRewind (device : δ) (frames : Nat) : Recording μ η := fun layer w =>
  match Device.geometry device with
  | .error e => (.error e, layer, w)
  | .ok g =>
    match g.framesToBytes? frames with
    | none => (.error (.invalidArgument (.frameOverflow frames)), layer, w)
    | some bytes =>
      match layer.sink.seekBack bytes w with
      | (.error e, w) => (.error (.sink e), layer, w)
      | (.ok _, w) =>
        let stats :=
          { layer.stats with framesRewound := layer.stats.framesRewound + frames }
        (.ok (), { layer with stats }, w.report (.sinkRewound frames bytes))

end Layer

end FrameTee
