import FrameTee.Area.Mapped
import FrameTee.Proofs.Area.Strided
import FrameTee.Proofs.Bytes

/-!
# Copies that stay inside

A blit reads zeros behind the end of its source and leaves out what lies behind the end of its
destination. The copies here do neither: each sample is taken as a slice of its source and put over
a slice of the same size of its destination, all places are counts, and there is room for what is
built. If one of this fails, there is no outcome. It never does, as long as there is room:
flattening frames (`ChannelAreas.copyInterleaved?_eq_some`) and storing them in a ring
(`MappedRing.storeInterleaved?_eq_some`) go the same with these checks as without, whether they
succeed or not.
-/

namespace FrameTee

namespace Bytes

variable {src src' dst : Bytes} {origin origin' start stop count : Nat}

/-- A sequence of `count` zero bytes, if there is room for it. -/
def zeros? (count : Nat) : Option Bytes :=
  if count ≤ maxSize then some (zeros count) else none

theorem zeros?_eq_some (h : count ≤ maxSize) : zeros? count = some (zeros count) :=
  if_pos h

/-- Puts `src` over the bytes of `dst` from `start` up to `stop`, if `dst` has these and they are as
many as those of `src`. -/
def replace? (src dst : Bytes) (start stop : Nat) : Option Bytes :=
  if start ≤ stop ∧ stop ≤ dst.size ∧ src.size = stop - start then
    some (blit src 0 dst start src.size)
  else none

theorem replace?_eq_some (hstart : start ≤ stop) (hstop : stop ≤ dst.size)
    (hsize : src.size = stop - start) :
    replace? src dst start stop = some (blit src 0 dst start src.size) :=
  if_pos ⟨hstart, hstop, hsize⟩

theorem slice?_eq_some (hstart : start ≤ stop) (hstop : stop ≤ src.size) :
    src.slice? start stop = some (src.extract start stop) :=
  if_pos ⟨hstart, hstop⟩

/-- Only the bytes that are copied matter. -/
theorem blit_congr (h : ∀ i < count, src.getD (origin + i) 0 = src'.getD (origin' + i) 0) :
    blit src origin dst start count = blit src' origin' dst start count := by
  apply Array.ext_getElem?
  intro i
  rw [getElem?_blit, getElem?_blit]
  split
  · rename_i hi
    rw [h (i - start) (by omega)]
  · rfl

/-- A slice is put where there is room for it. -/
theorem replace?_extract (horigin : origin + count ≤ src.size) (hstart : start + count ≤ dst.size) :
    replace? (src.extract origin (origin + count)) dst start (start + count) =
      some (blit src origin dst start count) := by
  have hsize : (src.extract origin (origin + count)).size = count := by
    rw [Array.size_extract, Nat.min_eq_left horigin, Nat.add_sub_cancel_left]
  rw [replace?_eq_some (Nat.le_add_right _ _) hstart (by rw [hsize, Nat.add_sub_cancel_left]),
    hsize]
  congr 1
  apply blit_congr
  intro i hi
  rw [getD_extract (by omega) horigin, Nat.zero_add]

end Bytes

theorem Memory.getD_extract {m : Memory} {start stop i : Nat} (hi : i < stop - start) :
    (m.extract start stop).getD i 0 = m.get (start + i) := by
  simp [Memory.extract, hi]

/-- Only the bytes that are copied matter. -/
theorem Memory.blit_congr {src src' : Bytes} {origin origin' start count : Nat} {m : Memory}
    (h : ∀ i < count, src.getD (origin + i) 0 = src'.getD (origin' + i) 0) :
    Memory.blit src origin m start count = Memory.blit src' origin' m start count := by
  induction count generalizing origin origin' start m with
  | zero => rfl
  | succ count ih =>
      have hfirst : src.getD origin 0 = src'.getD origin' 0 := h 0 (Nat.zero_lt_succ _)
      rw [Memory.blit, Memory.blit, hfirst]
      apply ih
      intro i hi
      rw [Nat.add_assoc, Nat.add_assoc, Nat.add_comm 1 i]
      exact h (i + 1) (Nat.succ_lt_succ hi)

namespace FrameGeometry

variable {g : FrameGeometry} {frame frames channel : Nat}

/-- Where the sample of a channel starts and ends among interleaved frames, if all sums and products
on the way are counts. -/
def sampleRange? (g : FrameGeometry) (frame channel : Nat) : Option (Nat × Nat) := do
  let before ← Count.mul? frame g.frameBytes
  let within ← Count.mul? channel g.sampleBytes
  let start ← Count.add? before within
  let stop ← Count.add? start g.sampleBytes
  some (start, stop)

/-- The sample of a frame ends where the frames end, or before. -/
theorem sample_le (g : FrameGeometry) (hframe : frame < frames)
    (hchannel : channel < g.channelCount) :
    frame * g.frameBytes + channel * g.sampleBytes + g.sampleBytes ≤ frames * g.frameBytes := by
  rw [← AreaLayout.address_interleaved]
  exact AreaLayout.address_interleaved_le hchannel hframe

/-- Among frames whose bytes can be counted, every sample has its place. -/
theorem sampleRange?_eq_some (hframe : frame < frames) (hchannel : channel < g.channelCount)
    (hlt : frames * g.frameBytes < Count.limit) :
    g.sampleRange? frame channel = some (frame * g.frameBytes + channel * g.sampleBytes,
      frame * g.frameBytes + channel * g.sampleBytes + g.sampleBytes) := by
  have hstop := g.sample_le hframe hchannel
  rw [sampleRange?, Count.mul?_eq_some (by omega), Option.bind_eq_bind, Option.bind_some,
    Count.mul?_eq_some (by omega), Option.bind_some, Count.add?_eq_some (by omega),
    Option.bind_some, Count.add?_eq_some (by omega), Option.bind_some]

end FrameGeometry

namespace ChannelAreas

variable {a : ChannelAreas} {g : FrameGeometry} {offset frames total frame count channel : Nat}
  {area : ChannelArea} {flat : Bytes}

/-- Flattens the samples of one channel into `flat`, each taken and put as a slice. -/
def copyChannel? (a : ChannelAreas) (g : FrameGeometry) (offset channel : Nat)
    (area : ChannelArea) : (frame count : Nat) → Bytes → Option (Except AreaError Bytes)
  | _, 0, flat => some (.ok flat)
  | frame, count + 1, flat =>
    match a.checkSample g offset channel area frame with
    | .error e => some (.error e)
    | .ok start => do
      let sample ← (a.memory area).slice? start (start + g.sampleBytes)
      let (origin, stop) ← g.sampleRange? frame channel
      let flat ← Bytes.replace? sample flat origin stop
      copyChannel? a g offset channel area (frame + 1) count flat

/-- Flattens the samples of the channels from `channel` on into `flat`. -/
def copyChannels? (a : ChannelAreas) (g : FrameGeometry) (offset frames : Nat) :
    (channel : Nat) → List ChannelArea → Bytes → Option (Except AreaError Bytes)
  | _, [], flat => some (.ok flat)
  | channel, area :: areas, flat =>
    match a.copyChannel? g offset channel area 0 frames flat with
    | none => none
    | some (.error e) => some (.error e)
    | some (.ok flat) => copyChannels? a g offset frames (channel + 1) areas flat

/-- Takes the slice of an interleaved buffer that ends with the frames and has `total` bytes. -/
def sliceInterleaved? (buffer : Memory) (offset frames total : Nat) (g : FrameGeometry) :
    Option (Except AreaError Bytes) :=
  match Count.add? offset frames >>= g.framesToBytes? with
  | none => some (.error (.frameOverflow (Count.addSat offset frames)))
  | some stop => do
    let start ← Count.sub? stop total
    match buffer.slice? start stop with
    | none => some (.error (.shortBuffer stop buffer.size))
    | some data => some (.ok data)

/-- Flattens frames into interleaved bytes, sample by sample into zeros if the areas are not one
interleaved buffer. -/
def copyInterleaved? (a : ChannelAreas) (g : FrameGeometry) (offset frames : Nat) :
    Option (Except AreaError Bytes) :=
  if a.areas.size ≠ g.channelCount then
    some (.error (.channelMismatch g.channelCount a.areas.size))
  else
    match g.framesToBytes? frames with
    | none => some (.error (.frameOverflow frames))
    | some total =>
      match a.asInterleaved? g with
      | some buffer => sliceInterleaved? buffer offset frames total g
      | none => do
        let flat ← Bytes.zeros? total
        a.copyChannels? g offset frames 0 a.areas.toList flat

/-- The samples before a frame of a channel have been flattened: those of the channels before, and
those of the frames before. -/
structure Flattened (a : ChannelAreas) (g : FrameGeometry) (offset frames channel frame : Nat)
    (flat : Bytes) : Prop where
  /-- There is room for all frames. -/
  size : flat.size = frames * g.frameBytes
  /-- The bytes of these samples are in place. -/
  byte : ∀ i < frames * g.frameBytes, i % g.frameBytes / g.sampleBytes < channel ∨
    i % g.frameBytes / g.sampleBytes = channel ∧ i / g.frameBytes < frame →
      flat[i]? = some (a.interleavedByte g offset i)

namespace Flattened

/-- All channels before the next one are all channels before this one, and all frames of this
one. -/
theorem next (h : a.Flattened g offset frames channel frames flat) :
    a.Flattened g offset frames (channel + 1) 0 flat := by
  refine ⟨h.size, ?_⟩
  intro i hi hbefore
  obtain hlt | ⟨-, hzero⟩ := hbefore
  · have hframe : i / g.frameBytes < frames :=
      Nat.div_lt_of_lt_mul (by rwa [Nat.mul_comm])
    apply h.byte i hi
    omega
  · exact absurd hzero (Nat.not_lt_zero _)

/-- Where all channels have been flattened, all frames have. -/
theorem eq_flatten (h : a.Flattened g offset frames g.channelCount 0 flat) :
    flat = a.flatten g offset frames := by
  apply Array.ext_getElem?
  intro i
  by_cases hi : i < frames * g.frameBytes
  · have hpos : 0 < g.frameBytes := Nat.pos_of_ne_zero fun hzero => by simp [hzero] at hi
    rw [getElem?_flatten hi]
    exact h.byte i hi (.inl (g.channel_lt (Nat.mod_lt i hpos)))
  · rw [Array.getElem?_eq_none (by rw [h.size]; omega),
      Array.getElem?_eq_none (by rw [size_flatten]; omega)]

/-- A sample is taken from inside the memory of its area and put in its place among the frames. -/
theorem step (h : a.Flattened g offset frames channel frame flat) (hframe : frame < frames)
    (hchannel : channel < g.channelCount) (harea : a.areas[channel]? = some area) {start : Nat}
    (hstart : a.checkSample g offset channel area frame = .ok start) :
    ∃ sample flat', (a.memory area).slice? start (start + g.sampleBytes) = some sample ∧
      Bytes.replace? sample flat (frame * g.frameBytes + channel * g.sampleBytes)
        (frame * g.frameBytes + channel * g.sampleBytes + g.sampleBytes) = some flat' ∧
      a.Flattened g offset frames channel (frame + 1) flat' := by
  obtain ⟨⟨-, -, hinside⟩, rfl⟩ :=
    (AreaLayout.sampleStart_addSat_eq_ok_iff g.sampleBytes_pos).mp hstart
  have hstop := g.sample_le hframe hchannel
  have hsample : ((a.memory area).extract (area.layout.address (offset + frame))
      (area.layout.address (offset + frame) + g.sampleBytes)).size = g.sampleBytes := by
    rw [Memory.size_extract, Nat.add_sub_cancel_left]
  refine ⟨_, _, if_pos ⟨Nat.le_add_right _ _, hinside⟩,
    Bytes.replace?_eq_some (Nat.le_add_right _ _) (by rwa [h.size])
      (by rw [hsample, Nat.add_sub_cancel_left]), ?_⟩
  refine ⟨by rw [Bytes.size_blit, h.size], ?_⟩
  intro i hi hbefore
  rw [Bytes.getElem?_blit, hsample, h.size]
  have hbyte := g.byte_eq i
  have hwithin := Nat.mod_lt (i % g.frameBytes) g.sampleBytes_pos
  split
  · -- The byte belongs to the sample that is put in place.
    rename_i hin
    obtain ⟨hd, hc, hr⟩ := g.sample_of_byte (Nat.zero_lt_of_lt hchannel) frame hchannel
      (i := i - (frame * g.frameBytes + channel * g.sampleBytes)) (by omega)
    rw [Nat.add_sub_cancel' hin.1] at hd hc hr
    have hget : i - (frame * g.frameBytes + channel * g.sampleBytes) < g.sampleBytes := by omega
    simp only [interleavedByte, hc, harea, hd, hr]
    rw [Nat.zero_add, Memory.getD_extract (by omega)]
  · rename_i hout
    apply h.byte i hi
    obtain hlt | ⟨hc, hd⟩ := hbefore
    · exact .inl hlt
    · refine .inr ⟨hc, Nat.lt_of_le_of_ne (Nat.le_of_lt_succ hd) ?_⟩
      intro heq
      rw [hc, heq] at hbyte
      omega

end Flattened

/-- The samples of a channel are flattened up to the first one that cannot be read. -/
theorem copyChannel?_cases (h : a.Flattened g offset frames channel frame flat)
    (hlt : frames * g.frameBytes < Count.limit) (hcount : frame + count = frames)
    (hchannel : channel < g.channelCount) (harea : a.areas[channel]? = some area) :
    (∃ e, firstFault (a.checkSample g offset channel area) frame count = some e ∧
        a.copyChannel? g offset channel area frame count flat = some (.error e)) ∨
      firstFault (a.checkSample g offset channel area) frame count = none ∧
        ∃ flat', a.copyChannel? g offset channel area frame count flat = some (.ok flat') ∧
          a.Flattened g offset frames channel frames flat' := by
  induction count generalizing frame flat with
  | zero =>
      obtain rfl : frame = frames := by omega
      exact .inr ⟨rfl, flat, rfl, h⟩
  | succ count ih =>
      rw [firstFault, copyChannel?]
      cases hcheck : a.checkSample g offset channel area frame with
      | error e => exact .inl ⟨e, rfl, rfl⟩
      | ok start =>
          have hframe : frame < frames := by omega
          obtain ⟨sample, next, hsample, hreplace, hnext⟩ :=
            h.step hframe hchannel harea hcheck
          simp only [hsample, FrameGeometry.sampleRange?_eq_some hframe hchannel hlt, hreplace,
            Option.bind_eq_bind, Option.bind_some]
          exact ih hnext (by omega)

/-- The samples of the channels are flattened up to the first one that cannot be read. -/
theorem copyChannels?_cases {areas : List ChannelArea}
    (h : a.Flattened g offset frames channel 0 flat) (hlt : frames * g.frameBytes < Count.limit)
    (hchannels : channel + areas.length = g.channelCount)
    (hareas : ∀ (i : Nat) (area : ChannelArea), areas[i]? = some area →
      a.areas[channel + i]? = some area) :
    let search : ChannelArea × Nat → Option AreaError := fun (area, channel) =>
      firstFault (a.checkSample g offset channel area) 0 frames
    (∃ e, (areas.zipIdx channel).findSome? search = some e ∧
        a.copyChannels? g offset frames channel areas flat = some (.error e)) ∨
      (areas.zipIdx channel).findSome? search = none ∧
        ∃ flat', a.copyChannels? g offset frames channel areas flat = some (.ok flat') ∧
          a.Flattened g offset frames g.channelCount 0 flat' := by
  intro search
  induction areas generalizing channel flat with
  | nil =>
      obtain rfl : channel = g.channelCount := hchannels
      exact .inr ⟨rfl, flat, rfl, h⟩
  | cons area areas ih =>
      rw [List.length_cons] at hchannels
      rw [List.zipIdx_cons, List.findSome?_cons, copyChannels?]
      obtain ⟨e, hfault, hcopy⟩ | ⟨hfault, next, hcopy, hnext⟩ :=
        copyChannel?_cases h hlt (Nat.zero_add frames) (by omega) (hareas 0 area rfl)
      · have hsearch : search (area, channel) = some e := hfault
        rw [hsearch, hcopy]
        exact .inl ⟨e, rfl, rfl⟩
      · have hsearch : search (area, channel) = none := hfault
        rw [hsearch, hcopy]
        apply ih hnext.next (by omega)
        intro i other hother
        have hindex : channel + 1 + i = channel + (i + 1) := by omega
        rw [hindex]
        exact hareas (i + 1) other hother

/-- Flattening sample by sample takes every sample from inside its memory and finds a place for
it. -/
theorem copyChannels?_eq_some (a : ChannelAreas) (g : FrameGeometry) (offset frames : Nat)
    (hareas : a.areas.size = g.channelCount) (hroom : frames * g.frameBytes ≤ Bytes.maxSize) :
    a.copyChannels? g offset frames 0 a.areas.toList (.zeros (frames * g.frameBytes)) =
      some (a.copySamples g offset frames (frames * g.frameBytes)) := by
  have hlt := Nat.lt_of_le_of_lt hroom Bytes.maxSize_lt
  have hstart : a.Flattened g offset frames 0 0 (.zeros (frames * g.frameBytes)) := by
    refine ⟨Array.size_replicate, ?_⟩
    intro i hi hbefore
    obtain hzero | ⟨-, hzero⟩ := hbefore <;> exact absurd hzero (Nat.not_lt_zero _)
  have hlength : 0 + a.areas.toList.length = g.channelCount := by
    rw [Array.length_toList, hareas, Nat.zero_add]
  have hcases := copyChannels?_cases hstart hlt hlength
    fun i area harea => by rwa [Nat.zero_add, ← Array.getElem?_toList]
  rw [copySamples, if_neg (Nat.not_lt.mpr hroom), findFault?]
  obtain ⟨e, hfault, hcopy⟩ | ⟨hfault, flat, hcopy, hflat⟩ := hcases
  · rw [hfault, hcopy]
  · rw [hfault, hcopy, hflat.eq_flatten]
    rfl

/-- Flattening frames for which there is room computes with counts only and takes all slices from
inside. -/
theorem copyInterleaved?_eq_some (a : ChannelAreas) (g : FrameGeometry) (offset : Nat)
    {frames : Nat} (hroom : a.HasRoom g frames) :
    a.copyInterleaved? g offset frames = some (a.copyInterleaved g offset frames) := by
  unfold copyInterleaved? copyInterleaved
  split
  · rfl
  · rename_i hareas
    cases htotal : g.framesToBytes? frames with
    | none => rfl
    | some total =>
        obtain ⟨rfl, hlt⟩ := Count.mul?_eq_some_iff.mp htotal
        dsimp only
        cases hstrided : a.asInterleaved? g with
        | none =>
            dsimp only
            rw [Bytes.zeros?_eq_some (hroom hstrided), Option.bind_eq_bind, Option.bind_some]
            exact a.copyChannels?_eq_some g offset frames (Decidable.not_not.mp hareas)
              (hroom hstrided)
        | some buffer =>
            dsimp only [sliceInterleaved?, sliceInterleaved]
            cases hstop : Count.add? offset frames >>= g.framesToBytes? with
            | none => rfl
            | some stop =>
                obtain ⟨all, hall, hstop⟩ := Option.bind_eq_some_iff.mp hstop
                obtain ⟨rfl, -⟩ := Count.add?_eq_some_iff.mp hall
                obtain ⟨rfl, -⟩ := Count.mul?_eq_some_iff.mp hstop
                dsimp only
                rw [Count.sub?_eq_some (Nat.mul_le_mul_right _ (Nat.le_add_left _ _)),
                  ← Nat.sub_mul, Nat.add_sub_cancel, Option.bind_eq_bind, Option.bind_some]
                cases buffer.slice? (offset * g.frameBytes) ((offset + frames) * g.frameBytes) <;>
                  rfl

end ChannelAreas

namespace MappedRing

variable {g : FrameGeometry} {src : Bytes} {offset channel frame count frames : Nat}
  {layout : AreaLayout}

/-- Stores the samples of one channel, each taken as a slice of `src`. -/
def storeChannel? (g : FrameGeometry) (src : Bytes) (offset channel : Nat) (layout : AreaLayout) :
    (frame count : Nat) → Memory → Option (Except AreaError Unit × Memory)
  | _, 0, data => some (.ok (), data)
  | frame, count + 1, data =>
    match layout.sampleStart channel (Count.addSat offset frame) g.sampleBytes data.size with
    | .error e => some (.error e, data)
    | .ok start => do
      let (origin, stop) ← g.sampleRange? frame channel
      let sample ← src.slice? origin stop
      storeChannel? g src offset channel layout (frame + 1) count
        (Memory.blit sample 0 data start sample.size)

/-- Stores the samples of the channels from `channel` on, each taken as a slice of `src`. -/
def storeChannels? (g : FrameGeometry) (src : Bytes) (offset frames : Nat) :
    (channel : Nat) → List AreaLayout → Memory → Option (Except AreaError Unit × Memory)
  | _, [], data => some (.ok (), data)
  | channel, layout :: layouts, data =>
    match storeChannel? g src offset channel layout 0 frames data with
    | none => none
    | some (.error e, data) => some (.error e, data)
    | some (.ok (), data) => storeChannels? g src offset frames (channel + 1) layouts data

/-- Scatters the whole frames of `src` into the ring, each sample taken as a slice of `src`. -/
def storeInterleaved? (ring : MappedRing) (g : FrameGeometry) (offset : Nat) (src : Bytes) :
    Option (Except AreaError Unit × Memory) :=
  if ring.layouts.size ≠ g.channelCount then
    some (.error (.channelMismatch g.channelCount ring.layouts.size), ring.data)
  else
    storeChannels? g src offset (g.bytesToFrames src.size) 0 ring.layouts.toList ring.data

section Counted

variable (hframes : frames * g.frameBytes ≤ src.size) (hlt : src.size < Count.limit)
include hframes hlt

theorem storeChannel?_eq_some (hchannel : channel < g.channelCount)
    (hcount : frame + count = frames) (data : Memory) :
    storeChannel? g src offset channel layout frame count data =
      some (storeChannel g src offset channel layout frame count data) := by
  induction count generalizing frame data with
  | zero => rfl
  | succ count ih =>
      rw [storeChannel?, storeChannel]
      cases layout.sampleStart channel (Count.addSat offset frame) g.sampleBytes data.size with
      | error e => rfl
      | ok start =>
          have hframe : frame < frames := by omega
          have hstop := g.sample_le hframe hchannel
          have hsample : (src.extract (frame * g.frameBytes + channel * g.sampleBytes)
              (frame * g.frameBytes + channel * g.sampleBytes + g.sampleBytes)).size =
                g.sampleBytes := by
            rw [Array.size_extract, Nat.min_eq_left (Nat.le_trans hstop hframes),
              Nat.add_sub_cancel_left]
          dsimp only
          rw [FrameGeometry.sampleRange?_eq_some hframe hchannel (Nat.lt_of_le_of_lt hframes hlt),
            Option.bind_eq_bind, Option.bind_some]
          dsimp only
          rw [Bytes.slice?_eq_some (Nat.le_add_right _ _) (Nat.le_trans hstop hframes),
            Option.bind_eq_bind, Option.bind_some, hsample, ih (by omega)]
          congr 2
          apply Memory.blit_congr
          intro i hi
          rw [Bytes.getD_extract (by omega) (Nat.le_trans hstop hframes), Nat.zero_add]

theorem storeChannels?_eq_some {layouts : List AreaLayout}
    (hchannels : channel + layouts.length ≤ g.channelCount) (data : Memory) :
    storeChannels? g src offset frames channel layouts data =
      some (storeChannels g src offset frames channel layouts data) := by
  induction layouts generalizing channel data with
  | nil => rfl
  | cons layout layouts ih =>
      rw [List.length_cons] at hchannels
      rw [storeChannels?, storeChannels,
        storeChannel?_eq_some hframes hlt (by omega) (Nat.zero_add _)]
      rcases storeChannel g src offset channel layout 0 frames data with ⟨e | ⟨⟩, data'⟩
      · rfl
      · exact ih (by omega) data'

end Counted

/-- Storing takes every sample from inside its source. -/
theorem storeInterleaved?_eq_some (ring : MappedRing) (g : FrameGeometry) (offset : Nat)
    {src : Bytes} (hlt : src.size < Count.limit) :
    ring.storeInterleaved? g offset src = some (ring.storeInterleaved g offset src) := by
  unfold storeInterleaved? storeInterleaved
  split
  · rfl
  · rename_i hlayouts
    apply storeChannels?_eq_some (g.bytesToFrames_mul_le src.size) hlt
    rw [Nat.zero_add, Array.length_toList]
    exact Nat.le_of_eq (Decidable.not_not.mp hlayouts)

end MappedRing

end FrameTee
