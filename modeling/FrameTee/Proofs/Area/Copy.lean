import FrameTee.Area.Copy

/-!
# Copies that succeed

`ChannelAreas.Contains` says that every sample of a range of frames lies inside the memory of its
channel. Under it a copy of frames to interleaved bytes succeeds, and both ways of copying give the
same bytes: the single slice of an interleaved buffer and the walk over the samples
(`ChannelAreas.Contains.copyInterleaved_eq_ok`). `ChannelAreas.Covers` adds that the bytes of the
range, counted from the first frame, can be counted, as they always can in the areas of a device.

Where the samples are copied one by one there has to be room for them (`ChannelAreas.HasRoom`). If
there is none, and only then, the copy has no answer
(`ChannelAreas.copyInterleaved_eq_capacityOverflow_iff`).
-/

namespace FrameTee

theorem Bytes.maxSize_lt : Bytes.maxSize < Count.limit := by
  decide

namespace FrameGeometry

variable (g : FrameGeometry)

theorem bitsPerSample_le : g.bitsPerSample ≤ 64 := by
  rw [bitsPerSample]
  cases g.format <;> decide

/-- Inside a frame every byte belongs to one of the channels. -/
theorem channel_lt {within : Nat} (h : within < g.frameBytes) :
    within / g.sampleBytes < g.channelCount := by
  rw [Nat.div_lt_iff_lt_mul g.sampleBytes_pos, ← g.frameBytes_eq]
  exact h

/-- A byte of the stream is a byte of a sample of a frame. -/
theorem byte_eq (i : Nat) :
    i / g.frameBytes * g.frameBytes + (i % g.frameBytes / g.sampleBytes * g.sampleBytes +
      i % g.frameBytes % g.sampleBytes) = i := by
  rw [Nat.div_add_mod', Nat.div_add_mod']

/-- The bytes of the samples of a frame lie before those of the next frame. -/
theorem byte_lt {frame frames channel byte : Nat} (hframe : frame < frames)
    (hchannel : channel < g.channelCount) (hbyte : byte < g.sampleBytes) :
    frame * g.frameBytes + channel * g.sampleBytes + byte < frames * g.frameBytes := by
  have hsample : (channel + 1) * g.sampleBytes ≤ g.frameBytes := by
    rw [g.frameBytes_eq]
    exact Nat.mul_le_mul_right _ hchannel
  have hnext : (frame + 1) * g.frameBytes ≤ frames * g.frameBytes := Nat.mul_le_mul_right _ hframe
  rw [Nat.add_mul, Nat.one_mul] at hsample hnext
  omega

/-- Byte `i` after the start of frame `offset` has the same place in its frame. -/
theorem add_mod_frameBytes (offset i : Nat) :
    (offset * g.frameBytes + i) % g.frameBytes = i % g.frameBytes :=
  Nat.mul_add_mod_self_right _ _ _

/-- Byte `i` after the start of frame `offset` lies that many frames further on. -/
theorem add_div_frameBytes (h : 0 < g.frameBytes) (offset i : Nat) :
    (offset * g.frameBytes + i) / g.frameBytes = offset + i / g.frameBytes := by
  rw [Nat.add_comm, Nat.add_mul_div_right _ _ h, Nat.add_comm]

theorem frameBytes_pos (h : 0 < g.channelCount) : 0 < g.frameBytes := by
  rw [frameBytes_eq]
  exact Nat.mul_pos h g.sampleBytes_pos

/-- Where a byte of a sample of a frame is found again. -/
theorem sample_of_byte (hpos : 0 < g.channelCount) (frame : Nat) {c i : Nat}
    (hc : c < g.channelCount) (hi : i < g.sampleBytes) :
    (frame * g.frameBytes + c * g.sampleBytes + i) / g.frameBytes = frame ∧
      (frame * g.frameBytes + c * g.sampleBytes + i) % g.frameBytes / g.sampleBytes = c ∧
      (frame * g.frameBytes + c * g.sampleBytes + i) % g.frameBytes % g.sampleBytes = i := by
  have hwithin : c * g.sampleBytes + i < g.frameBytes := by
    have hbyte := g.byte_lt Nat.one_pos hc hi
    rwa [Nat.zero_mul, Nat.zero_add, Nat.one_mul] at hbyte
  rw [Nat.add_assoc, g.add_mod_frameBytes, g.add_div_frameBytes (g.frameBytes_pos hpos),
    Nat.mod_eq_of_lt hwithin, Nat.div_eq_of_lt hwithin]
  refine ⟨Nat.add_zero frame, ?_, ?_⟩
  · rw [Nat.add_comm, Nat.add_mul_div_right _ _ g.sampleBytes_pos, Nat.div_eq_of_lt hi,
      Nat.zero_add]
  · rw [Nat.mul_add_mod', Nat.mod_eq_of_lt hi]

theorem framesToBytes?_eq_some {frames : Nat} (h : frames * g.frameBytes < Count.limit) :
    g.framesToBytes? frames = some (frames * g.frameBytes) :=
  Count.mul?_eq_some_iff.mpr ⟨rfl, h⟩

theorem bytesToFrames_mul (h : 0 < g.channelCount) (frames : Nat) :
    g.bytesToFrames (frames * g.frameBytes) = frames :=
  Nat.mul_div_cancel _ (g.frameBytes_pos h)

theorem bytesToFrames_mul_le (bytes : Nat) :
    g.bytesToFrames bytes * g.frameBytes ≤ bytes :=
  Nat.div_mul_le_self bytes g.frameBytes

/-- Whole frames of some bytes take no more bytes than there are. -/
theorem bytes_le_of_le_bytesToFrames {bytes frames : Nat} (h : frames ≤ g.bytesToFrames bytes) :
    frames * g.frameBytes ≤ bytes :=
  Nat.le_trans (Nat.mul_le_mul_right _ h) (g.bytesToFrames_mul_le bytes)

theorem bytesToFrames_le {bytes frames : Nat} (h : bytes ≤ frames * g.frameBytes) :
    g.bytesToFrames bytes ≤ frames :=
  Nat.div_le_of_le_mul (by rwa [Nat.mul_comm])

end FrameGeometry

namespace AreaLayout

/-- In interleaved frames the samples of a frame follow one another. -/
theorem address_interleaved (channel frame : Nat) (g : FrameGeometry) :
    (interleaved channel g).address frame =
      frame * g.frameBytes + channel * g.sampleBytes := by
  have hfirst : channel * g.bitsPerSample / 8 = channel * g.sampleBytes := by
    rw [g.bitsPerSample_eq, Nat.mul_left_comm, Nat.mul_div_cancel_left _ (by decide)]
  rw [address, interleaved, FrameGeometry.frameBytes]
  simp only [hfirst]

/-- The samples of interleaved frames end where the frames end, or before. -/
theorem address_interleaved_le {channel frame frames : Nat} {g : FrameGeometry}
    (hchannel : channel < g.channelCount) (hframe : frame < frames) :
    (interleaved channel g).address frame + g.sampleBytes ≤ frames * g.frameBytes := by
  have hwidth := g.sampleBytes_pos
  have hlast := g.byte_lt hframe hchannel (Nat.sub_lt hwidth Nat.one_pos)
  rw [address_interleaved]
  omega

/-- The last sample of the last frame ends where the frames end. -/
theorem address_interleaved_last {offset frames : Nat} {g : FrameGeometry}
    (hpos : 0 < g.channelCount) (hframes : 0 < frames) :
    (interleaved (g.channelCount - 1) g).address (offset + (frames - 1)) + g.sampleBytes =
      (offset + frames) * g.frameBytes := by
  have hchannels : (g.channelCount - 1) * g.sampleBytes + g.sampleBytes = g.frameBytes := by
    rw [g.frameBytes_eq, ← Nat.succ_mul, Nat.succ_eq_add_one, Nat.sub_add_cancel hpos]
  have hlast : (offset + (frames - 1)) * g.frameBytes + g.frameBytes =
      (offset + frames) * g.frameBytes := by
    rw [← Nat.succ_mul]
    congr 1
    omega
  rw [address_interleaved]
  omega

theorem address_planar (channel blockFrames frame : Nat) (g : FrameGeometry) :
    (planar channel blockFrames g).address frame =
      (channel * blockFrames + frame) * g.sampleBytes := by
  have hfirst : channel * blockFrames * g.bitsPerSample / 8 =
      channel * blockFrames * g.sampleBytes := by
    rw [g.bitsPerSample_eq, Nat.mul_left_comm, Nat.mul_div_cancel_left _ (by decide)]
  rw [address, planar]
  simp only [hfirst]
  rw [Nat.add_mul, Nat.add_comm]
  rfl

theorem aligned_interleaved (channel : Nat) (g : FrameGeometry) :
    (interleaved channel g).Aligned := by
  have h := g.bitsPerSample_eq
  constructor
  · change channel * g.bitsPerSample % 8 = 0
    rw [h, Nat.mul_left_comm, Nat.mul_mod_right]
  · change g.bitsPerSample * g.channelCount % 8 = 0
    rw [h, Nat.mul_assoc, Nat.mul_mod_right]

theorem aligned_planar (channel blockFrames : Nat) (g : FrameGeometry) :
    (planar channel blockFrames g).Aligned := by
  have h := g.bitsPerSample_eq
  constructor
  · change channel * blockFrames * g.bitsPerSample % 8 = 0
    rw [h, Nat.mul_left_comm, Nat.mul_mod_right]
  · change g.bitsPerSample % 8 = 0
    rw [h, Nat.mul_mod_right]

end AreaLayout

namespace ChannelAreas

variable {a : ChannelAreas} {g : FrameGeometry} {offset frames : Nat}

/-- There is room for the frames, if they are to be copied sample by sample. -/
def HasRoom (a : ChannelAreas) (g : FrameGeometry) (frames : Nat) : Prop :=
  a.asInterleaved? g = none → frames * g.frameBytes ≤ Bytes.maxSize

theorem HasRoom.of_le (h : frames * g.frameBytes ≤ Bytes.maxSize) : a.HasRoom g frames :=
  fun _ => h

/-- There is an area for every channel, and the samples of `frames` frames from frame `offset` on
lie inside the memory of their areas. -/
structure Covers (a : ChannelAreas) (g : FrameGeometry) (offset frames : Nat) : Prop where
  /-- There is one area per channel. -/
  areas_size : a.areas.size = g.channelCount
  /-- There is a channel. -/
  channels_pos : 0 < g.channelCount
  /-- The samples start at whole bytes. -/
  aligned : ∀ (channel : Nat) (area : ChannelArea), a.areas[channel]? = some area →
    area.layout.Aligned
  /-- The samples end inside the memory. -/
  inside : ∀ (channel : Nat) (area : ChannelArea), a.areas[channel]? = some area →
    ∀ frame < frames,
      area.layout.address (offset + frame) + g.sampleBytes ≤ (a.memory area).size
  /-- The samples end at byte counts. -/
  stop_lt : ∀ (channel : Nat) (area : ChannelArea), a.areas[channel]? = some area →
    ∀ frame < frames, area.layout.address (offset + frame) + g.sampleBytes < Count.limit
  /-- The last frame is a frame count and ends at a byte count. -/
  bytes_lt : (offset + frames) * g.frameBytes < Count.limit
  /-- There is room for the frames. -/
  room : a.HasRoom g frames

/-- There is an area for every channel, and the samples of `frames` frames from frame `offset` on
lie inside the memory of their areas, which may be anywhere in it. -/
structure Contains (a : ChannelAreas) (g : FrameGeometry) (offset frames : Nat) : Prop where
  /-- There is one area per channel. -/
  areas_size : a.areas.size = g.channelCount
  /-- There is a channel. -/
  channels_pos : 0 < g.channelCount
  /-- The samples start at whole bytes. -/
  aligned : ∀ (channel : Nat) (area : ChannelArea), a.areas[channel]? = some area →
    area.layout.Aligned
  /-- The samples end inside the memory. -/
  inside : ∀ (channel : Nat) (area : ChannelArea), a.areas[channel]? = some area →
    ∀ frame < frames,
      area.layout.address (offset + frame) + g.sampleBytes ≤ (a.memory area).size
  /-- The samples end at byte counts. -/
  stop_lt : ∀ (channel : Nat) (area : ChannelArea), a.areas[channel]? = some area →
    ∀ frame < frames, area.layout.address (offset + frame) + g.sampleBytes < Count.limit
  /-- The frames have frame counts for their numbers. -/
  frames_le : offset + frames ≤ Count.limit
  /-- The frames have a byte count. -/
  bytes_lt : frames * g.frameBytes < Count.limit
  /-- There is room for the frames. -/
  room : a.HasRoom g frames

theorem Covers.frames_lt (h : a.Covers g offset frames) : offset + frames < Count.limit := by
  have hpos := g.frameBytes_pos h.channels_pos
  exact Nat.lt_of_le_of_lt (Nat.le_mul_of_pos_right _ hpos) h.bytes_lt

theorem Covers.contains (h : a.Covers g offset frames) : a.Contains g offset frames where
  areas_size := h.areas_size
  channels_pos := h.channels_pos
  aligned := h.aligned
  inside := h.inside
  stop_lt := h.stop_lt
  frames_le := Nat.le_of_lt h.frames_lt
  bytes_lt := Nat.lt_of_le_of_lt (Nat.mul_le_mul_right _ (Nat.le_add_left _ _)) h.bytes_lt
  room := h.room

theorem Contains.checkSample_eq_ok (h : a.Contains g offset frames) {channel : Nat}
    {area : ChannelArea} (harea : a.areas[channel]? = some area) {frame : Nat}
    (hframe : frame < frames) :
    a.checkSample g offset channel area frame = .ok (area.layout.address (offset + frame)) := by
  have hinside := h.inside channel area harea frame hframe
  have hstop := h.stop_lt channel area harea frame hframe
  have hframes := h.frames_le
  rw [checkSample, Count.addSat_eq_of_lt (by omega), AreaLayout.sampleStart_eq_ok_iff]
  exact ⟨h.aligned channel area harea, rfl, by omega, by omega, hinside⟩

theorem firstFault_eq_none {check : Nat → Except AreaError Nat} {frame count : Nat}
    (h : ∀ i < count, ∃ start, check (frame + i) = .ok start) :
    firstFault check frame count = none := by
  induction count generalizing frame with
  | zero => rfl
  | succ count ih =>
      obtain ⟨start, hstart⟩ := h 0 (Nat.succ_pos _)
      rw [Nat.add_zero] at hstart
      rw [firstFault, hstart]
      apply ih
      intro i hi
      obtain ⟨next, hnext⟩ := h (i + 1) (Nat.succ_lt_succ hi)
      exact ⟨next, by rw [← hnext]; congr 1; omega⟩

theorem Contains.findFault?_eq_none (h : a.Contains g offset frames) :
    a.findFault? g offset frames = none := by
  rw [findFault?, List.findSome?_eq_none_iff]
  rintro ⟨area, channel⟩ hmem
  have harea : a.areas[channel]? = some area := by
    rw [List.mem_zipIdx_iff_getElem?] at hmem
    simpa using hmem
  apply firstFault_eq_none
  intro frame hframe
  rw [Nat.zero_add]
  exact ⟨_, h.checkSample_eq_ok harea hframe⟩

theorem exists_ok_of_firstFault_eq_none {check : Nat → Except AreaError Nat} {frame count : Nat}
    (h : firstFault check frame count = none) {i : Nat} (hi : i < count) :
    ∃ start, check (frame + i) = .ok start := by
  induction count generalizing frame i with
  | zero => exact absurd hi (Nat.not_lt_zero i)
  | succ count ih =>
      rw [firstFault] at h
      split at h
      · cases h
      · rename_i start hstart
        cases i with
        | zero => exact ⟨start, hstart⟩
        | succ i =>
            obtain ⟨next, hnext⟩ := ih h (Nat.lt_of_succ_lt_succ hi)
            exact ⟨next, by rw [← hnext]; congr 1; omega⟩

/-- Where no sample is at fault, every sample can be read. -/
theorem exists_checkSample_eq_ok (h : a.findFault? g offset frames = none) {channel : Nat}
    {area : ChannelArea} (harea : a.areas[channel]? = some area) {frame : Nat}
    (hframe : frame < frames) : ∃ start, a.checkSample g offset channel area frame = .ok start := by
  rw [findFault?, List.findSome?_eq_none_iff] at h
  have hmem : (area, channel) ∈ a.areas.toList.zipIdx := by
    rw [List.mem_zipIdx_iff_getElem?]
    simpa using harea
  obtain ⟨start, hstart⟩ := exists_ok_of_firstFault_eq_none (h _ hmem) hframe
  rw [Nat.zero_add] at hstart
  exact ⟨start, hstart⟩

theorem channel_lt_of_getElem? (hareas : a.areas.size = g.channelCount) {channel : Nat}
    {area : ChannelArea} (harea : a.areas[channel]? = some area) : channel < g.channelCount := by
  rw [← hareas]
  exact (Array.getElem?_eq_some_iff.mp harea).1

/-- What it takes for areas to be one interleaved buffer. -/
theorem eq_interleaved_of_asInterleaved? {buffer : Memory} (h : a.asInterleaved? g = some buffer)
    {channel : Nat} {area : ChannelArea} (harea : a.areas[channel]? = some area) :
    a.memory area = buffer ∧ area.layout = AreaLayout.interleaved channel g := by
  simp only [asInterleaved?] at h
  split at h
  · cases h
  · rename_i first hfirst
    split at h
    · rename_i hall
      rw [List.all_eq_true] at hall
      have hmem : (area, channel) ∈ a.areas.toList.zipIdx := by
        rw [List.mem_zipIdx_iff_getElem?]
        simpa using harea
      have heq := hall _ hmem
      simp only [Bool.and_eq_true, beq_iff_eq] at heq
      cases h
      exact ⟨by rw [memory, memory, heq.1], heq.2⟩
    · cases h

/-- The bytes of a range of frames, sample by sample. -/
def flatten (a : ChannelAreas) (g : FrameGeometry) (offset frames : Nat) : Bytes :=
  Array.ofFn fun i : Fin (frames * g.frameBytes) => a.interleavedByte g offset i

@[simp] theorem size_flatten : (a.flatten g offset frames).size = frames * g.frameBytes := by
  simp [flatten]

theorem getElem?_flatten {i : Nat} (hi : i < frames * g.frameBytes) :
    (a.flatten g offset frames)[i]? = some (a.interleavedByte g offset i) := by
  simp [flatten, hi]

/-- In one interleaved buffer the bytes of the frames lie next to one another. -/
theorem interleavedByte_eq_get (hareas : a.areas.size = g.channelCount) (hpos : 0 < g.channelCount)
    {buffer : Memory} (h : a.asInterleaved? g = some buffer) (i : Nat) :
    a.interleavedByte g offset i = buffer.get (offset * g.frameBytes + i) := by
  have hlt : i % g.frameBytes / g.sampleBytes < a.areas.size := by
    rw [hareas]
    exact g.channel_lt (Nat.mod_lt _ (g.frameBytes_pos hpos))
  have harea : a.areas[i % g.frameBytes / g.sampleBytes]? =
      some a.areas[i % g.frameBytes / g.sampleBytes] := Array.getElem?_eq_getElem hlt
  obtain ⟨hmemory, hlayout⟩ := eq_interleaved_of_asInterleaved? h harea
  have hbyte := g.byte_eq i
  simp only [interleavedByte, harea, hmemory, hlayout, AreaLayout.address_interleaved]
  congr 1
  rw [Nat.add_mul]
  omega

theorem sliceInterleaved_eq_ok {buffer : Memory}
    (hlt : (offset + frames) * g.frameBytes < Count.limit)
    (hframes : offset + frames < Count.limit)
    (hsize : (offset + frames) * g.frameBytes ≤ buffer.size) :
    sliceInterleaved buffer offset frames g =
      .ok (buffer.extract (offset * g.frameBytes) ((offset + frames) * g.frameBytes)) := by
  have hadd : Count.add? offset frames = some (offset + frames) :=
    Count.add?_eq_some_iff.mpr ⟨rfl, hframes⟩
  have hle : offset * g.frameBytes ≤ (offset + frames) * g.frameBytes :=
    Nat.mul_le_mul_right _ (Nat.le_add_right _ _)
  simp only [sliceInterleaved, hadd, Option.bind_eq_bind, Option.bind_some,
    g.framesToBytes?_eq_some hlt, Memory.slice?, hle, hsize, and_self, if_true]

/-- A slice of one interleaved buffer ends inside it. -/
theorem of_sliceInterleaved_eq_ok {buffer : Memory} {flat : Bytes}
    (h : sliceInterleaved buffer offset frames g = .ok flat) :
    (offset + frames) * g.frameBytes < Count.limit ∧
      (offset + frames) * g.frameBytes ≤ buffer.size ∧
      flat = buffer.extract (offset * g.frameBytes) ((offset + frames) * g.frameBytes) := by
  simp only [sliceInterleaved, Memory.slice?] at h
  split at h
  · cases h
  · rename_i stop hstop
    obtain ⟨sum, hsum, hstop⟩ := Option.bind_eq_some_iff.mp hstop
    obtain ⟨rfl, -⟩ := Count.add?_eq_some_iff.mp hsum
    obtain ⟨rfl, hlt⟩ := Count.mul?_eq_some_iff.mp hstop
    split at h
    · cases h
    · rename_i data hdata
      split at hdata
      · rename_i hinside
        cases hdata
        cases h
        exact ⟨hlt, hinside.2, rfl⟩
      · cases hdata

/-- The slice of one interleaved buffer holds the frames sample by sample. -/
theorem extract_eq_flatten (hareas : a.areas.size = g.channelCount) (hpos : 0 < g.channelCount)
    {buffer : Memory} (h : a.asInterleaved? g = some buffer) (offset frames : Nat) :
    buffer.extract (offset * g.frameBytes) ((offset + frames) * g.frameBytes) =
      a.flatten g offset frames := by
  ext i hi₁ hi₂ : 1
  · rw [Memory.size_extract, size_flatten, ← Nat.sub_mul, Nat.add_sub_cancel_left]
  · simp only [Memory.extract, flatten, Array.getElem_ofFn, interleavedByte_eq_get hareas hpos h]

namespace Contains

/-- In one interleaved buffer the last sample of the last frame ends where the frames end. -/
theorem bytes_le (h : a.Contains g offset frames) {buffer : Memory}
    (hbuffer : a.asInterleaved? g = some buffer) (hframes : 0 < frames) :
    (offset + frames) * g.frameBytes ≤ buffer.size ∧
      (offset + frames) * g.frameBytes < Count.limit := by
  have hlt : g.channelCount - 1 < a.areas.size := by
    have := h.areas_size
    have := h.channels_pos
    omega
  have harea : a.areas[g.channelCount - 1]? = some a.areas[g.channelCount - 1] :=
    Array.getElem?_eq_getElem hlt
  have hinside := h.inside _ _ harea (frames - 1) (by omega)
  have hstop := h.stop_lt _ _ harea (frames - 1) (by omega)
  obtain ⟨hmemory, hlayout⟩ := eq_interleaved_of_asInterleaved? hbuffer harea
  rw [hlayout, AreaLayout.address_interleaved_last h.channels_pos hframes] at hinside hstop
  rw [hmemory] at hinside
  exact ⟨hinside, hstop⟩

/-- A copy of frames that the areas contain succeeds, whichever way it goes, if it is not asked for
a slice that has no place. -/
theorem copyInterleaved_eq_ok_of_slice (h : a.Contains g offset frames)
    (hslice : ∀ buffer, a.asInterleaved? g = some buffer →
      (offset + frames) * g.frameBytes ≤ buffer.size ∧
        (offset + frames) * g.frameBytes < Count.limit) :
    a.copyInterleaved g offset frames = .ok (a.flatten g offset frames) := by
  have hareas : ¬ a.areas.size ≠ g.channelCount := not_not_intro h.areas_size
  simp only [copyInterleaved, if_neg hareas, g.framesToBytes?_eq_some h.bytes_lt]
  cases hbuffer : a.asInterleaved? g with
  | none =>
      simp only [copySamples, if_neg (Nat.not_lt.mpr (h.room hbuffer)), h.findFault?_eq_none]
      rfl
  | some buffer =>
      obtain ⟨hsize, hlt⟩ := hslice buffer hbuffer
      have hframes : offset + frames < Count.limit :=
        Nat.lt_of_le_of_lt (Nat.le_mul_of_pos_right _ (g.frameBytes_pos h.channels_pos)) hlt
      simp only [sliceInterleaved_eq_ok hlt hframes hsize,
        extract_eq_flatten h.areas_size h.channels_pos hbuffer]

/-- A copy of at least one frame that the areas contain succeeds. -/
theorem copyInterleaved_eq_ok (h : a.Contains g offset frames) (hframes : 0 < frames) :
    a.copyInterleaved g offset frames = .ok (a.flatten g offset frames) :=
  h.copyInterleaved_eq_ok_of_slice fun _ hbuffer => h.bytes_le hbuffer hframes

end Contains

section Converse

variable (hareas : a.areas.size = g.channelCount) (hpos : 0 < g.channelCount)
  (hle : offset + frames ≤ Count.limit) (hlt : frames * g.frameBytes < Count.limit)
  (hroom : a.HasRoom g frames)
include hareas hpos hle hlt hroom

/-- One interleaved buffer contains the frames that end inside it. -/
theorem contains_of_asInterleaved? {buffer : Memory} (hbuffer : a.asInterleaved? g = some buffer)
    (hstop : (offset + frames) * g.frameBytes < Count.limit)
    (hinside : (offset + frames) * g.frameBytes ≤ buffer.size) : a.Contains g offset frames := by
  have hsample : ∀ (channel : Nat) (area : ChannelArea), a.areas[channel]? = some area →
      ∀ frame < frames, area.layout.address (offset + frame) + g.sampleBytes ≤
        (offset + frames) * g.frameBytes := by
    intro channel area harea frame hframe
    have hchannel := channel_lt_of_getElem? hareas harea
    rw [(eq_interleaved_of_asInterleaved? hbuffer harea).2]
    exact AreaLayout.address_interleaved_le hchannel (Nat.add_lt_add_left hframe offset)
  refine ⟨hareas, hpos, ?_, ?_, ?_, hle, hlt, hroom⟩
  · intro channel area harea
    rw [(eq_interleaved_of_asInterleaved? hbuffer harea).2]
    exact AreaLayout.aligned_interleaved channel g
  · intro channel area harea frame hframe
    rw [(eq_interleaved_of_asInterleaved? hbuffer harea).1]
    exact Nat.le_trans (hsample channel area harea frame hframe) hinside
  · intro channel area harea frame hframe
    exact Nat.lt_of_le_of_lt (hsample channel area harea frame hframe) hstop

/-- Areas contain the frames all of whose samples can be read. -/
theorem contains_of_findFault? (hframes : 0 < frames)
    (hfault : a.findFault? g offset frames = none) : a.Contains g offset frames := by
  have hsample : ∀ (channel : Nat) (area : ChannelArea), a.areas[channel]? = some area →
      ∀ frame < frames, area.layout.Aligned ∧
        area.layout.address (offset + frame) + g.sampleBytes < Count.limit ∧
        area.layout.address (offset + frame) + g.sampleBytes ≤ (a.memory area).size := by
    intro channel area harea frame hframe
    obtain ⟨start, hstart⟩ := exists_checkSample_eq_ok hfault harea hframe
    rw [checkSample, Count.addSat_eq_of_lt (by omega)] at hstart
    obtain ⟨haligned, rfl, -, hstop, hinside⟩ := AreaLayout.sampleStart_eq_ok_iff.mp hstart
    exact ⟨haligned, hstop, hinside⟩
  refine ⟨hareas, hpos, ?_, ?_, ?_, hle, hlt, hroom⟩
  · intro channel area harea
    exact (hsample channel area harea 0 hframes).1
  · intro channel area harea frame hframe
    exact (hsample channel area harea frame hframe).2.2
  · intro channel area harea frame hframe
    exact (hsample channel area harea frame hframe).2.1

end Converse

/-- Sample by sample as many bytes are copied as there is room for. -/
theorem le_maxSize_of_copySamples_eq_ok {total : Nat} {flat : Bytes}
    (h : a.copySamples g offset frames total = .ok flat) : total ≤ Bytes.maxSize := by
  rw [copySamples] at h
  split at h
  · cases h
  · rename_i hroom
    exact Nat.not_lt.mp hroom

/-- What is known of the areas and of the count of bytes when a copy succeeds. -/
theorem bounds_of_copyInterleaved_eq_ok {flat : Bytes}
    (h : a.copyInterleaved g offset frames = .ok flat) :
    a.areas.size = g.channelCount ∧ frames * g.frameBytes < Count.limit ∧ a.HasRoom g frames := by
  rw [copyInterleaved] at h
  split at h
  · cases h
  · rename_i hareas
    split at h
    · cases h
    · rename_i total htotal
      obtain ⟨rfl, hlt⟩ := Count.mul?_eq_some_iff.mp htotal
      refine ⟨Decidable.not_not.mp hareas, hlt, ?_⟩
      intro hstrided
      rw [hstrided] at h
      exact le_maxSize_of_copySamples_eq_ok h

/-- A copy of at least one frame succeeds only if the areas contain the frames. -/
theorem contains_of_copyInterleaved_eq_ok {flat : Bytes}
    (h : a.copyInterleaved g offset frames = .ok flat) (hpos : 0 < g.channelCount)
    (hframes : 0 < frames) (hle : offset + frames ≤ Count.limit) :
    a.Contains g offset frames := by
  obtain ⟨hareas, hlt, hroom⟩ := bounds_of_copyInterleaved_eq_ok h
  simp only [copyInterleaved, if_neg (not_not_intro hareas), g.framesToBytes?_eq_some hlt] at h
  cases hbuffer : a.asInterleaved? g with
  | some buffer =>
      rw [hbuffer] at h
      obtain ⟨hstop, hinside, -⟩ := of_sliceInterleaved_eq_ok h
      exact contains_of_asInterleaved? hareas hpos hle hlt hroom hbuffer hstop hinside
  | none =>
      rw [hbuffer] at h
      cases hfault : a.findFault? g offset frames with
      | some e =>
          simp only [copySamples, if_neg (Nat.not_lt.mpr (hroom hbuffer)), hfault] at h
          cases h
      | none => exact contains_of_findFault? hareas hpos hle hlt hroom hframes hfault

/-- A copy of frames that the areas cover succeeds. Where there are none, a slice still has to start
inside its buffer. -/
theorem copyInterleaved_eq_ok (h : a.Covers g offset frames)
    (hstart : 0 < frames ∨
      ∀ buffer, a.asInterleaved? g = some buffer → offset * g.frameBytes ≤ buffer.size) :
    a.copyInterleaved g offset frames = .ok (a.flatten g offset frames) := by
  apply h.contains.copyInterleaved_eq_ok_of_slice
  intro buffer hbuffer
  refine ⟨?_, h.bytes_lt⟩
  by_cases hframes : 0 < frames
  · exact (h.contains.bytes_le hbuffer hframes).1
  · obtain rfl : frames = 0 := by omega
    obtain hpos | hstart := hstart
    · exact absurd hpos hframes
    · exact hstart buffer hbuffer

end ChannelAreas

end FrameTee
