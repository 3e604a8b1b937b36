import FrameTee.Proofs.Area.Store
import FrameTee.Proofs.Bytes
import FrameTee.Proofs.Ring.Place
import FrameTee.Proofs.Ring.Spans

/-!
# A ring as a store of the stream

`MappedRing.streamByte` is the byte that a ring holds for a byte of the endless stream of frames.
For a ring that is laid out for a setup (`MappedRing.Laid`) reading frames at a position of the
stream gives these bytes, and storing frames changes exactly the bytes of those frames
(`MappedRing.Stored`), wherever the frames pass the end of the ring.

## Implementation notes

`Stored` speaks of bytes of the stream and not of addresses. So the store of a whole range is put
together from the stores of its spans (`Stored.trans`) without another look at the two layouts.
-/

namespace FrameTee

namespace MappedRing

variable {ring ring' ring'' : MappedRing} {layout : RingLayout} {s : StreamSetup}

/-- Byte `byte` of the sample of a channel in a frame of the ring. -/
def sampleByte (ring : MappedRing) (channel frame byte : Nat) : UInt8 :=
  match ring.layouts[channel]? with
  | none => 0
  | some area => ring.data.get (area.address frame + byte)

/-- What the ring holds for byte `j` of the stream. -/
def streamByte (ring : MappedRing) (s : StreamSetup) (j : Nat) : UInt8 :=
  ring.sampleByte (j % s.geometry.frameBytes / s.geometry.sampleBytes)
    (j / s.geometry.frameBytes % s.bufferSize)
    (j % s.geometry.frameBytes % s.geometry.sampleBytes)

/-- What the ring holds for `frames` frames of the stream from a position on. -/
def streamBytes (ring : MappedRing) (s : StreamSetup) (position frames : Nat) : Bytes :=
  Array.ofFn fun i : Fin (frames * s.geometry.frameBytes) =>
    ring.streamByte s (position * s.geometry.frameBytes + i)

@[simp] theorem size_streamBytes (position frames : Nat) :
    (ring.streamBytes s position frames).size = frames * s.geometry.frameBytes := by
  simp [streamBytes]

@[simp] theorem streamBytes_zero (position : Nat) : ring.streamBytes s position 0 = #[] := by
  simp [streamBytes]

theorem getD_streamBytes {position frames i : Nat} (hi : i < frames * s.geometry.frameBytes) :
    (ring.streamBytes s position frames).getD i 0 =
      ring.streamByte s (position * s.geometry.frameBytes + i) := by
  simp [streamBytes, hi]

theorem streamBytes_add (position a b : Nat) :
    ring.streamBytes s position (a + b) =
      ring.streamBytes s position a ++ ring.streamBytes s (position + a) b := by
  ext i h₁ h₂ : 1
  · simp only [Array.size_append, size_streamBytes, Nat.add_mul]
  · rw [Array.getElem_append]
    split
    · simp only [streamBytes, Array.getElem_ofFn]
    · rename_i hlt
      rw [size_streamBytes] at hlt
      simp only [streamBytes, Array.getElem_ofFn, Array.size_ofFn]
      congr 1
      rw [Nat.add_mul]
      omega

theorem streamBytes_congr {position frames : Nat}
    (h : ∀ j, position * s.geometry.frameBytes ≤ j →
      j < (position + frames) * s.geometry.frameBytes →
        ring'.streamByte s j = ring.streamByte s j) :
    ring'.streamBytes s position frames = ring.streamBytes s position frames := by
  rw [streamBytes]
  congr 1
  funext i
  have hi := i.isLt
  apply h
  · exact Nat.le_add_right _ _
  · rw [Nat.add_mul]
    omega

/-- Frames that lie next to one another in the ring, sample by sample, are frames of the stream. -/
theorem flatten_areas (hpos : 0 < s.geometry.frameBytes) {offset position frames : Nat}
    (hplace : ∀ frame < frames, (position + frame) % s.bufferSize = offset + frame) :
    ring.areas.flatten s.geometry offset frames = ring.streamBytes s position frames := by
  ext i h₁ h₂ : 1
  · simp
  · have hi : i < frames * s.geometry.frameBytes := by simpa using h₂
    have hframe := hplace (i / s.geometry.frameBytes) ((Nat.div_lt_iff_lt_mul hpos).mpr hi)
    simp only [ChannelAreas.flatten, streamBytes, Array.getElem_ofFn,
      ChannelAreas.interleavedByte, streamByte, sampleByte, s.geometry.add_mod_frameBytes,
      s.geometry.add_div_frameBytes hpos, getElem?_areas, hframe]
    cases ring.layouts[i % s.geometry.frameBytes / s.geometry.sampleBytes]? with
    | none => rfl
    | some layout => simp only [Option.map_some, memory_areas]

/-- The memory of the ring has the bytes of the ring of the setup, and every channel lies in it as
the layout says. -/
structure Laid (layout : RingLayout) (s : StreamSetup) (ring : MappedRing) : Prop where
  /-- The setup is one that a memory device accepts. -/
  supported : s.Supported
  /-- Every channel lies as the layout says. -/
  layouts : ring.layouts = MemoryDevice.channelLayouts layout s
  /-- The memory has room for all frames and no more. -/
  size : ring.data.size = s.ringBytes

namespace Laid

theorem getElem?_layouts (h : ring.Laid layout s) {c : Nat} (hc : c < s.geometry.channelCount) :
    ring.layouts[c]? = some (layout.channel s c) := by
  rw [h.layouts, RingLayout.getElem?_channelLayouts, if_pos hc]

theorem of_getElem?_layouts (h : ring.Laid layout s) {c : Nat} {area : AreaLayout}
    (harea : ring.layouts[c]? = some area) :
    c < s.geometry.channelCount ∧ area = layout.channel s c := by
  rw [h.layouts, RingLayout.getElem?_channelLayouts] at harea
  split at harea
  · rename_i hc
    exact ⟨hc, (Option.some.inj harea).symm⟩
  · cases harea

theorem size_layouts (h : ring.Laid layout s) : ring.layouts.size = s.geometry.channelCount := by
  rw [h.layouts, RingLayout.size_channelLayouts]

/-- The bytes of a sample are those of its slot. -/
theorem inSample_iff (h : ring.Laid layout s) {c frame x : Nat} :
    ring.InSample s.geometry c frame x ↔ c < s.geometry.channelCount ∧
      layout.slot s c frame * s.geometry.sampleBytes ≤ x ∧
      x < layout.slot s c frame * s.geometry.sampleBytes + s.geometry.sampleBytes := by
  rw [← RingLayout.address_channel]
  constructor
  · rintro ⟨area, harea, hin⟩
    obtain ⟨hc, rfl⟩ := h.of_getElem?_layouts harea
    exact ⟨hc, hin⟩
  · rintro ⟨hc, hin⟩
    exact ⟨_, h.getElem?_layouts hc, hin⟩

/-- A byte of the stream is a byte of its sample. -/
theorem inSample_place (h : ring.Laid layout s) {j : Nat} (hj : j < s.ringBytes) :
    ring.InSample s.geometry (j % s.geometry.frameBytes / s.geometry.sampleBytes)
      (j / s.geometry.frameBytes) (layout.place s j) := by
  have hpos := h.supported.frameBytes_pos
  have hframe : j / s.geometry.frameBytes < s.bufferSize := (Nat.div_lt_iff_lt_mul hpos).mpr hj
  rw [h.inSample_iff, RingLayout.place, Nat.mod_eq_of_lt hframe]
  exact ⟨s.geometry.channel_lt (Nat.mod_lt j hpos), Nat.le_add_right _ _,
    Nat.add_lt_add_left (Nat.mod_lt _ s.geometry.sampleBytes_pos) _⟩

/-- A byte of the ring belongs to one sample of it. -/
theorem sample_unique (h : ring.Laid layout s) {c c' frame frame' x : Nat}
    (hframe : frame < s.bufferSize) (hframe' : frame' < s.bufferSize)
    (hin : ring.InSample s.geometry c frame x) (hin' : ring.InSample s.geometry c' frame' x) :
    c = c' ∧ frame = frame' := by
  obtain ⟨hc, hbyte⟩ := h.inSample_iff.mp hin
  obtain ⟨hc', hbyte'⟩ := h.inSample_iff.mp hin'
  exact RingLayout.slot_inj hc hc' hframe hframe' (RingLayout.slot_of_byte hbyte hbyte')

/-- Memory of the same size can take the place of the memory of the ring. -/
theorem withData (h : ring.Laid layout s) {data : Memory} (hsize : data.size = ring.data.size) :
    Laid layout s ⟨data, ring.layouts⟩ :=
  ⟨h.supported, h.layouts, hsize.trans h.size⟩

theorem streamByte_eq (h : ring.Laid layout s) (j : Nat) :
    ring.streamByte s j = ring.data.get (layout.place s j) := by
  have hc := s.geometry.channel_lt (Nat.mod_lt j h.supported.frameBytes_pos)
  simp only [streamByte, sampleByte, h.getElem?_layouts hc, RingLayout.address_channel]
  rfl

/-- A ring cannot tell bytes of the stream apart that are whole rings apart. -/
theorem streamByte_congr (h : ring.Laid layout s) {i j : Nat}
    (hij : i % s.ringBytes = j % s.ringBytes) : ring.streamByte s i = ring.streamByte s j := by
  rw [h.streamByte_eq, h.streamByte_eq, (layout.place_eq_iff h.supported).mpr hij]

theorem covers (h : ring.Laid layout s) {offset frames : Nat}
    (hfits : offset + frames ≤ s.bufferSize) :
    ring.areas.Covers s.geometry offset frames := by
  have hsmall := h.supported.ringBytes_lt
  have harea : ∀ (c : Nat) (area : ChannelArea), ring.areas.areas[c]? = some area →
      c < s.geometry.channelCount ∧ area = ⟨0, layout.channel s c⟩ := by
    intro c area hget
    rw [getElem?_areas] at hget
    obtain ⟨found, hfound, rfl⟩ := Option.map_eq_some_iff.mp hget
    obtain ⟨hc, rfl⟩ := h.of_getElem?_layouts hfound
    exact ⟨hc, rfl⟩
  constructor
  · exact size_areas.trans h.size_layouts
  · exact h.supported.channels_pos
  · intro c area hget
    obtain ⟨-, rfl⟩ := harea c area hget
    exact layout.aligned_channel s c
  · intro c area hget frame hframe
    obtain ⟨hc, rfl⟩ := harea c area hget
    rw [memory_areas, h.size, RingLayout.address_channel]
    exact layout.slot_bytes_le hc (by omega)
  · intro c area hget frame hframe
    obtain ⟨hc, rfl⟩ := harea c area hget
    rw [RingLayout.address_channel]
    exact Nat.lt_of_le_of_lt (layout.slot_bytes_le hc (by omega)) hsmall
  · exact Nat.lt_of_le_of_lt (Nat.mul_le_mul_right _ hfits) hsmall
  · exact .of_le (h.supported.bytes_le_maxSize (Nat.le_trans (Nat.le_add_left _ _) hfits))

/-- The samples of frames inside the ring have places. -/
theorem placed (h : ring.Laid layout s) {offset frames : Nat}
    (hfits : offset + frames ≤ s.bufferSize) {c : Nat} {area : AreaLayout}
    (harea : ring.layouts[c]? = some area) {frame : Nat} (hframe : frame < frames) :
    area.Placed (offset + frame) s.geometry.sampleBytes ring.data.size := by
  have hcovers := h.covers hfits
  have hget : ring.areas.areas[c]? = some ⟨0, area⟩ := by
    rw [getElem?_areas, harea, Option.map_some]
  exact ⟨hcovers.aligned c _ hget, hcovers.stop_lt c _ hget frame hframe,
    hcovers.inside c _ hget frame hframe⟩

/-- Frames inside the ring are read as the stream at their place. -/
theorem copyInterleaved_eq_ok (h : ring.Laid layout s) {offset frames : Nat}
    (hfits : offset + frames ≤ s.bufferSize) :
    ring.copyInterleaved s.geometry offset frames = .ok (ring.streamBytes s offset frames) := by
  have hstart : ∀ buffer, ring.areas.asInterleaved? s.geometry = some buffer →
      offset * s.geometry.frameBytes ≤ buffer.size := by
    intro buffer hbuffer
    have harea : ring.areas.areas[0]? = some ⟨0, layout.channel s 0⟩ := by
      rw [getElem?_areas, h.getElem?_layouts h.supported.channels_pos, Option.map_some]
    obtain ⟨hmemory, -⟩ := ChannelAreas.eq_interleaved_of_asInterleaved? hbuffer harea
    rw [← hmemory, memory_areas, h.size]
    exact StreamSetup.Supported.bytes_le_ringBytes (Nat.le_trans (Nat.le_add_right _ _) hfits)
  rw [copyInterleaved, ChannelAreas.copyInterleaved_eq_ok (h.covers hfits) (.inr hstart)]
  congr 1
  apply flatten_areas h.supported.frameBytes_pos
  intro frame hframe
  exact Nat.mod_eq_of_lt (by omega)

theorem streamBytes_mod (h : ring.Laid layout s) (position frames : Nat) :
    ring.streamBytes s (position % s.bufferSize) frames = ring.streamBytes s position frames := by
  rw [streamBytes]
  congr 1
  funext i
  rw [h.streamByte_eq, h.streamByte_eq, RingLayout.place_mod_add h.supported]

end Laid

/-- `ring'` is `ring` with `count` bytes of the stream stored from byte `start` on. -/
structure Stored (s : StreamSetup) (start count : Nat) (byte : Nat → UInt8)
    (ring ring' : MappedRing) : Prop where
  /-- The channels lie where they were. -/
  layouts : ring'.layouts = ring.layouts
  /-- The memory keeps its size. -/
  size : ring'.data.size = ring.data.size
  /-- The stored bytes can be read back. -/
  inside : ∀ i < count, ring'.streamByte s (start + i) = byte i
  /-- All others are as before. -/
  outside : ∀ j, (∀ i < count, (start + i) % s.ringBytes ≠ j % s.ringBytes) →
    ring'.streamByte s j = ring.streamByte s j

namespace Stored

variable {start count : Nat} {byte : Nat → UInt8}

theorem laid (h : Stored s start count byte ring ring') (hlaid : ring.Laid layout s) :
    ring'.Laid layout s :=
  ⟨hlaid.supported, h.layouts.trans hlaid.layouts, h.size.trans hlaid.size⟩

theorem refl (s : StreamSetup) (start : Nat) (byte : Nat → UInt8) (ring : MappedRing) :
    Stored s start 0 byte ring ring :=
  ⟨rfl, rfl, fun _ hi => absurd hi (Nat.not_lt_zero _), fun _ _ => rfl⟩

/-- Bytes of the stream less than a ring apart are kept apart. -/
theorem mod_ne {i j n : Nat} (hlt : i < j) (hnear : j < i + n) : i % n ≠ j % n := by
  intro heq
  have hzero : (j - i) % n = 0 := Nat.sub_mod_eq_zero_of_mod_eq heq.symm
  rw [Nat.mod_eq_of_lt (by omega)] at hzero
  omega

/-- Which bytes are stored matters only where they are stored. -/
theorem congr (h : Stored s start count byte ring ring') {byte' : Nat → UInt8}
    (hbyte : ∀ i < count, byte i = byte' i) : Stored s start count byte' ring ring' :=
  ⟨h.layouts, h.size, fun i hi => (h.inside i hi).trans (hbyte i hi), h.outside⟩

/-- Storing at a place of the ring stores at every position of the stream that has this place. -/
theorem ofPlace {position : Nat} (hlaid : ring.Laid layout s)
    (h : Stored s (position % s.bufferSize * s.geometry.frameBytes) count byte ring ring') :
    Stored s (position * s.geometry.frameBytes) count byte ring ring' := by
  have hmod : ∀ i, (position * s.geometry.frameBytes + i) % s.ringBytes =
      (position % s.bufferSize * s.geometry.frameBytes + i) % s.ringBytes := by
    intro i
    rw [← layout.place_eq_iff hlaid.supported,
      RingLayout.place_mod_add hlaid.supported]
  constructor
  · exact h.layouts
  · exact h.size
  · intro i hi
    rw [(h.laid hlaid).streamByte_congr (hmod i), h.inside i hi]
  · intro j hj
    apply h.outside
    intro i hi
    rw [← hmod i]
    exact hj i hi

/-- Storing a range and then the one behind it stores both, as long as they fit in the ring. -/
theorem trans {more : Nat} (h : Stored s start count byte ring ring')
    (h' : Stored s (start + count) more (fun i => byte (count + i)) ring' ring'')
    (hfits : count + more ≤ s.ringBytes) : Stored s start (count + more) byte ring ring'' := by
  constructor
  · exact h'.layouts.trans h.layouts
  · exact h'.size.trans h.size
  · intro i hi
    by_cases hfirst : i < count
    · rw [h'.outside (start + i), h.inside i hfirst]
      intro k hk
      exact (mod_ne (by omega) (by omega)).symm
    · have hin := h'.inside (i - count) (by omega)
      have hindex : start + count + (i - count) = start + i := by omega
      have hbyte : count + (i - count) = i := by omega
      rw [hindex] at hin
      rw [hin, hbyte]
  · intro j hj
    rw [h'.outside j, h.outside j fun i hi => hj i (by omega)]
    intro i hi
    have hother := hj (count + i) (by omega)
    rwa [← Nat.add_assoc] at hother

/-- What was stored can be read back. -/
theorem streamBytes_inside {position n : Nat} {bytes : Bytes}
    (h : Stored s (position * s.geometry.frameBytes) (n * s.geometry.frameBytes) (bytes.getD · 0)
      ring ring') (hsize : bytes.size = n * s.geometry.frameBytes) :
    ring'.streamBytes s position n = bytes := by
  apply Bytes.ext_getD
  · rw [size_streamBytes, hsize]
  · intro i hi
    rw [size_streamBytes] at hi
    rw [getD_streamBytes hi, h.inside i hi]

/-- Frames before the stored ones, less than a ring behind their end, are as they were. -/
theorem streamByte_before {position n first j : Nat}
    (h : Stored s (position * s.geometry.frameBytes) (n * s.geometry.frameBytes) byte ring ring')
    (hring : position + n ≤ first + s.bufferSize) (hfirst : first * s.geometry.frameBytes ≤ j)
    (hj : j < position * s.geometry.frameBytes) : ring'.streamByte s j = ring.streamByte s j := by
  apply h.outside
  intro i hi
  have hbytes := Nat.mul_le_mul_right s.geometry.frameBytes hring
  rw [Nat.add_mul, Nat.add_mul] at hbytes
  have hnear : position * s.geometry.frameBytes + i < j + s.ringBytes := by
    simp only [StreamSetup.ringBytes]
    omega
  exact (mod_ne (by omega) hnear).symm

end Stored

variable {offset : Nat} {src : Bytes}

theorem Laid.exists_of_mem_sampleMoves (h : ring.Laid layout s) {frames : Nat} {move : SampleMove}
    (hmem : move ∈ sampleMoves s.geometry offset frames 0 ring.layouts.toList) :
    ∃ c frame, c < s.geometry.channelCount ∧ frame < frames ∧
      move = sampleMove s.geometry offset c (layout.channel s c) frame := by
  obtain ⟨c, area, harea, frame, hframe, rfl⟩ := mem_sampleMoves_toList.mp hmem
  obtain ⟨hc, rfl⟩ := h.of_getElem?_layouts harea
  exact ⟨c, frame, hc, hframe, rfl⟩

/-- What is written in order of the samples can be read back in order of the stream. -/
theorem Laid.get_makeAll_inside (h : ring.Laid layout s) {frames i : Nat}
    (hfits : offset + frames ≤ s.bufferSize) (hi : i < frames * s.geometry.frameBytes) :
    (SampleMove.makeAll src s.geometry.sampleBytes
        (sampleMoves s.geometry offset frames 0 ring.layouts.toList) ring.data).get
        (layout.place s (offset * s.geometry.frameBytes + i)) = src.getD i 0 := by
  have hpos := h.supported.frameBytes_pos
  have hframe : i / s.geometry.frameBytes < frames := (Nat.div_lt_iff_lt_mul hpos).mpr hi
  have hlayout := h.getElem?_layouts (s.geometry.channel_lt (Nat.mod_lt i hpos))
  have hbyte := Nat.mod_lt (i % s.geometry.frameBytes) s.geometry.sampleBytes_pos
  have hplace := layout.place_eq_address (s := s)
    (show offset + i / s.geometry.frameBytes < s.bufferSize by omega) (Nat.mod_lt i hpos)
  rw [Nat.add_mul, Nat.add_assoc, Nat.div_add_mod'] at hplace
  rw [hplace, get_makeAll_of_inSample hlayout hframe hbyte (h.placed hfits hlayout hframe).2.2]
  · rw [Nat.add_assoc, s.geometry.byte_eq]
  · intro c' frame' hframe' hin
    obtain ⟨hc, hsame⟩ := h.sample_unique (by omega) (by omega) hin
      ⟨_, hlayout, Nat.le_add_right _ _, Nat.add_lt_add_left hbyte _⟩
    exact ⟨hc, Nat.add_left_cancel hsame⟩

/-- A byte of the ring that belongs to none of the stored frames is not written. -/
theorem Laid.get_makeAll_outside (h : ring.Laid layout s) {frames j : Nat}
    (hfits : offset + frames ≤ s.bufferSize) (hj : j < s.ringBytes)
    (hout : ∀ i < frames * s.geometry.frameBytes, offset * s.geometry.frameBytes + i ≠ j) :
    (SampleMove.makeAll src s.geometry.sampleBytes
        (sampleMoves s.geometry offset frames 0 ring.layouts.toList) ring.data).get
        (layout.place s j) = ring.data.get (layout.place s j) := by
  apply get_makeAll_of_not_inSample
  intro c frame hframe hin
  have hwithin := Nat.mod_lt j h.supported.frameBytes_pos
  have hj' : j / s.geometry.frameBytes < s.bufferSize :=
    (Nat.div_lt_iff_lt_mul h.supported.frameBytes_pos).mpr hj
  obtain ⟨-, hsame⟩ := h.sample_unique (by omega) hj' hin (h.inSample_place hj)
  -- Then `j` would be a byte of frame `offset + frame`, which is among the stored ones.
  apply hout (frame * s.geometry.frameBytes + j % s.geometry.frameBytes)
  · calc
      frame * s.geometry.frameBytes + j % s.geometry.frameBytes <
          (frame + 1) * s.geometry.frameBytes := by
        rw [Nat.succ_mul]
        omega
      _ ≤ frames * s.geometry.frameBytes := Nat.mul_le_mul_right _ hframe
  · rw [← Nat.add_assoc, ← Nat.add_mul, hsame, Nat.div_add_mod']

/-- Frames inside the ring are stored as the stream at their place. -/
theorem Laid.storeInterleaved_eq_ok (h : ring.Laid layout s) (offset : Nat)
    (hfits : offset + s.geometry.bytesToFrames src.size ≤ s.bufferSize) :
    ∃ data, ring.storeInterleaved s.geometry offset src = (.ok (), data) ∧
      Stored s (offset * s.geometry.frameBytes)
        (s.geometry.bytesToFrames src.size * s.geometry.frameBytes) (src.getD · 0) ring
        ⟨data, ring.layouts⟩ := by
  have hs := h.supported
  refine ⟨_, MappedRing.storeInterleaved_eq_ok h.size_layouts fun c area harea frame hframe =>
    h.placed hfits harea hframe, rfl, SampleMove.size_makeAll, ?_, ?_⟩
  · intro i hi
    rw [(h.withData SampleMove.size_makeAll).streamByte_eq]
    exact h.get_makeAll_inside hfits hi
  · intro j hout
    have hmod : layout.place s j = layout.place s (j % s.ringBytes) :=
      (layout.place_eq_iff hs).mpr (Nat.mod_mod j s.ringBytes).symm
    rw [(h.withData SampleMove.size_makeAll).streamByte_eq, h.streamByte_eq, hmod]
    apply h.get_makeAll_outside hfits (Nat.mod_lt j hs.ringBytes_pos)
    intro i hi heq
    exact hout i hi (by rw [heq, Nat.mod_mod])

end MappedRing

end FrameTee
