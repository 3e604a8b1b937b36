import FrameTee.Proofs.Area.Planar
import FrameTee.Proofs.Area.Slice
import FrameTee.Proofs.Ring.Store
import Mathlib.Data.Fintype.Card

/-!
# Scatter and gather

A scatter and the gather of the same frames undo one another. Where the samples have places of their
own (`MappedRing.Apart`), what was scattered can be gathered again, and nothing else has changed.
The other way round the samples may lie in any way, also on top of one another: what was gathered is
what every sample already holds, so scattering it again changes nothing
(`MappedRing.store_copy_inverse`).
-/

namespace FrameTee.MappedRing

variable {ring : MappedRing} {g : FrameGeometry} {src flat : Bytes} {offset frames : Nat}

theorem readable_areas_iff : ring.areas.Readable g offset frames ↔
    ∀ (channel : Nat) (layout : AreaLayout), ring.layouts[channel]? = some layout →
      ∀ frame < frames, layout.Aligned ∧
        layout.address (offset + frame) + g.sampleBytes ≤ ring.data.size := by
  constructor
  · intro h channel layout hlayout
    exact h channel ⟨0, layout⟩ (by rw [getElem?_areas, hlayout, Option.map_some])
  · intro h channel area harea
    rw [getElem?_areas] at harea
    obtain ⟨layout, hlayout, rfl⟩ := Option.map_eq_some_iff.mp harea
    exact h channel layout hlayout

/-- The samples of the frames have places of their own: each starts at a whole byte and ends inside
the memory, and no byte belongs to two of them. -/
structure Apart (ring : MappedRing) (g : FrameGeometry) (offset frames : Nat) : Prop where
  /-- Every sample lies in the memory. -/
  inside : ∀ (channel : Nat) (layout : AreaLayout), ring.layouts[channel]? = some layout →
    ∀ frame < frames, layout.Aligned ∧
      layout.address (offset + frame) + g.sampleBytes ≤ ring.data.size
  /-- A byte belongs to one sample. -/
  single : ∀ channel channel' x, ∀ frame < frames, ∀ frame' < frames,
    ring.InSample g channel (offset + frame) x → ring.InSample g channel' (offset + frame') x →
      channel = channel' ∧ frame = frame'

/-- Every byte of the frames has an address in the memory. -/
theorem Apart.exists_layout (h : ring.Apart g offset frames)
    (hareas : ring.layouts.size = g.channelCount) {j : Nat} (hj : j < frames * g.frameBytes) :
    ∃ layout, ring.layouts[j % g.frameBytes / g.sampleBytes]? = some layout ∧
      layout.address (offset + j / g.frameBytes) + j % g.frameBytes % g.sampleBytes <
        ring.data.size := by
  have hpos : 0 < g.frameBytes := Nat.pos_of_lt_mul_left hj
  have hchannel : j % g.frameBytes / g.sampleBytes < ring.layouts.size := by
    rw [hareas]
    exact g.channel_lt (Nat.mod_lt j hpos)
  have hlayout := Array.getElem?_eq_getElem hchannel
  obtain ⟨-, hinside⟩ := h.inside _ _ hlayout _ ((Nat.div_lt_iff_lt_mul hpos).mpr hj)
  have hbyte := Nat.mod_lt (j % g.frameBytes) g.sampleBytes_pos
  exact ⟨_, hlayout, Nat.lt_of_lt_of_le (Nat.add_lt_add_left hbyte _) hinside⟩

/-- Samples with places of their own have no more bytes than the memory: different bytes of the
frames have different addresses. -/
theorem Apart.bytes_le (h : ring.Apart g offset frames)
    (hareas : ring.layouts.size = g.channelCount) : frames * g.frameBytes ≤ ring.data.size := by
  choose layout hlayout hinside using
    fun j : Fin (frames * g.frameBytes) => h.exists_layout hareas j.isLt
  have hinj : Function.Injective fun j => (⟨_, hinside j⟩ : Fin ring.data.size) := by
    intro i j heq
    have hpos : 0 < g.frameBytes := Nat.pos_of_lt_mul_left i.isLt
    have hbyte := Nat.mod_lt (i % g.frameBytes) g.sampleBytes_pos
    have hbyte' := Nat.mod_lt (j % g.frameBytes) g.sampleBytes_pos
    have haddress := congrArg Fin.val heq
    dsimp only at haddress
    obtain ⟨hchannel, hframe⟩ := h.single _ _ _
      (i / g.frameBytes) ((Nat.div_lt_iff_lt_mul hpos).mpr i.isLt)
      (j / g.frameBytes) ((Nat.div_lt_iff_lt_mul hpos).mpr j.isLt)
      ⟨_, hlayout i, Nat.le_add_right _ _, Nat.add_lt_add_left hbyte _⟩
      ⟨_, hlayout j, by omega, by omega⟩
    have hsame : layout i = layout j := by
      apply Option.some.inj
      rw [← hlayout i, ← hlayout j, hchannel]
    rw [hsame, hframe] at haddress
    apply Fin.ext
    rw [← g.byte_eq i, ← g.byte_eq j, hchannel, hframe, Nat.add_left_cancel haddress]
  have hcard := Fintype.card_le_of_injective _ hinj
  rwa [Fintype.card_fin, Fintype.card_fin] at hcard

/-- The moves of samples with places of their own store each sample at its place. -/
theorem Apart.flattens_makeAll (h : ring.Apart g offset (g.bytesToFrames src.size))
    (hareas : ring.layouts.size = g.channelCount) :
    ChannelAreas.Flattens (areas ⟨SampleMove.makeAll src g.sampleBytes
        (sampleMoves g offset (g.bytesToFrames src.size) 0 ring.layouts.toList) ring.data,
      ring.layouts⟩) g offset (g.bytesToFrames src.size)
      (src.extract 0 (g.bytesToFrames src.size * g.frameBytes)) where
  size := by
    have hle := g.bytesToFrames_mul_le src.size
    rw [Array.size_extract]
    omega
  sample := by
    intro channel area harea frame hframe i hi
    rw [getElem?_areas] at harea
    obtain ⟨layout, hlayout, rfl⟩ := Option.map_eq_some_iff.mp harea
    replace hlayout : ring.layouts[channel]? = some layout := hlayout
    have hchannel : channel < g.channelCount := hareas ▸ (Array.getElem?_eq_some_iff.mp hlayout).1
    obtain ⟨-, hinside⟩ := h.inside channel layout hlayout frame hframe
    have hbyte := g.byte_lt hframe hchannel hi
    have hle := g.bytesToFrames_mul_le src.size
    rw [memory_areas]
    dsimp only
    rw [get_makeAll_of_inSample hlayout hframe hi hinside,
      Bytes.getElem?_eq_some_getD (by rw [Array.size_extract]; omega),
      Bytes.getD_extract (by omega) hle, Nat.zero_add]
    intro channel' frame' hframe' hin
    exact h.single channel' channel _ frame' hframe' frame hframe hin
      ⟨layout, hlayout, Nat.le_add_right _ _, Nat.add_lt_add_left hi _⟩

/-- A gather tells every sample what it already holds, so the moves back change nothing. -/
theorem get_makeAll_flatten (hareas : ring.layouts.size = g.channelCount) {count : Nat}
    (hcount : count ≤ frames) (x : Nat) :
    (SampleMove.makeAll (ring.areas.flatten g offset frames) g.sampleBytes
      (sampleMoves g offset count 0 ring.layouts.toList) ring.data).get x = ring.data.get x := by
  apply SampleMove.get_makeAll_of_same
  intro move hmove i hi
  obtain ⟨channel, layout, hlayout, frame, hframe, rfl⟩ := mem_sampleMoves_toList.mp hmove
  have harea : ring.areas.areas[channel]? = some ⟨0, layout⟩ := by
    rw [getElem?_areas, hlayout, Option.map_some]
  have hflat := (ChannelAreas.flattens_flatten (size_areas.trans hareas) offset frames).sample
    channel ⟨0, layout⟩ harea frame (Nat.lt_of_lt_of_le hframe hcount) i hi
  rw [sampleMove, Array.getD_eq_getD_getElem?, hflat]
  rfl

section Gathered

variable (hsize : ring.data.size < Count.limit)
include hsize

theorem size_memory_lt :
    ∀ area ∈ ring.areas.areas, (ring.areas.memory area).size < Count.limit := by
  intro area hmem
  obtain ⟨channel, harea⟩ := Array.getElem?_of_mem hmem
  rw [getElem?_areas] at harea
  obtain ⟨layout, -, rfl⟩ := Option.map_eq_some_iff.mp harea
  exact hsize

/-- Samples inside the memory are all stored. -/
theorem storeInterleaved_eq_ok_of_inside (hareas : ring.layouts.size = g.channelCount)
    (h : ∀ (channel : Nat) (layout : AreaLayout), ring.layouts[channel]? = some layout →
      ∀ frame < g.bytesToFrames src.size, layout.Aligned ∧
        layout.address (offset + frame) + g.sampleBytes ≤ ring.data.size) :
    ring.storeInterleaved g offset src =
      (.ok (), SampleMove.makeAll src g.sampleBytes
        (sampleMoves g offset (g.bytesToFrames src.size) 0 ring.layouts.toList) ring.data) := by
  apply storeInterleaved_eq_ok hareas
  intro channel layout hlayout frame hframe
  obtain ⟨haligned, hinside⟩ := h channel layout hlayout frame hframe
  exact ⟨haligned, Nat.lt_of_le_of_lt hinside hsize, hinside⟩

/-- Samples with places of their own can be gathered as they were scattered. -/
theorem Apart.copyInterleaved_makeAll (h : ring.Apart g offset (g.bytesToFrames src.size))
    (hareas : ring.layouts.size = g.channelCount) (hframes : 0 < g.bytesToFrames src.size)
    (hroom : src.size ≤ Bytes.maxSize) :
    copyInterleaved ⟨SampleMove.makeAll src g.sampleBytes
        (sampleMoves g offset (g.bytesToFrames src.size) 0 ring.layouts.toList) ring.data,
      ring.layouts⟩ g offset (g.bytesToFrames src.size) =
      .ok (src.extract 0 (g.bytesToFrames src.size * g.frameBytes)) := by
  have hcount := size_areas.trans hareas
  rw [copyInterleaved, ChannelAreas.copyInterleaved_eq_ok_iff _ hframes]
  · refine ⟨hcount, Nat.lt_of_le_of_lt (h.bytes_le hareas) hsize,
      .of_le (Nat.le_trans (g.bytesToFrames_mul_le src.size) hroom), ?_,
      (h.flattens_makeAll hareas).eq_flatten hcount⟩
    rw [readable_areas_iff, SampleMove.size_makeAll]
    exact h.inside
  · apply size_memory_lt
    rwa [SampleMove.size_makeAll]

/-- What is gathered is read from where every sample is. -/
theorem of_copyInterleaved_eq_ok (h : ring.copyInterleaved g offset frames = .ok flat) :
    ring.layouts.size = g.channelCount ∧ ring.areas.Readable g offset frames ∧
      flat = ring.areas.flatten g offset frames := by
  have hareas := (ChannelAreas.bounds_of_copyInterleaved_eq_ok h).1
  obtain rfl | hframes := Nat.eq_zero_or_pos frames
  · have hflat := ChannelAreas.size_of_copyInterleaved_eq_ok h
    rw [Nat.zero_mul] at hflat
    refine ⟨size_areas.symm.trans hareas, fun _ _ _ frame hframe => absurd hframe (by omega), ?_⟩
    have hnone : (ring.areas.flatten g offset 0).size = 0 := by
      rw [ChannelAreas.size_flatten, Nat.zero_mul]
    rw [Array.eq_empty_of_size_eq_zero hflat, Array.eq_empty_of_size_eq_zero hnone]
  · obtain ⟨-, -, -, hreadable, hflat⟩ :=
      (ChannelAreas.copyInterleaved_eq_ok_iff (size_memory_lt hsize) hframes).mp h
    exact ⟨size_areas.symm.trans hareas, hreadable, hflat⟩

/-- A scatter and the gather of the same frames undo one another. To gather them again there has to
be room for them, as there is for bytes that a program holds. -/
theorem store_copy_inverse (g : FrameGeometry) (offset : Nat) :
    (∀ src, ring.layouts.size = g.channelCount → 1 ≤ g.bytesToFrames src.size →
      ring.Apart g offset (g.bytesToFrames src.size) →
        ∃ data, ring.storeInterleaved g offset src = (.ok (), data) ∧
          data.size = ring.data.size ∧
          (src.size ≤ Bytes.maxSize →
            copyInterleaved ⟨data, ring.layouts⟩ g offset (g.bytesToFrames src.size) =
              .ok (src.extract 0 (g.bytesToFrames src.size * g.frameBytes))) ∧
          ∀ x, (∀ channel, ∀ frame < g.bytesToFrames src.size,
            ¬ ring.InSample g channel (offset + frame) x) → data.get x = ring.data.get x) ∧
    (∀ frames flat, ring.copyInterleaved g offset frames = .ok flat →
      ∃ data, ring.storeInterleaved g offset flat = (.ok (), data) ∧
        data.toBytes = ring.data.toBytes) := by
  constructor
  · intro src hareas hframes h
    exact ⟨_, storeInterleaved_eq_ok_of_inside hsize hareas h.inside, SampleMove.size_makeAll,
      h.copyInterleaved_makeAll hsize hareas hframes, fun _ => get_makeAll_of_not_inSample⟩
  · intro frames flat h
    have hflat := ChannelAreas.size_of_copyInterleaved_eq_ok h
    have hcount : g.bytesToFrames flat.size ≤ frames := g.bytesToFrames_le (Nat.le_of_eq hflat)
    obtain ⟨hareas, hreadable, rfl⟩ := of_copyInterleaved_eq_ok hsize h
    refine ⟨_, storeInterleaved_eq_ok_of_inside hsize hareas ?_, ?_⟩
    · intro channel layout hlayout frame hframe
      exact readable_areas_iff.mp hreadable channel layout hlayout frame
        (Nat.lt_of_lt_of_le hframe hcount)
    · exact Memory.toBytes_congr SampleMove.size_makeAll fun x _ =>
        get_makeAll_flatten hareas hcount x

end Gathered

/-- In a ring of a device the samples of frames inside the ring have places of their own. -/
theorem Laid.apart {layout : RingLayout} {s : StreamSetup} (h : ring.Laid layout s)
    (hfits : offset + frames ≤ s.bufferSize) : ring.Apart s.geometry offset frames where
  inside := by
    intro channel area harea frame hframe
    obtain ⟨haligned, -, hinside⟩ := h.placed hfits harea hframe
    exact ⟨haligned, hinside⟩
  single := by
    intro channel channel' x frame hframe frame' hframe' hin hin'
    obtain ⟨hchannel, hsame⟩ := h.sample_unique (by omega) (by omega) hin hin'
    exact ⟨hchannel, Nat.add_left_cancel hsame⟩

/-- Two frames on their way into a ring of three that is laid out channel by channel, and two frames
of a ring whose channels lie on top of one another, there and back. -/
theorem store_copy_inverse_both_ways :
    let s : StreamSetup := ⟨⟨2, .u8⟩, 8000, 3⟩
    let ring : MappedRing := ⟨.zeros 6, MemoryDevice.channelLayouts .planar s⟩
    let tangled : MappedRing := ⟨.ofBytes #[7, 8, 9], #[⟨8, 0⟩, ⟨8, 8⟩]⟩
    ring.data.size < Count.limit ∧ tangled.data.size < Count.limit ∧
      ring.Apart s.geometry 1 2 ∧
      (∃ data, ring.storeInterleaved s.geometry 1 #[1, 2, 3, 4, 5] = (.ok (), data) ∧
        copyInterleaved ⟨data, ring.layouts⟩ s.geometry 1 2 = .ok #[1, 2, 3, 4]) ∧
      tangled.copyInterleaved s.geometry 0 2 = .ok #[8, 8, 8, 9] ∧
      ∃ data, tangled.storeInterleaved s.geometry 0 #[8, 8, 8, 9] = (.ok (), data) ∧
        data.toBytes = #[7, 8, 9] := by
  intro s ring tangled
  have hlaid : ring.Laid .planar s :=
    ⟨⟨by decide, by decide, by decide, by decide⟩, rfl, by decide +kernel⟩
  have hsize : ring.data.size < Count.limit := by decide
  have hsize' : tangled.data.size < Count.limit := by decide
  have hapart : ring.Apart s.geometry 1 2 := hlaid.apart (by decide)
  have hcopy : tangled.copyInterleaved s.geometry 0 2 = .ok #[8, 8, 8, 9] := by cbv
  obtain ⟨hthere, -⟩ := store_copy_inverse hsize s.geometry 1
  obtain ⟨-, hback⟩ := store_copy_inverse hsize' s.geometry 0
  have hcount : s.geometry.bytesToFrames (#[1, 2, 3, 4, 5] : Bytes).size = 2 := by decide +kernel
  have hforth := hthere #[1, 2, 3, 4, 5] (by decide +kernel) (by decide +kernel)
  have hsrc : (#[1, 2, 3, 4, 5] : Bytes).extract 0 (2 * s.geometry.frameBytes) =
      #[1, 2, 3, 4] := by decide +kernel
  rw [hcount, hsrc] at hforth
  obtain ⟨data, hstore, -, hget, -⟩ := hforth hapart
  obtain ⟨data', hstore', hsame⟩ := hback 2 _ hcopy
  refine ⟨hsize, hsize', hapart, ⟨data, hstore, hget (by decide +kernel)⟩, hcopy, data', hstore',
    ?_⟩
  rw [hsame]
  decide +kernel

end FrameTee.MappedRing
