import FrameTee.Proofs.Area.Strided
import FrameTee.Proofs.Ring.Spans

/-!
# The single slice and the samples

Areas that are one interleaved buffer are copied as a single slice. The slice is checked once, at
its end, and the samples are checked one by one; where there is a frame to copy, either copy
succeeds exactly when the last sample of the last frame ends inside the buffer
(`ChannelAreas.readable_iff_of_asInterleaved?`, `ChannelAreas.sliceInterleaved_eq_ok_iff`), and both
yield the same bytes. A slice without frames still has to start inside the buffer, which the copy of
no sample has not. Spans of a ring have frames and transfers start at the first one, so neither can
tell the two copies apart (`ChannelAreas.slice_agrees_with_samples`).
-/

namespace FrameTee.ChannelAreas

variable {a : ChannelAreas} {g : FrameGeometry} {buffer : Memory} {offset frames : Nat}
  {flat : Bytes}

section Interleaved

variable (hareas : a.areas.size = g.channelCount) (hbuffer : a.asInterleaved? g = some buffer)
include hareas hbuffer

/-- The samples of interleaved frames are in the buffer when the frames are. -/
theorem readable_of_asInterleaved? (hinside : (offset + frames) * g.frameBytes ≤ buffer.size) :
    a.Readable g offset frames := by
  intro channel area harea frame hframe
  obtain ⟨hmemory, hlayout⟩ := eq_interleaved_of_asInterleaved? hbuffer harea
  have hstop := AreaLayout.address_interleaved_le (channel_lt_of_getElem? hareas harea)
    (Nat.add_lt_add_left hframe offset)
  rw [hlayout, hmemory]
  exact ⟨AreaLayout.aligned_interleaved channel g, Nat.le_trans hstop hinside⟩

/-- A copy of one interleaved buffer is the copy of a slice. -/
theorem copyInterleaved_eq_sliceInterleaved (hlt : frames * g.frameBytes < Count.limit) :
    a.copyInterleaved g offset frames = sliceInterleaved buffer offset frames g := by
  simp only [copyInterleaved, if_neg (not_not_intro hareas), g.framesToBytes?_eq_some hlt, hbuffer]

variable (hpos : 0 < g.channelCount)
include hpos

/-- The last sample of the last frame tells whether all samples are in the buffer. -/
theorem readable_iff_of_asInterleaved? (hframes : 0 < frames) :
    a.Readable g offset frames ↔ (offset + frames) * g.frameBytes ≤ buffer.size := by
  constructor
  · intro h
    have hlt : g.channelCount - 1 < a.areas.size := by omega
    have harea := Array.getElem?_eq_getElem hlt
    obtain ⟨-, hinside⟩ := h _ _ harea (frames - 1) (by omega)
    obtain ⟨hmemory, hlayout⟩ := eq_interleaved_of_asInterleaved? hbuffer harea
    rwa [hlayout, hmemory, AreaLayout.address_interleaved_last hpos hframes] at hinside
  · exact readable_of_asInterleaved? hareas hbuffer

/-- A slice is copied exactly when it ends inside the buffer. -/
theorem sliceInterleaved_eq_ok_iff (hsize : buffer.size < Count.limit) :
    sliceInterleaved buffer offset frames g = .ok flat ↔
      (offset + frames) * g.frameBytes ≤ buffer.size ∧ flat = a.flatten g offset frames := by
  rw [← extract_eq_flatten hareas hpos hbuffer offset frames]
  constructor
  · intro h
    exact (of_sliceInterleaved_eq_ok h).2
  · rintro ⟨hinside, rfl⟩
    have hlt := Nat.lt_of_le_of_lt hinside hsize
    have hframes : offset + frames < Count.limit :=
      Nat.lt_of_le_of_lt (Nat.le_mul_of_pos_right _ (g.frameBytes_pos hpos)) hlt
    exact sliceInterleaved_eq_ok hlt hframes hinside

variable (hsize : buffer.size ≤ Bytes.maxSize)
include hsize

theorem copySamples_eq_ok_iff_of_asInterleaved? :
    a.copySamples g offset frames (frames * g.frameBytes) = .ok flat ↔
      (frames = 0 ∨ (offset + frames) * g.frameBytes ≤ buffer.size) ∧
        flat = a.flatten g offset frames := by
  have hcount : ∀ area ∈ a.areas, (a.memory area).size < Count.limit := by
    intro area hmem
    obtain ⟨channel, harea⟩ := Array.getElem?_of_mem hmem
    rw [(eq_interleaved_of_asInterleaved? hbuffer harea).1]
    exact Nat.lt_of_le_of_lt hsize Bytes.maxSize_lt
  rw [copySamples_eq_ok_iff hcount]
  obtain rfl | hframes := Nat.eq_zero_or_pos frames
  · have hnone : a.Readable g offset 0 := fun _ _ _ frame hframe =>
      absurd hframe (Nat.not_lt_zero frame)
    simp only [hnone, Nat.zero_mul, Nat.zero_le, true_or, true_and]
  · rw [readable_iff_of_asInterleaved? hareas hbuffer hpos hframes, ← and_assoc]
    simp only [Nat.pos_iff_ne_zero.mp hframes, false_or]
    -- There is room for the frames of a buffer.
    apply and_congr_left'
    refine and_iff_right_of_imp fun hinside => ?_
    rw [Nat.add_mul] at hinside
    omega

/-- The copy of a slice succeeds when the copy of the samples does, and with the same bytes. Only
the slice minds to start behind the buffer without a frame. -/
theorem sliceInterleaved_eq_ok_iff_copySamples :
    sliceInterleaved buffer offset frames g = .ok flat ↔
      a.copySamples g offset frames (frames * g.frameBytes) = .ok flat ∧
        ¬ (frames = 0 ∧ buffer.size < offset * g.frameBytes) := by
  rw [sliceInterleaved_eq_ok_iff hareas hbuffer hpos (Nat.lt_of_le_of_lt hsize Bytes.maxSize_lt),
    copySamples_eq_ok_iff_of_asInterleaved? hareas hbuffer hpos hsize]
  obtain rfl | hframes := Nat.eq_zero_or_pos frames
  · rw [Nat.add_zero, ← Nat.not_lt]
    simp [and_comm]
  · simp [Nat.pos_iff_ne_zero.mp hframes]

/-- Where there is a frame, or the copy starts at the first one, a copy goes as that of the samples
does. -/
theorem copyInterleaved_eq_ok_iff_copySamples (hplace : 0 < frames ∨ offset = 0) :
    a.copyInterleaved g offset frames = .ok flat ↔
      a.copySamples g offset frames (frames * g.frameBytes) = .ok flat := by
  by_cases hlt : frames * g.frameBytes < Count.limit
  · rw [copyInterleaved_eq_sliceInterleaved hareas hbuffer hlt,
      sliceInterleaved_eq_ok_iff_copySamples hareas hbuffer hpos hsize]
    refine and_iff_left ?_
    rintro ⟨rfl, hbehind⟩
    obtain hframes | rfl := hplace
    · exact Nat.lt_irrefl 0 hframes
    · rw [Nat.zero_mul] at hbehind
      exact Nat.not_lt_zero _ hbehind
  · -- More bytes than there are counts are in no buffer.
    rw [copySamples_eq_ok_iff_of_asInterleaved? hareas hbuffer hpos hsize]
    refine ⟨fun hok => absurd (bounds_of_copyInterleaved_eq_ok hok).2.1 hlt, ?_⟩
    rintro ⟨rfl | hinside, -⟩
    · exact absurd (by rw [Nat.zero_mul]; decide) hlt
    · have hmax := Bytes.maxSize_lt
      rw [Nat.add_mul] at hinside
      omega

end Interleaved

/-- Areas that are one interleaved buffer have a channel. -/
theorem areas_size_pos (hbuffer : a.asInterleaved? g = some buffer) : 0 < a.areas.size := by
  rw [asInterleaved?] at hbuffer
  cases hfirst : a.areas[0]? with
  | none =>
      rw [hfirst] at hbuffer
      cases hbuffer
  | some first => exact (Array.getElem?_eq_some_iff.mp hfirst).1

/-- A copy of at least one frame succeeds exactly when there is room for it and every sample can be
read, whichever way it goes. -/
theorem copyInterleaved_eq_ok_iff (hsize : ∀ area ∈ a.areas, (a.memory area).size < Count.limit)
    (hframes : 0 < frames) :
    a.copyInterleaved g offset frames = .ok flat ↔
      a.areas.size = g.channelCount ∧ frames * g.frameBytes < Count.limit ∧
        a.HasRoom g frames ∧ a.Readable g offset frames ∧
        flat = a.flatten g offset frames := by
  cases hbuffer : a.asInterleaved? g with
  | none =>
      rw [copyInterleaved_eq_ok_iff_of_strided hbuffer hsize]
      constructor
      · rintro ⟨hareas, hroom, h⟩
        exact ⟨hareas, Nat.lt_of_le_of_lt hroom Bytes.maxSize_lt, .of_le hroom, h⟩
      · rintro ⟨hareas, -, hroom, h⟩
        exact ⟨hareas, hroom hbuffer, h⟩
  | some buffer =>
      have hfirst := areas_size_pos hbuffer
      obtain ⟨hmemory, -⟩ :=
        eq_interleaved_of_asInterleaved? hbuffer (Array.getElem?_eq_getElem hfirst)
      have hcount : buffer.size < Count.limit := by
        rw [← hmemory]
        exact hsize _ (Array.getElem_mem hfirst)
      have hcopy : a.areas.size = g.channelCount → frames * g.frameBytes < Count.limit →
          (a.copyInterleaved g offset frames = .ok flat ↔
            a.Readable g offset frames ∧ flat = a.flatten g offset frames) := by
        intro hareas hlt
        have hpos : 0 < g.channelCount := hareas ▸ hfirst
        rw [readable_iff_of_asInterleaved? hareas hbuffer hpos hframes,
          ← sliceInterleaved_eq_ok_iff hareas hbuffer hpos hcount,
          copyInterleaved_eq_sliceInterleaved hareas hbuffer hlt]
      constructor
      · intro h
        obtain ⟨hareas, hlt, hroom⟩ := bounds_of_copyInterleaved_eq_ok h
        exact ⟨hareas, hlt, hroom, (hcopy hareas hlt).mp h⟩
      · rintro ⟨hareas, hlt, -, h⟩
        exact (hcopy hareas hlt).mpr h

theorem toOption_eq_of_ok_iff {result result' : Except AreaError Bytes}
    (h : ∀ flat, result = .ok flat ↔ result' = .ok flat) : result.toOption = result'.toOption := by
  cases hresult : result with
  | ok flat => rw [(h flat).mp hresult]
  | error fault =>
      cases hresult' : result' with
      | ok flat =>
          have hok := (h flat).mpr hresult'
          rw [hresult] at hok
          cases hok
      | error fault' => rfl

/-- A copy of one interleaved buffer is the copy of a slice. It and the copy of the samples succeed
together and yield the same bytes, but for a slice of no frames that starts behind the buffer. Spans
of a ring have frames, and transfers start at the first one, so for them the two are the same. -/
theorem slice_agrees_with_samples (hpos : 0 < g.channelCount)
    (hareas : a.areas.size = g.channelCount) (hbuffer : a.asInterleaved? g = some buffer)
    (hsize : buffer.size < 2 ^ 63) :
    (∀ offset frames, frames * g.frameBytes < Count.limit →
      a.copyInterleaved g offset frames = sliceInterleaved buffer offset frames g) ∧
    (∀ offset frames flat, sliceInterleaved buffer offset frames g = .ok flat ↔
      a.copySamples g offset frames (frames * g.frameBytes) = .ok flat ∧
        ¬ (frames = 0 ∧ buffer.size < offset * g.frameBytes)) ∧
    (∀ offset, buffer.size < offset * g.frameBytes →
      (∃ fault, sliceInterleaved buffer offset 0 g = .error fault) ∧
        a.copySamples g offset 0 (0 * g.frameBytes) = .ok #[]) ∧
    (∀ (c : RingCursor) (n : Nat), ∀ span ∈ (c.split n).toList,
      (a.copyInterleaved g span.offset span.frames).toOption =
        (a.copySamples g span.offset span.frames (span.frames * g.frameBytes)).toOption) ∧
    (∀ frames, (a.copyInterleaved g 0 frames).toOption =
      (a.copySamples g 0 frames (frames * g.frameBytes)).toOption) := by
  have hroom : buffer.size ≤ Bytes.maxSize := Nat.le_of_lt_succ hsize
  have hagree : ∀ offset frames flat, sliceInterleaved buffer offset frames g = .ok flat ↔
      a.copySamples g offset frames (frames * g.frameBytes) = .ok flat ∧
        ¬ (frames = 0 ∧ buffer.size < offset * g.frameBytes) := fun _ _ _ =>
    sliceInterleaved_eq_ok_iff_copySamples hareas hbuffer hpos hroom
  have hsame : ∀ offset frames, 0 < frames ∨ offset = 0 →
      (a.copyInterleaved g offset frames).toOption =
        (a.copySamples g offset frames (frames * g.frameBytes)).toOption :=
    fun _ _ hplace => toOption_eq_of_ok_iff fun _ =>
      copyInterleaved_eq_ok_iff_copySamples hareas hbuffer hpos hroom hplace
  refine ⟨fun _ _ => copyInterleaved_eq_sliceInterleaved hareas hbuffer, hagree, ?_, ?_, ?_⟩
  · intro offset hbehind
    refine ⟨?_, ?_⟩
    · cases hslice : sliceInterleaved buffer offset 0 g with
      | error fault => exact ⟨fault, rfl⟩
      | ok flat => exact absurd ⟨rfl, hbehind⟩ ((hagree offset 0 flat).mp hslice).2
    · rw [copySamples_eq_ok_iff_of_asInterleaved? hareas hbuffer hpos hroom]
      exact ⟨.inl rfl, by simp [flatten]⟩
  · intro c n span hmem
    exact hsame _ _ (.inl (RingSpans.bounds_of_mem_toList hmem).1)
  · intro frames
    exact hsame _ _ (.inr rfl)

/-- Two frames in one buffer: the second one is copied either way, and only the slice minds to start
behind the buffer without a frame. -/
theorem slice_agrees_with_samples_behind :
    let g : FrameGeometry := ⟨2, .s16le⟩
    let buffer : Memory := .ofBytes #[1, 2, 3, 4, 5, 6, 7, 8]
    let a : ChannelAreas := .interleaved #[1, 2, 3, 4, 5, 6, 7, 8] g
    0 < g.channelCount ∧ a.areas.size = g.channelCount ∧ a.asInterleaved? g = some buffer ∧
      buffer.size < 2 ^ 63 ∧
      a.copyInterleaved g 1 1 = sliceInterleaved buffer 1 1 g ∧
      sliceInterleaved buffer 1 1 g = .ok #[5, 6, 7, 8] ∧
      a.copySamples g 1 1 (1 * g.frameBytes) = .ok #[5, 6, 7, 8] ∧
      (∃ fault, sliceInterleaved buffer 3 0 g = .error fault) ∧
      a.copySamples g 3 0 (0 * g.frameBytes) = .ok #[] := by
  intro g buffer a
  have hpos : 0 < g.channelCount := by decide
  have hareas : a.areas.size = g.channelCount := by decide +kernel
  have hbuffer : a.asInterleaved? g = some buffer := by decide +kernel
  have hsize : buffer.size < 2 ^ 63 := by decide +kernel
  obtain ⟨hcopy, hagree, hbehind, -, -⟩ := slice_agrees_with_samples hpos hareas hbuffer hsize
  have hslice : sliceInterleaved buffer 1 1 g = .ok #[5, 6, 7, 8] := by cbv
  obtain ⟨hfails, hnone⟩ := hbehind 3 (by decide +kernel)
  exact ⟨hpos, hareas, hbuffer, hsize, hcopy 1 1 (by decide +kernel), hslice,
    ((hagree 1 1 _).mp hslice).1, hfails, hnone⟩

end FrameTee.ChannelAreas
