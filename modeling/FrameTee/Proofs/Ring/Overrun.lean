import FrameTee.Proofs.Ring.Store

/-!
# Stores that run past the end of a ring

A store into a ring of a device is stopped by the end of the ring's memory only. The samples that
fit are those whose slot is one of the ring (`MappedRing.Laid.fits_iff`). In an interleaved ring
these are the samples of the frames of the ring. In a planar ring the frames of a channel behind the
last one of its block have slots in the blocks of later channels (`RingLayout.slot_planar`), so what
is stored there replaces samples of other channels (`MappedRing.Laid.get_store_of_spilled`).

All moves before the first that does not fit are made and none of the others
(`MappedRing.Laid.storeInterleaved_eq`).
-/

namespace FrameTee

namespace RingLayout

variable {layout : RingLayout} {s : StreamSetup} {c frame : Nat}

/-- In a planar ring a frame behind the block of a channel has the slot of a frame of a later
channel. -/
theorem slot_planar (s : StreamSetup) (c frame : Nat) :
    planar.slot s c frame = planar.slot s (c + frame / s.bufferSize) (frame % s.bufferSize) := by
  change c * s.bufferSize + frame =
    (c + frame / s.bufferSize) * s.bufferSize + frame % s.bufferSize
  rw [Nat.add_mul, Nat.add_assoc, Nat.div_add_mod']

/-- A slot of the ring belongs to a frame of the ring, or it is one of a later channel. -/
theorem of_slot_lt (h : layout.slot s c frame < s.bufferSize * s.geometry.channelCount) :
    frame < s.bufferSize ∨
      layout = .planar ∧ c + frame / s.bufferSize < s.geometry.channelCount := by
  cases layout with
  | interleaved =>
      refine .inl (Nat.lt_of_mul_lt_mul_right (a := s.geometry.channelCount) ?_)
      exact Nat.lt_of_le_of_lt (Nat.le_add_right _ c) h
  | planar =>
      refine .inr ⟨rfl, Nat.lt_of_mul_lt_mul_right (a := s.bufferSize) ?_⟩
      rw [slot_planar, Nat.mul_comm s.bufferSize] at h
      exact Nat.lt_of_le_of_lt (Nat.le_add_right _ _) h

/-- The last channel has no slots of the ring for frames behind the ring. -/
theorem frame_lt_of_last (h : layout.slot s (s.geometry.channelCount - 1) frame <
    s.bufferSize * s.geometry.channelCount) (hpos : 0 < s.geometry.channelCount) :
    frame < s.bufferSize := by
  obtain hframe | ⟨-, hchannel⟩ := of_slot_lt h
  · exact hframe
  · have hzero : frame / s.bufferSize = 0 := Nat.eq_zero_of_not_pos fun _ => by omega
    obtain hnone | hframe := Nat.div_eq_zero_iff.mp hzero
    · rw [hnone, Nat.zero_mul] at h
      exact absurd h (Nat.not_lt_zero _)
    · exact hframe

/-- Among frames less than two rings from the start and less than a ring apart, a sample behind the
block of its channel shares its slot with no other. -/
theorem slot_planar_spilled {c' frame' : Nat} (hspills : s.bufferSize ≤ frame)
    (hnear : frame' < 2 * s.bufferSize) (hfirst : frame < frame' + s.bufferSize)
    (h : planar.slot s c' frame' = planar.slot s c frame) : c' = c ∧ frame' = frame := by
  change c' * s.bufferSize + frame' = c * s.bufferSize + frame at h
  obtain hlt | rfl | hgt := Nat.lt_trichotomy c' c
  · have hblock := Nat.mul_le_mul_right s.bufferSize hlt
    rw [Nat.succ_mul] at hblock
    omega
  · exact ⟨rfl, by omega⟩
  · have hblock := Nat.mul_le_mul_right s.bufferSize hgt
    rw [Nat.succ_mul] at hblock
    omega

end RingLayout

namespace MappedRing

variable {ring : MappedRing} {layout : RingLayout} {s : StreamSetup} {offset : Nat} {src : Bytes}

theorem sampleMoves_append (g : FrameGeometry) (offset frames channel : Nat)
    (before after : List AreaLayout) :
    sampleMoves g offset frames channel (before ++ after) =
      sampleMoves g offset frames channel before ++
        sampleMoves g offset frames (channel + before.length) after := by
  rw [sampleMoves, List.zipIdx_append, List.flatMap_append]
  rfl

namespace Laid

variable (h : ring.Laid layout s)
include h

/-- A sample fits into the memory when its slot is one of the ring. -/
theorem fits_iff {c frame : Nat} :
    (sampleMove s.geometry offset c (layout.channel s c) frame).Fits s.geometry.sampleBytes
        ring.data.size ↔
      layout.slot s c (offset + frame) < s.bufferSize * s.geometry.channelCount := by
  have hring : ring.data.size =
      s.bufferSize * s.geometry.channelCount * s.geometry.sampleBytes := by
    rw [h.size, StreamSetup.ringBytes, s.geometry.frameBytes_eq, Nat.mul_assoc]
  rw [SampleMove.Fits, sampleMove, RingLayout.address_channel, hring, ← Nat.succ_mul,
    Nat.mul_le_mul_right_iff s.geometry.sampleBytes_pos, Nat.succ_le_iff]

/-- All samples fit when there are none or the frames end inside the ring. -/
theorem forall_fits_iff (offset frames : Nat) :
    (∀ move ∈ sampleMoves s.geometry offset frames 0 ring.layouts.toList,
        move.Fits s.geometry.sampleBytes ring.data.size) ↔
      frames = 0 ∨ offset + frames ≤ s.bufferSize := by
  constructor
  · intro hfits
    obtain hnone | hsome := Nat.eq_zero_or_pos frames
    · exact .inl hnone
    · have hlast : s.geometry.channelCount - 1 < s.geometry.channelCount :=
        Nat.sub_lt h.supported.channels_pos Nat.one_pos
      have hmove := hfits _ (mem_sampleMoves_toList.mpr
        ⟨_, _, h.getElem?_layouts hlast, frames - 1, by omega, rfl⟩)
      have hframe := RingLayout.frame_lt_of_last (h.fits_iff.mp hmove) h.supported.channels_pos
      exact .inr (by omega)
  · intro hinside move hmove
    obtain ⟨c, frame, hc, hframe, rfl⟩ := h.exists_of_mem_sampleMoves hmove
    rw [h.fits_iff]
    exact RingLayout.slot_lt hc (by omega)

/-- A store makes the moves before the first one that does not fit, and it succeeds when the frames
end inside the ring. -/
theorem storeInterleaved_eq (offset : Nat) (src : Bytes) :
    (ring.storeInterleaved s.geometry offset src).2 =
        SampleMove.makeAll src s.geometry.sampleBytes
          (ring.fittingMoves s.geometry offset (s.geometry.bytesToFrames src.size)) ring.data ∧
      ((ring.storeInterleaved s.geometry offset src).1 = .ok () ↔
        s.geometry.bytesToFrames src.size = 0 ∨
          offset + s.geometry.bytesToFrames src.size ≤ s.bufferSize) := by
  rw [← h.forall_fits_iff]
  apply storeInterleaved_eq_fittingMoves h.size_layouts
  intro c area harea frame _ hinside
  have hsmall : ring.data.size < Count.limit := h.size ▸ h.supported.ringBytes_lt
  obtain ⟨-, rfl⟩ := h.of_getElem?_layouts harea
  exact ⟨layout.aligned_channel s c, Nat.lt_of_le_of_lt hinside hsmall, hinside⟩

/-- If all samples of the channels up to one fit, the samples of that channel are stored. -/
theorem mem_fittingMoves {c frame frames : Nat} (hc : c < s.geometry.channelCount)
    (hframe : frame < frames) (hfits : ∀ c' ≤ c, ∀ frame' < frames,
      layout.slot s c' (offset + frame') < s.bufferSize * s.geometry.channelCount) :
    sampleMove s.geometry offset c (layout.channel s c) frame ∈
      ring.fittingMoves s.geometry offset frames := by
  have hlayouts : ∀ c' ≤ c, (ring.layouts.toList.take (c + 1))[c']? =
      some (layout.channel s c') := by
    intro c' hle
    rw [List.getElem?_take_of_lt (Nat.lt_succ_of_le hle), Array.getElem?_toList,
      h.getElem?_layouts (by omega)]
  -- The moves of these channels come first.
  rw [fittingMoves, ← List.take_append_drop (c + 1) ring.layouts.toList, sampleMoves_append,
    List.takeWhile_append_of_pos, List.mem_append]
  · exact .inl (mem_sampleMoves.mpr ⟨c, _, hlayouts c (Nat.le_refl c), frame, hframe, rfl⟩)
  · intro move hmove
    obtain ⟨c', area, harea, frame', hframe', rfl⟩ := mem_sampleMoves.mp hmove
    have hle : c' ≤ c := by
      have hlt := (List.getElem?_eq_some_iff.mp harea).1
      rw [List.length_take] at hlt
      omega
    rw [hlayouts c' hle] at harea
    obtain rfl := Option.some.inj harea
    exact decide_eq_true (h.fits_iff.mpr (hfits c' hle frame' hframe'))

/-- A byte after a store is as before, or it is the source's byte of a sample that fits. -/
theorem get_storeInterleaved_cases (offset : Nat) (src : Bytes) (x : Nat) :
    (ring.storeInterleaved s.geometry offset src).2.get x = ring.data.get x ∨
      ∃ c frame byte, c < s.geometry.channelCount ∧
        frame < s.geometry.bytesToFrames src.size ∧ byte < s.geometry.sampleBytes ∧
        layout.slot s c (offset + frame) < s.bufferSize * s.geometry.channelCount ∧
        x = layout.slot s c (offset + frame) * s.geometry.sampleBytes + byte ∧
        (ring.storeInterleaved s.geometry offset src).2.get x =
          src.getD (frame * s.geometry.frameBytes + c * s.geometry.sampleBytes + byte) 0 := by
  rw [(h.storeInterleaved_eq offset src).1]
  obtain hsame | ⟨move, hmove, hreaches, hget⟩ := SampleMove.get_makeAll_cases src
    s.geometry.sampleBytes
    (ring.fittingMoves s.geometry offset (s.geometry.bytesToFrames src.size)) ring.data x
  · exact .inl hsame
  · obtain ⟨hmem, hfits⟩ := of_mem_fittingMoves hmove
    obtain ⟨c, frame, hc, hframe, rfl⟩ := h.exists_of_mem_sampleMoves hmem
    rw [SampleMove.Reaches, sampleMove, RingLayout.address_channel] at hreaches
    rw [sampleMove, RingLayout.address_channel] at hget
    exact .inr ⟨c, frame, _, hc, hframe, by omega, h.fits_iff.mp hfits,
      (Nat.add_sub_cancel' hreaches.1).symm, hget⟩

end Laid

/-- In a planar ring the samples that run past the block of their channel replace those of the next
channel, if that one does not store over them again. -/
theorem Laid.get_store_of_spilled (h : ring.Laid .planar s)
    (hnear : offset + s.geometry.bytesToFrames src.size ≤ 2 * s.bufferSize) {c frame byte : Nat}
    (hc : c + 1 < s.geometry.channelCount) (hframe : frame < s.geometry.bytesToFrames src.size)
    (hspills : s.bufferSize ≤ offset + frame) (hfirst : frame < s.bufferSize)
    (hbyte : byte < s.geometry.sampleBytes) :
    (ring.storeInterleaved s.geometry offset src).2.get
        (RingLayout.planar.slot s c (offset + frame) * s.geometry.sampleBytes + byte) =
      src.getD (frame * s.geometry.frameBytes + c * s.geometry.sampleBytes + byte) 0 := by
  have hlast : (c + 2) * s.bufferSize ≤ s.bufferSize * s.geometry.channelCount := by
    rw [Nat.mul_comm s.bufferSize]
    exact Nat.mul_le_mul_right _ hc
  have hfits : ∀ c' ≤ c, ∀ frame' < s.geometry.bytesToFrames src.size,
      RingLayout.planar.slot s c' (offset + frame') < s.bufferSize * s.geometry.channelCount := by
    intro c' hle frame' hframe'
    have hblock := Nat.mul_le_mul_right s.bufferSize hle
    change c' * s.bufferSize + (offset + frame') < _
    rw [Nat.add_mul] at hlast
    omega
  have hmem := h.mem_fittingMoves (Nat.lt_of_succ_lt hc) hframe hfits
  rw [(h.storeInterleaved_eq offset src).1, SampleMove.get_makeAll_of_mem _ hmem]
  · rw [sampleMove, RingLayout.address_channel, Nat.add_sub_cancel_left]
  · rw [SampleMove.Reaches, sampleMove, RingLayout.address_channel]
    exact ⟨Nat.le_add_right _ _, Nat.add_lt_add_left hbyte _⟩
  · have hslot := h.fits_iff.mpr (hfits c (Nat.le_refl c) frame hframe)
    rw [SampleMove.Fits, sampleMove, RingLayout.address_channel] at hslot
    exact Nat.lt_of_lt_of_le (Nat.add_lt_add_left hbyte _) hslot
  · intro other hother hreaches
    obtain ⟨c', frame', -, hframe', rfl⟩ :=
      h.exists_of_mem_sampleMoves (of_mem_fittingMoves hother).1
    rw [SampleMove.Reaches, sampleMove, RingLayout.address_channel] at hreaches
    have hslot := RingLayout.slot_of_byte hreaches ⟨Nat.le_add_right _ _, by omega⟩
    obtain ⟨rfl, hsame⟩ :=
      RingLayout.slot_planar_spilled hspills (by omega) (by omega) hslot
    rw [Nat.add_left_cancel hsame]

end MappedRing

end FrameTee
