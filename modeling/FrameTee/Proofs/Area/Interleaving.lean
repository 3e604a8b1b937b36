import FrameTee.Proofs.Area.Planar

/-!
# Interleaved frames and one buffer per channel

`Interleaves` is what it means that one buffer holds the same frames as one buffer per channel. The
copy of planar areas yields the interleaving (`Interleaves.copyInterleaved_eq_ok`), and what a
planar read makes of interleaved frames is interleaved to them (`interleaves_spread`).
-/

namespace FrameTee

/-- `flat` is the interleaving of the first `frames` samples of one buffer per channel. -/
structure Interleaves (g : FrameGeometry) (planes : Array Bytes) (frames : Nat) (flat : Bytes) :
    Prop where
  /-- There is one buffer per channel. -/
  count : planes.size = g.channelCount
  /-- Every buffer holds that many samples. -/
  long : ∀ (c : Nat) (plane : Bytes), planes[c]? = some plane →
    frames * g.sampleBytes ≤ plane.size
  /-- The interleaved buffer holds these frames and no more. -/
  size : flat.size = frames * g.frameBytes
  /-- The samples of a frame follow one another in channel order. -/
  byte : ∀ (c : Nat) (plane : Bytes), planes[c]? = some plane → ∀ frame < frames,
    ∀ i < g.sampleBytes, flat[frame * g.frameBytes + c * g.sampleBytes + i]? =
      plane[frame * g.sampleBytes + i]?

variable {g : FrameGeometry} {planes : Array Bytes} {frames n : Nat} {flat : Bytes}

/-- What holds of all buffers holds of the buffer of every channel. -/
theorem forall_getElem?_iff {P : Nat → Bytes → Prop} :
    (∀ (c : Nat) (plane : Bytes), planes[c]? = some plane → P c plane) ↔
      ∀ (c : Nat) (hc : c < planes.size), P c planes[c] := by
  constructor
  · intro h c hc
    exact h c planes[c] (Array.getElem?_eq_getElem hc)
  · intro h c plane hplane
    obtain ⟨hc, rfl⟩ := Array.getElem?_eq_some_iff.mp hplane
    exact h c hc

namespace Interleaves

theorem iff_forall_getElem : Interleaves g planes frames flat ↔
    planes.size = g.channelCount ∧
      (∀ (c : Nat) (hc : c < planes.size), frames * g.sampleBytes ≤ planes[c].size) ∧
      flat.size = frames * g.frameBytes ∧
      ∀ (c : Nat) (hc : c < planes.size), ∀ frame < frames, ∀ i < g.sampleBytes,
        flat[frame * g.frameBytes + c * g.sampleBytes + i]? =
          planes[c][frame * g.sampleBytes + i]? := by
  constructor
  · rintro ⟨hcount, hlong, hsize, hbyte⟩
    exact ⟨hcount, forall_getElem?_iff.mp hlong, hsize, forall_getElem?_iff.mp hbyte⟩
  · rintro ⟨hcount, hlong, hsize, hbyte⟩
    exact ⟨hcount, forall_getElem?_iff.mpr hlong, hsize, forall_getElem?_iff.mpr hbyte⟩

instance (g : FrameGeometry) (planes : Array Bytes) (frames : Nat) (flat : Bytes) :
    Decidable (Interleaves g planes frames flat) :=
  decidable_of_iff _ iff_forall_getElem.symm

/-- A byte of the interleaved frames is found in the buffer of its channel. -/
theorem getElem?_flat (h : Interleaves g planes frames flat) (hpos : 0 < g.channelCount) {i : Nat}
    (hi : i < frames * g.frameBytes) :
    flat[i]? = some ((ChannelAreas.planar planes g).interleavedByte g 0 i) := by
  have hframeBytes := g.frameBytes_pos hpos
  have hframe : i / g.frameBytes < frames := (Nat.div_lt_iff_lt_mul hframeBytes).mpr hi
  have hwithin := Nat.mod_lt i hframeBytes
  have hsample := Nat.mod_lt (i % g.frameBytes) g.sampleBytes_pos
  have hc : i % g.frameBytes / g.sampleBytes < planes.size := by
    rw [h.count]
    exact g.channel_lt hwithin
  have hplane : planes[i % g.frameBytes / g.sampleBytes]? =
      some planes[i % g.frameBytes / g.sampleBytes] := Array.getElem?_eq_getElem hc
  have hbyte := h.byte _ _ hplane _ hframe _ hsample
  have hi' := g.byte_eq i
  rw [← Nat.add_assoc] at hi'
  rw [hi'] at hbyte
  have hflat : i < flat.size := by
    rw [h.size]
    exact hi
  rw [ChannelAreas.interleavedByte_planar hplane, Array.getD_eq_getD_getElem?, ← hbyte,
    Array.getElem?_eq_getElem hflat, Option.getD_some]

/-- The copy of the first frames of planar areas is the first part of their interleaving, if there
is room for them. -/
theorem copyInterleaved_eq_ok (h : Interleaves g planes frames flat) (hpos : 0 < g.channelCount)
    (hroom : n * g.frameBytes ≤ Bytes.maxSize) (hn : n ≤ frames) :
    (ChannelAreas.planar planes g).copyInterleaved g 0 n =
      .ok (flat.extract 0 (n * g.frameBytes)) := by
  have hbytes : n * g.frameBytes ≤ frames * g.frameBytes := Nat.mul_le_mul_right _ hn
  have hcovers : (ChannelAreas.planar planes g).Covers g 0 n := by
    apply ChannelAreas.covers_planar h.count hpos _ (Nat.lt_of_le_of_lt hroom Bytes.maxSize_lt)
      (.of_le hroom)
    intro c plane hplane
    exact Nat.le_trans (Nat.mul_le_mul_right _ hn) (h.long c plane hplane)
  rw [ChannelAreas.copyInterleaved_eq_ok hcovers (.inr fun _ _ => by simp)]
  -- Both sides are byte sequences of the first `n` frames, so compare them byte by byte.
  congr 1
  apply Array.ext_getElem?
  intro i
  rw [Array.getElem?_extract, h.size, Nat.min_eq_left hbytes, Nat.sub_zero, Nat.zero_add]
  split
  · rename_i hi
    rw [ChannelAreas.getElem?_flatten hi, h.getElem?_flat hpos (by omega)]
  · rename_i hi
    rw [Array.getElem?_eq_none]
    rw [ChannelAreas.size_flatten]
    omega

/-- The copy of all frames of planar areas is their interleaving. -/
theorem copyInterleaved_all (h : Interleaves g planes frames flat) (hpos : 0 < g.channelCount)
    (hroom : flat.size ≤ Bytes.maxSize) :
    (ChannelAreas.planar planes g).copyInterleaved g 0 frames = .ok flat := by
  rw [h.size] at hroom
  rw [h.copyInterleaved_eq_ok hpos hroom (Nat.le_refl frames), ← h.size, Array.extract_size]

end Interleaves

namespace ChannelAreas

/-- A buffer that contains the samples of frames is long enough for them. -/
theorem Contains.le_size_planar (h : (planar planes g).Contains g 0 n) (hn : 0 < n) {c : Nat}
    {plane : Bytes} (hplane : planes[c]? = some plane) : n * g.sampleBytes ≤ plane.size := by
  have hc := (Array.getElem?_eq_some_iff.mp hplane).1
  have hlast := h.inside c _ (by rw [getElem?_planar, if_pos hc]) (n - 1) (by omega)
  rw [memory_planar hplane, address_planarBuffer, Memory.size_ofBytes, ← Nat.succ_mul] at hlast
  rwa [Nat.zero_add, Nat.succ_eq_add_one, Nat.sub_add_cancel hn] at hlast

/-- Buffers that contain the samples of frames are flattened to their interleaving. -/
theorem Contains.interleaves (h : (planar planes g).Contains g 0 n) (hn : 0 < n) :
    Interleaves g planes n ((planar planes g).flatten g 0 n) where
  count := size_areas_planar.symm.trans h.areas_size
  long _ _ hplane := h.le_size_planar hn hplane
  size := size_flatten
  byte := by
    intro c plane hplane frame hframe i hi
    have hc : c < g.channelCount := by
      rw [← h.areas_size, size_areas_planar]
      exact (Array.getElem?_eq_some_iff.mp hplane).1
    have hlast : (frame + 1) * g.sampleBytes ≤ n * g.sampleBytes := Nat.mul_le_mul_right _ hframe
    rw [Nat.succ_mul] at hlast
    have hbyte : frame * g.sampleBytes + i < plane.size := by
      have hlong := h.le_size_planar hn hplane
      omega
    obtain ⟨hdiv, hchannel, hsample⟩ := g.sample_of_byte h.channels_pos frame hc hi
    rw [getElem?_flatten (g.byte_lt hframe hc hi),
      interleavedByte_planar (by rw [hchannel]; exact hplane), hdiv, hsample,
      Bytes.getElem?_eq_some_getD hbyte]

/-- Without channels there is nothing to copy. -/
theorem copyInterleaved_planar_of_no_channels (hcount : planes.size = g.channelCount)
    (hnone : g.channelCount = 0) : (planar planes g).copyInterleaved g 0 n = .ok #[] := by
  obtain rfl : planes = #[] := Array.eq_empty_of_size_eq_zero (hcount.trans hnone)
  have hbytes : n * g.frameBytes = 0 := by
    rw [g.frameBytes_eq, hnone, Nat.zero_mul, Nat.mul_zero]
  have hlt : n * g.frameBytes < Count.limit := by
    rw [hbytes]
    decide
  rw [copyInterleaved, if_neg (not_not_intro (size_areas_planar.trans hcount)),
    g.framesToBytes?_eq_some hlt]
  simp [asInterleaved?, copySamples, findFault?, planar, hbytes]

/-- A copy of planar areas succeeds if there is room for the frames and every buffer holds them. -/
theorem exists_copyInterleaved_planar_eq_ok (hn : 0 < n) (hcount : planes.size = g.channelCount)
    (hlong : ∀ (c : Nat) (plane : Bytes), planes[c]? = some plane →
      n * g.sampleBytes ≤ plane.size)
    (hlt : n * g.frameBytes < Count.limit) (hroom : (planar planes g).HasRoom g n) :
    ∃ flat, (planar planes g).copyInterleaved g 0 n = .ok flat := by
  by_cases hpos : 0 < g.channelCount
  · have hcovers := covers_planar hcount hpos hlong hlt hroom
    exact ⟨_, hcovers.contains.copyInterleaved_eq_ok hn⟩
  · exact ⟨_, copyInterleaved_planar_of_no_channels hcount (by omega)⟩

/-- A copy of planar areas succeeds only if the frames can be counted in bytes, and yields their
interleaving. -/
theorem interleaves_of_copyInterleaved_eq_ok (hn : 0 < n)
    (h : (planar planes g).copyInterleaved g 0 n = .ok flat) :
    n * g.frameBytes < Count.limit ∧ Interleaves g planes n flat := by
  obtain ⟨hareas, hlt, -⟩ := bounds_of_copyInterleaved_eq_ok h
  refine ⟨hlt, ?_⟩
  by_cases hpos : 0 < g.channelCount
  · have hle : 0 + n ≤ Count.limit := by
      rw [Nat.zero_add]
      exact Nat.le_trans (Nat.le_mul_of_pos_right _ (g.frameBytes_pos hpos)) (Nat.le_of_lt hlt)
    have hcontains := contains_of_copyInterleaved_eq_ok h hpos hn hle
    obtain rfl : (planar planes g).flatten g 0 n = flat :=
      Except.ok.inj ((hcontains.copyInterleaved_eq_ok hn).symm.trans h)
    exact hcontains.interleaves hn
  · have hcount := size_areas_planar.symm.trans hareas
    refine ⟨hcount, ?_, size_of_copyInterleaved_eq_ok h, ?_⟩
    all_goals
      intro c plane hplane
      have hc := (Array.getElem?_eq_some_iff.mp hplane).1
      omega

end ChannelAreas

/-- Frames that were taken apart are interleaved to what they were. -/
theorem interleaves_spread (hcount : planes.size = g.channelCount)
    (hlong : ∀ (c : Nat) (plane : Bytes), planes[c]? = some plane →
      n * g.sampleBytes ≤ plane.size)
    (hsize : flat.size = n * g.frameBytes) :
    Interleaves g (MemoryDevice.spread g flat n planes) n flat where
  count := by
    rw [← hcount]
    simp [MemoryDevice.spread]
  long := by
    intro c plane hplane
    rw [MemoryDevice.getElem?_spread] at hplane
    obtain ⟨before, hbefore, rfl⟩ := Option.map_eq_some_iff.mp hplane
    rw [MemoryDevice.size_spreadChannel]
    exact hlong c before hbefore
  size := hsize
  byte := by
    intro c plane hplane frame hframe i hi
    rw [MemoryDevice.getElem?_spread] at hplane
    obtain ⟨before, hbefore, rfl⟩ := Option.map_eq_some_iff.mp hplane
    have hc : c < g.channelCount := by
      rw [← hcount]
      exact (Array.getElem?_eq_some_iff.mp hbefore).1
    have hlast : (frame + 1) * g.sampleBytes ≤ n * g.sampleBytes := Nat.mul_le_mul_right _ hframe
    rw [Nat.succ_mul] at hlast
    have hinside := hlong c before hbefore
    have hdiv : (frame * g.sampleBytes + i) / g.sampleBytes = frame := by
      rw [Nat.add_comm, Nat.add_mul_div_right _ _ g.sampleBytes_pos, Nat.div_eq_of_lt hi,
        Nat.zero_add]
    have hmod : (frame * g.sampleBytes + i) % g.sampleBytes = i := by
      rw [Nat.mul_add_mod', Nat.mod_eq_of_lt hi]
    have hflat : frame * g.frameBytes + c * g.sampleBytes + i < flat.size := by
      rw [hsize]
      exact g.byte_lt hframe hc hi
    rw [MemoryDevice.getElem?_spreadChannel, Nat.zero_mul, Nat.zero_add, if_pos (by omega), hdiv,
      hmod, Array.getElem?_eq_getElem hflat]
    simp [hflat]

/-- Frames that were taken apart are flattened to what they were. -/
theorem MemoryDevice.copyInterleaved_spread (hcount : planes.size = g.channelCount)
    (hpos : 0 < g.channelCount)
    (hlong : ∀ (c : Nat) (plane : Bytes), planes[c]? = some plane →
      n * g.sampleBytes ≤ plane.size)
    (hroom : n * g.frameBytes ≤ Bytes.maxSize) (hsize : flat.size = n * g.frameBytes) :
    (ChannelAreas.planar (spread g flat n planes) g).copyInterleaved g 0 n = .ok flat := by
  have hsmall : flat.size ≤ Bytes.maxSize := by
    rw [hsize]
    exact hroom
  exact (interleaves_spread hcount hlong hsize).copyInterleaved_all hpos hsmall

end FrameTee
