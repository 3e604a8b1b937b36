import FrameTee.Proofs.Area.Interleaving
import FrameTee.Proofs.Device.Guarded

/-!
# Planar transfers of a memory device

A planar write of a memory device is the write of the interleaving of its buffers
(`MemoryDevice.writePlanar_eq_writeInterleaved`), and a planar read goes as an interleaved read does
(`MemoryDevice.readPlanar_eq_readInterleaved`). The checks of the buffers differ, so this is about
buffers that hold the frames asked for.
-/

namespace FrameTee

/-- Buffers for a planar and for an interleaved read of frames: one buffer per channel that holds as
many samples, and one that holds as many frames. -/
structure ReadRoom (g : FrameGeometry) (frames : Nat) (planes : Array Bytes) (flat : Bytes) :
    Prop where
  /-- There is one buffer per channel. -/
  count : planes.size = g.channelCount
  /-- Every buffer holds that many samples. -/
  long : ∀ (c : Nat) (plane : Bytes), planes[c]? = some plane →
    frames * g.sampleBytes ≤ plane.size
  /-- The interleaved buffer holds that many frames. -/
  size : frames * g.frameBytes ≤ flat.size
  /-- The size of a buffer is a count. -/
  lt : flat.size < Count.limit

/-- Where one buffer holds the frames, the bytes of the samples of a channel are a count. -/
theorem ReadRoom.samples_lt {g : FrameGeometry} {frames : Nat} {planes : Array Bytes} {flat : Bytes}
    (h : ReadRoom g frames planes flat) (hpos : 0 < g.channelCount) :
    frames * g.sampleBytes < Count.limit := by
  apply Nat.lt_of_le_of_lt _ h.lt
  apply Nat.le_trans _ h.size
  rw [g.frameBytes_eq, Nat.mul_left_comm]
  exact Nat.le_mul_of_pos_left _ hpos

namespace MemoryDevice

variable {m : MemoryDevice} {s : StreamSetup} {frames n : Nat} {planes : Array Bytes}
  {flat : Bytes}

theorem checkCount_eq_ok (h : n = s.geometry.channelCount) : checkCount s n = .ok () := by
  rw [checkCount, if_neg (not_not_intro h)]

theorem checkBuffer_eq_ok {needed available : Nat} (h : needed ≤ available) :
    checkBuffer needed available = .ok () := by
  rw [checkBuffer, if_neg (Nat.not_lt.mpr h)]

theorem forM_checkBuffer_eq_ok {needed : Nat} {buffers : List Bytes}
    (h : ∀ buffer ∈ buffers, needed ≤ buffer.size) :
    buffers.forM (fun buffer => checkBuffer needed buffer.size) = .ok () := by
  induction buffers with
  | nil => rfl
  | cons first rest ih =>
      change (checkBuffer needed first.size >>= fun _ =>
        rest.forM fun buffer => checkBuffer needed buffer.size) = .ok ()
      rw [checkBuffer_eq_ok (h first List.mem_cons_self)]
      exact ih fun buffer hmem => h buffer (List.mem_cons_of_mem _ hmem)

/-- A buffer that holds the frames passes its check. -/
theorem checkFrames_eq_ok {available : Nat} (hsize : frames * s.geometry.frameBytes ≤ available)
    (hlt : frames * s.geometry.frameBytes < Count.limit) :
    (byteLength s frames >>= (checkBuffer · available)) = .ok () := by
  rw [byteLength, s.geometry.framesToBytes?_eq_some hlt]
  exact checkBuffer_eq_ok hsize

/-- Buffers that hold the samples of the frames pass their checks. -/
theorem checkPlanar_eq_ok (hcount : planes.size = s.geometry.channelCount)
    (hlong : ∀ (c : Nat) (plane : Bytes), planes[c]? = some plane →
      frames * s.geometry.sampleBytes ≤ plane.size)
    (hlt : frames * s.geometry.sampleBytes < Count.limit) :
    checkPlanar s planes frames = .ok () := by
  rw [checkPlanar, checkCount_eq_ok hcount, sampleLength, Count.mul?_eq_some_iff.mpr ⟨rfl, hlt⟩]
  apply forM_checkBuffer_eq_ok
  intro buffer hmem
  obtain ⟨c, hc⟩ := Array.getElem?_of_mem (Array.mem_toList_iff.mp hmem)
  exact hlong c buffer hc

/-- Planar buffers that hold the frames granted can be copied. -/
theorem Grants.copyInterleaved_planar (hgrants : m.Grants s frames n) (h : m.Intact)
    (hcount : planes.size = s.geometry.channelCount)
    (hlong : ∀ (c : Nat) (plane : Bytes), planes[c]? = some plane →
      n * s.geometry.sampleBytes ≤ plane.size) :
    (ChannelAreas.planar planes s.geometry).copyInterleaved s.geometry 0 n =
      .ok ((ChannelAreas.planar planes s.geometry).flatten s.geometry 0 n) := by
  obtain ⟨layout, hlaid⟩ := h.laid s hgrants.setup
  have hcovers := ChannelAreas.covers_planar hcount hlaid.supported.channels_pos hlong
    (h.bytes_lt hgrants) (.of_le (h.bytes_le_maxSize hgrants))
  exact ChannelAreas.copyInterleaved_eq_ok hcovers (.inr fun _ _ => by simp)

/-- Frames that were granted can always be written, if the buffers hold them. -/
theorem storePlanar_granted (h : m.Intact) (hgrants : m.Grants s frames n)
    (hcount : planes.size = s.geometry.channelCount)
    (hlong : ∀ (c : Nat) (plane : Bytes), planes[c]? = some plane →
      n * s.geometry.sampleBytes ≤ plane.size) :
    ((m.granted n).storePlanar s planes n).result = .ok n := by
  obtain ⟨ring, hring, -⟩ := storeNext_granted h hgrants ChannelAreas.size_flatten
  rw [storePlanar, hgrants.copyInterleaved_planar h hcount hlong]
  dsimp only
  rw [hring]
  rfl

/-- A planar write is the write of the interleaving. -/
theorem writePlanar_eq_writeInterleaved (h : m.Intact)
    (hflat : ∀ s, m.setup = some s →
      Interleaves s.geometry planes frames flat ∧ flat.size < Count.limit) :
    m.writePlanar planes frames = m.writeInterleaved flat frames := by
  simp only [writePlanar, writeInterleaved]
  split
  · rename_i s hdirection hsetup
    obtain ⟨hinterleaves, hlt⟩ := hflat s hsetup
    obtain ⟨layout, hlaid⟩ := h.laid s hsetup
    rw [checkCount_eq_ok hinterleaves.count,
      checkFrames_eq_ok (Nat.le_of_eq hinterleaves.size.symm) (by rwa [← hinterleaves.size])]
    obtain ⟨e, fault, hbegin⟩ | ⟨s', n, hgrants, hbegin⟩ := m.beginTransfer_cases "write" frames
    · rw [hbegin]
    · obtain rfl := Option.some.inj (hsetup.symm.trans hgrants.setup)
      have hcopy := hinterleaves.copyInterleaved_eq_ok hlaid.supported.channels_pos
        (h.bytes_le_maxSize hgrants) hgrants.le_frames
      rw [hbegin]
      simp only [hcopy]
  · rfl

/-- A planar read goes as the interleaved one, if there is room for the frames in both. -/
theorem readPlanar_eq_readInterleaved (h : m.Intact)
    (hroom : ∀ s, m.setup = some s → ReadRoom s.geometry frames planes flat) :
    (m.readPlanar planes frames).1 = (m.readInterleaved flat frames).1 := by
  simp only [readPlanar, readInterleaved]
  split
  · rename_i s hdirection hsetup
    obtain ⟨layout, hlaid⟩ := h.laid s hsetup
    have hfits := hroom s hsetup
    rw [checkPlanar_eq_ok hfits.count hfits.long (hfits.samples_lt hlaid.supported.channels_pos),
      checkFrames_eq_ok hfits.size (Nat.lt_of_le_of_lt hfits.size hfits.lt)]
    obtain ⟨e, fault, hbegin⟩ | ⟨s', n, hgrants, hbegin⟩ := m.beginTransfer_cases "read" frames
    · rw [hbegin]
    · rw [hbegin]
      dsimp only
      cases (m.granted n).loadAt s (m.granted n).applPtr n <;> rfl
  · rfl

end MemoryDevice

end FrameTee
