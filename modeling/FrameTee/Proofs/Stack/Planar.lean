import FrameTee.Proofs.Device.Planar
import FrameTee.Proofs.Stack.Memory
import FrameTee.Storage.Basic

/-!
# Planar and interleaved transfers

Over a memory device it makes no difference whether frames are handed over in one interleaved buffer
or in one buffer per channel: answers, device, tees, media and log come out the same, and a read
leaves the same frames in the buffers (`TeeStack.planar_eq_interleaved`).
-/

namespace FrameTee

open MappedRing MemoryDevice

variable {δ μ η : Type}

/-- The buffers of a planar and of an interleaved read hold the same `n` frames, and beyond them
what they held before. -/
structure ReadAlike (g : FrameGeometry) (n : Nat) (planes planes' : Array Bytes)
    (flat flat' : Bytes) : Prop where
  /-- The frames are the same. -/
  interleaves : Interleaves g planes' n (flat'.extract 0 (n * g.frameBytes))
  /-- The interleaved buffer is unchanged past the frames. -/
  flat_rest : flat'.size = flat.size ∧ ∀ i, n * g.frameBytes ≤ i → flat'[i]? = flat[i]?
  /-- The buffers of the channels are unchanged past the samples of the frames. -/
  planes_rest : ∀ (c : Nat) (plane : Bytes), planes[c]? = some plane →
    ∃ plane', planes'[c]? = some plane' ∧ plane'.size = plane.size ∧
      ∀ i, n * g.sampleBytes ≤ i → plane'[i]? = plane[i]?

namespace MemoryDevice

variable {m : MemoryDevice} {frames n : Nat} {planes : Array Bytes} {flat : Bytes}

/-- What the two kinds of reads leave in the buffers: nothing new after a failure, else the same
frames. -/
theorem readAlike_of_read (h : m.Intact)
    (hroom : ∀ s, m.setup = some s → ReadRoom s.geometry frames planes flat) :
    ((∃ e, (m.readInterleaved flat frames).1.result = .error e) ∧
        (m.readPlanar planes frames).2 = planes ∧ (m.readInterleaved flat frames).2 = flat) ∨
      ∃ s n, m.setup = some s ∧ n ≤ frames ∧ n ≤ s.bufferSize ∧
        (m.readInterleaved flat frames).1 = .ok n (m.advanced n m.ring) ∧
        ReadAlike s.geometry n planes (m.readPlanar planes frames).2 flat
          (m.readInterleaved flat frames).2 := by
  have hsame := readPlanar_eq_readInterleaved h hroom
  obtain ⟨hrefuses, hflat⟩ | ⟨s, n, -, hgrants, hsize, hread⟩ := readInterleaved_cases h flat frames
  · obtain ⟨-, hplanes⟩ | ⟨s, n, -, -, -, -, hplanar⟩ := readPlanar_cases h planes frames
    · obtain ⟨e, state, fault, hfail, -⟩ := hrefuses
      exact .inl ⟨⟨e, congrArg DeviceStep.result hfail⟩, hplanes, hflat⟩
    · rw [hplanar] at hsame
      rw [← hsame] at hrefuses
      exact absurd rfl hrefuses.result_ne_ok
  · obtain ⟨hrefuses, -⟩ | ⟨s', n', -, hgrants', hcount, hlong, hplanar⟩ :=
      readPlanar_cases h planes frames
    · rw [hsame, hread] at hrefuses
      exact absurd rfl hrefuses.result_ne_ok
    · obtain rfl := Option.some.inj (hgrants.setup.symm.trans hgrants'.setup)
      obtain rfl : n = n' := hgrants.eq_movable.trans hgrants'.eq_movable.symm
      refine .inr ⟨s, n, hgrants.setup, hgrants.le_frames, h.le_bufferSize hgrants, ?_, ?_⟩
      · rw [hread]
      rw [hread, hplanar]
      dsimp only
      have hbytes : (m.mapped.streamBytes s m.applPtr n).size = n * s.geometry.frameBytes :=
        size_streamBytes _ _
      constructor
      · have hback := Bytes.extract_blit (m.mapped.streamBytes s m.applPtr n) flat
          (by rwa [hbytes])
        rw [hbytes] at hback
        rw [hback]
        exact interleaves_spread hcount hlong hbytes
      · refine ⟨Bytes.size_blit _ _ _ _ _, fun i hi => ?_⟩
        rw [Bytes.getElem?_blit, if_neg (by omega)]
      · intro c plane hplane
        have hspread : (spread s.geometry (m.mapped.streamBytes s m.applPtr n) n planes)[c]? = _ :=
          getElem?_spread c
        rw [hplane, Option.map_some] at hspread
        refine ⟨_, hspread, size_spreadChannel c 0 n plane, fun i hi => ?_⟩
        rw [getElem?_spreadChannel, Nat.zero_add, if_neg (by omega)]

end MemoryDevice

namespace TeeStack

variable [Medium μ η] {m : MemoryDevice} {frames : Nat} {planes : Array Bytes} {flat : Bytes}

/-- Tees record the same of a planar write and of the write of the interleaving. -/
theorem writePlanar_eq (h : m.Intact)
    (hflat : ∀ s, m.setup = some s →
      Interleaves s.geometry planes frames flat ∧ flat.size < Count.limit)
    (layers : List (Layer η)) (w : World μ) :
    writePlanar ⟨layers, m⟩ planes frames w = writeInterleaved ⟨layers, m⟩ flat frames w := by
  change recorded layers (m.writePlanar planes frames) _ w =
    recorded layers (m.writeInterleaved flat frames) _ w
  rw [writePlanar_eq_writeInterleaved h hflat]
  -- The devices do the same, so what is left is that both recordings are of the same bytes.
  apply recorded_congr
  intro n hstep _
  obtain hrefuses | ⟨s, k, ring, -, hgrants, hsize, -, hmoved⟩ :=
    writeInterleaved_cases h flat frames
  · exact absurd hstep hrefuses.result_ne_ok
  · obtain ⟨layout, hlaid⟩ := h.laid s hgrants.setup
    obtain ⟨hinterleaves, -⟩ := hflat s hgrants.setup
    rw [hmoved] at hstep ⊢
    obtain rfl := Except.ok.inj hstep
    have hcopy := hinterleaves.copyInterleaved_eq_ok hlaid.supported.channels_pos
      (h.bytes_le_maxSize hgrants) hgrants.le_frames
    calc
      Layer.recordPlanar planes (m.advanced k ring) k =
          Layer.record (flat.extract 0 (k * s.geometry.frameBytes)) k :=
        Layer.recordPlanar_eq_record (m := m.advanced k ring) hgrants.setup hcopy
      _ = Layer.recordInterleaved flat (m.advanced k ring) k :=
        (Layer.recordInterleaved_eq_record (m := m.advanced k ring) hgrants.setup hlaid.supported
          (h.le_bufferSize hgrants) hsize).symm

/-- Tees record the same of both kinds of reads. -/
theorem readPlanar_eq (h : m.Intact)
    (hroom : ∀ s, m.setup = some s → ReadRoom s.geometry frames planes flat)
    (layers : List (Layer η)) (w : World μ) :
    (readPlanar ⟨layers, m⟩ planes frames w).1 =
      (readInterleaved ⟨layers, m⟩ flat frames w).1 := by
  change recorded layers (m.readPlanar planes frames).1
      (Layer.recordPlanar (m.readPlanar planes frames).2) w =
    recorded layers (m.readInterleaved flat frames).1
      (Layer.recordInterleaved (m.readInterleaved flat frames).2) w
  rw [readPlanar_eq_readInterleaved h hroom]
  apply recorded_congr
  intro n hstep _
  obtain ⟨⟨e, herror⟩, -, -⟩ | ⟨s, k, hsetup, -, hk, hmoved, halike⟩ := readAlike_of_read h hroom
  · rw [herror] at hstep
    cases hstep
  · obtain ⟨layout, hlaid⟩ := h.laid s hsetup
    rw [hmoved] at hstep ⊢
    obtain rfl := Except.ok.inj hstep
    generalize (m.readPlanar planes frames).2 = planes' at halike ⊢
    generalize (m.readInterleaved flat frames).2 = flat' at halike ⊢
    have hbytes := halike.interleaves.size
    have hlong : k * s.geometry.frameBytes ≤ flat'.size := by
      rw [Array.size_extract] at hbytes
      omega
    have hfits : (flat'.extract 0 (k * s.geometry.frameBytes)).size ≤ Bytes.maxSize := by
      rw [hbytes]
      exact hlaid.supported.bytes_le_maxSize hk
    have hcopy := halike.interleaves.copyInterleaved_all hlaid.supported.channels_pos hfits
    calc
      Layer.recordPlanar planes' (m.advanced k m.ring) k =
          Layer.record (flat'.extract 0 (k * s.geometry.frameBytes)) k :=
        Layer.recordPlanar_eq_record (m := m.advanced k m.ring) hsetup hcopy
      _ = Layer.recordInterleaved flat' (m.advanced k m.ring) k :=
        (Layer.recordInterleaved_eq_record (m := m.advanced k m.ring) hsetup hlaid.supported
          hk hlong).symm

/-- On tees over a memory device a planar write is the write of the interleaving, and a planar read
is the interleaved read, up to the form in which the buffers take the frames. -/
theorem planar_eq_interleaved {laid : Option RingLayout} (hreached : m.Reached laid)
    (layers : List (Layer η)) (w : World μ) (frames : Nat) (planes : Array Bytes) (flat : Bytes) :
    ((∀ s, m.setup = some s → Interleaves s.geometry planes frames flat ∧
        flat.size < Count.limit) →
      writePlanar ⟨layers, m⟩ planes frames w = writeInterleaved ⟨layers, m⟩ flat frames w) ∧
    ((∀ s, m.setup = some s → ReadRoom s.geometry frames planes flat) →
      let planar := readPlanar ⟨layers, m⟩ planes frames w
      let interleaved := readInterleaved ⟨layers, m⟩ flat frames w
      planar.1 = interleaved.1 ∧
        ((∃ e, interleaved.1.result = .error e) ∧ planar.2 = planes ∧ interleaved.2 = flat ∨
          ∃ s n, m.setup = some s ∧ n ≤ frames ∧
            interleaved.1.stack.device.applPtr = m.applPtr + n ∧
            (∀ k, interleaved.1.result = .ok k → k = n) ∧
            ReadAlike s.geometry n planes planar.2 flat interleaved.2)) := by
  have hintact := hreached.sound.intact
  refine ⟨fun hflat => writePlanar_eq hintact hflat layers w, fun hroom => ?_⟩
  refine ⟨readPlanar_eq hintact hroom layers w, ?_⟩
  have hresult : ∀ k, (readInterleaved ⟨layers, m⟩ flat frames w).1.result = .ok k →
      (m.readInterleaved flat frames).1.result = .ok k :=
    fun k hk => result_of_recorded_eq_ok hk
  obtain ⟨⟨e, herror⟩, hplanes, hflat⟩ | ⟨s, n, hsetup, hn, -, hmoved, halike⟩ :=
    readAlike_of_read hintact hroom
  · refine .inl ⟨⟨e, ?_⟩, hplanes, hflat⟩
    change (recorded layers (m.readInterleaved flat frames).1 _ w).result = _
    rw [recorded_of_still fun k hk => by rw [herror] at hk; cases hk]
    exact herror
  · refine .inr ⟨s, n, hsetup, hn, ?_, fun k hk => ?_, halike⟩
    · change (recorded layers (m.readInterleaved flat frames).1 _ w).stack.device.applPtr = _
      rw [device_recorded, hmoved]
      rfl
    · have hcount := hresult k hk
      rw [hmoved] at hcount
      exact (Except.ok.inj hcount).symm

/-- A player of two channels with a writer that takes three bytes at a time, and a recorder of two
channels that has been given two frames and is asked for three. -/
theorem planar_eq_interleaved_stereo :
    let stereo (direction : Direction) : MemoryDevice :=
      (Action.ask .start).after ((Action.ask .prepare).after
        ((Action.ask (.setParams ⟨.u8, 2, 8000, 4⟩)).after (new "hw" direction)))
    let recorder := ((stereo .capture).perform (.inject #[1, 2, 3, 4])).device
    let layers : List (Layer Handle) := [⟨.ofWriter "copy" (.writer 0), true, .playback, {}⟩]
    let w : World Storage := { media := { writers := #[{ writeLimit := some 3 }] } }
    let planes : Array Bytes := #[#[1, 3, 9], #[2, 4]]
    let room : Array Bytes := #[#[7, 7, 7], #[8, 8, 8]]
    let flat : Bytes := #[5, 5, 5, 5, 5, 5]
    writePlanar ⟨layers, stereo .playback⟩ planes 2 w =
        writeInterleaved ⟨layers, stereo .playback⟩ #[1, 2, 3, 4] 2 w ∧
      (writePlanar ⟨layers, stereo .playback⟩ planes 2 w).result.isOk = false ∧
      (readPlanar ⟨layers, recorder⟩ room 3 w).1 = (readInterleaved ⟨layers, recorder⟩ flat 3 w).1 ∧
      (readPlanar ⟨layers, recorder⟩ room 3 w).2 = #[#[1, 3, 7], #[2, 4, 8]] ∧
      (readInterleaved ⟨layers, recorder⟩ flat 3 w).2 = #[1, 2, 3, 4, 5, 5] := by
  intro stereo recorder layers w planes room flat
  have hstereo : ∀ direction, (stereo direction).Reached (some .interleaved) := fun direction =>
    .act (.ask .start) (.act (.ask .prepare)
      (.act (.ask (.setParams ⟨.u8, 2, 8000, 4⟩)) (.new "hw" direction)))
  have hplayer : (stereo .playback).setup = some ⟨⟨2, .u8⟩, 8000, 4⟩ := by decide +kernel
  have hrecorder : recorder.setup = some ⟨⟨2, .u8⟩, 8000, 4⟩ := by decide +kernel
  have hinterleaves : Interleaves ⟨2, .u8⟩ planes 2 #[1, 2, 3, 4] := by decide
  have hroom : ReadRoom ⟨2, .u8⟩ 3 room flat :=
    ⟨by decide, forall_getElem?_iff.mpr (by decide), by decide, by decide⟩
  obtain ⟨hwrite, -⟩ :=
    planar_eq_interleaved (hstereo .playback) layers w 2 planes #[1, 2, 3, 4]
  obtain ⟨-, hread⟩ :=
    planar_eq_interleaved (.drive (.inject #[1, 2, 3, 4]) (hstereo .capture)) layers w 3 room flat
  refine ⟨hwrite ?_, by decide +kernel, (hread ?_).1, by decide +kernel, by decide +kernel⟩
  · intro s hs
    obtain rfl := Option.some.inj (hplayer.symm.trans hs)
    exact ⟨hinterleaves, by decide⟩
  · intro s hs
    obtain rfl := Option.some.inj (hrecorder.symm.trans hs)
    exact hroom

end TeeStack

end FrameTee
