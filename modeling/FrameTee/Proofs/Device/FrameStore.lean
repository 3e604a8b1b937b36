import FrameTee.Proofs.Device.Frames
import FrameTee.Proofs.Device.Mapped
import FrameTee.Proofs.Ring.Tiling

/-!
# The ring of a memory device as a store of frames

Frames that are stored at a position of the stream can be loaded from there, frames that share no
place with them stay what they were, and it does not matter whether frames are stored at once or in
two parts (`MemoryDevice.store_load`). The positions run on without end; two ranges of them keep
clear of each other (`StreamSetup.Apart`) when no frame of one has its place in the ring where a
frame of the other has it.
-/

namespace FrameTee

/-- No one of `frames` frames from `position` on shares its place in the ring with one of `count`
frames from `start` on. -/
def StreamSetup.Apart (s : StreamSetup) (position frames start count : Nat) : Prop :=
  ∀ i < frames, ∀ j < count, (position + i) % s.bufferSize ≠ (start + j) % s.bufferSize

instance (s : StreamSetup) (position frames start count : Nat) :
    Decidable (s.Apart position frames start count) :=
  inferInstanceAs (Decidable (∀ i < frames, ∀ j < count, _))

/-- The bytes of frames that share no place share none either. -/
theorem StreamSetup.Apart.bytes {s : StreamSetup} {position frames start count i x : Nat}
    (h : s.Apart position frames start count) (hpos : 0 < s.geometry.frameBytes)
    (hi : i < count * s.geometry.frameBytes) (hx : position * s.geometry.frameBytes ≤ x)
    (hx' : x < (position + frames) * s.geometry.frameBytes) :
    (start * s.geometry.frameBytes + i) % s.ringBytes ≠ x % s.ringBytes := by
  intro heq
  have hfirst : position ≤ x / s.geometry.frameBytes := (Nat.le_div_iff_mul_le hpos).mpr hx
  have hlast : x / s.geometry.frameBytes < position + frames :=
    (Nat.div_lt_iff_lt_mul hpos).mpr hx'
  have hstored : i / s.geometry.frameBytes < count := (Nat.div_lt_iff_lt_mul hpos).mpr hi
  apply h (x / s.geometry.frameBytes - position) (by omega) _ hstored
  -- The number of a frame is that of its bytes, with what lies before it in the frame left out.
  rw [Nat.add_sub_cancel' hfirst, ← s.geometry.add_div_frameBytes hpos,
    ← Nat.mod_mul_right_div_self, ← Nat.mod_mul_right_div_self,
    Nat.mul_comm s.geometry.frameBytes s.bufferSize]
  exact congrArg (· / s.geometry.frameBytes) heq.symm

namespace MappedRing

variable {ring ring' ring'' : MappedRing} {layout : RingLayout} {s : StreamSetup}

namespace Stored

variable {start count : Nat} {byte : Nat → UInt8}

/-- Frames that share no place with the stored ones are as they were. -/
theorem streamBytes_apart {position frames n : Nat}
    (h : Stored s (start * s.geometry.frameBytes) (n * s.geometry.frameBytes) byte ring ring')
    (hpos : 0 < s.geometry.frameBytes) (hapart : s.Apart position frames start n) :
    ring'.streamBytes s position frames = ring.streamBytes s position frames := by
  apply streamBytes_congr
  intro x hx hx'
  exact h.outside x fun i hi => hapart.bytes hpos hi hx hx'

/-- What is stored determines every byte of the stream. -/
theorem unique (h : Stored s start count byte ring ring')
    (h' : Stored s start count byte ring ring'') (hlaid : ring.Laid layout s) (j : Nat) :
    ring''.streamByte s j = ring'.streamByte s j := by
  by_cases hin : ∃ i < count, (start + i) % s.ringBytes = j % s.ringBytes
  · obtain ⟨i, hi, hmod⟩ := hin
    rw [← (h.laid hlaid).streamByte_congr hmod, ← (h'.laid hlaid).streamByte_congr hmod,
      h.inside i hi, h'.inside i hi]
  · have hout : ∀ i < count, (start + i) % s.ringBytes ≠ j % s.ringBytes :=
      fun i hi hmod => hin ⟨i, hi, hmod⟩
    rw [h.outside j hout, h'.outside j hout]

end Stored

/-- The bytes of the stream are all the bytes of a ring. -/
theorem Laid.toBytes_congr (h : ring.Laid layout s) (h' : ring'.Laid layout s)
    (hsame : ∀ j, ring'.streamByte s j = ring.streamByte s j) :
    ring'.data.toBytes = ring.data.toBytes := by
  apply Memory.toBytes_congr (h'.size.trans h.size.symm)
  intro x hx
  obtain ⟨j, rfl⟩ := layout.exists_place_eq (Nat.lt_of_lt_of_eq hx h.size)
  rw [← h.streamByte_eq, ← h'.streamByte_eq, hsame]

end MappedRing

namespace MemoryDevice

open MappedRing

variable {m : MemoryDevice} {layout : RingLayout} {laid : Option RingLayout} {s : StreamSetup}
  {position : Nat} {src : Bytes}

/-- Whole frames that fit in the ring can be stored, at any position. -/
theorem storeAt_eq_ok_of_frames (h : m.mapped.Laid layout s) (position : Nat) {frames : Nat}
    (hsize : src.size = frames * s.geometry.frameBytes) (hfits : frames ≤ s.bufferSize) :
    ∃ ring, m.storeAt s position src = (.ok (), ring) ∧
      Stored s (position * s.geometry.frameBytes) (frames * s.geometry.frameBytes) (src.getD · 0)
        m.mapped ⟨ring, m.areas⟩ := by
  have hcount : s.geometry.bytesToFrames src.size = frames := by
    rw [hsize, s.geometry.bytesToFrames_mul h.supported.channels_pos]
  rw [← hcount] at hfits ⊢
  exact storeAt_eq_ok h position src hfits

/-- Storing frames in two parts leaves the bytes that storing them at once leaves. -/
theorem storeAt_split (h : m.mapped.Laid layout s) {a b : Nat} {ring : Memory}
    (hsize : src.size = (a + b) * s.geometry.frameBytes) (hfits : a + b ≤ s.bufferSize)
    (hstored : Stored s (position * s.geometry.frameBytes) ((a + b) * s.geometry.frameBytes)
      (src.getD · 0) m.mapped ⟨ring, m.areas⟩) :
    ∃ first both,
      m.storeAt s position (src.extract 0 (a * s.geometry.frameBytes)) = (.ok (), first) ∧
      { m with ring := first }.storeAt s (position + a)
        (src.extract (a * s.geometry.frameBytes)) = (.ok (), both) ∧
      both.toBytes = ring.toBytes := by
  rw [Nat.add_mul] at hsize hstored
  have hfront : (src.extract 0 (a * s.geometry.frameBytes)).size = a * s.geometry.frameBytes := by
    rw [Array.size_extract]
    omega
  have hback : (src.extract (a * s.geometry.frameBytes)).size = b * s.geometry.frameBytes := by
    rw [Array.size_extract]
    omega
  obtain ⟨first, hfirst, hfirstStored⟩ :=
    storeAt_eq_ok_of_frames h position hfront (by omega)
  obtain ⟨both, hboth, hbothStored⟩ := storeAt_eq_ok_of_frames (m := { m with ring := first })
    (hfirstStored.laid h) (position + a) hback (by omega)
  refine ⟨first, both, hfirst, hboth, ?_⟩
  -- Each part has its bytes from the source, and the second starts where the first stops.
  have hcopied : Stored s (position * s.geometry.frameBytes) (a * s.geometry.frameBytes)
      (src.getD · 0) m.mapped ⟨first, m.areas⟩ := by
    apply hfirstStored.congr
    intro i hi
    rw [Bytes.getD_extract (by omega) (by omega), Nat.zero_add]
  have hall : Stored s (position * s.geometry.frameBytes)
      (a * s.geometry.frameBytes + b * s.geometry.frameBytes) (src.getD · 0) m.mapped
      ⟨both, m.areas⟩ := by
    rw [Nat.add_mul] at hbothStored
    apply hcopied.trans
    · apply hbothStored.congr
      intro i hi
      exact Bytes.getD_extract (by omega) (Nat.le_refl _)
    · rw [← Nat.add_mul]
      exact StreamSetup.Supported.bytes_le_ringBytes hfits
  exact Laid.toBytes_congr (hstored.laid h) (hall.laid h) (hstored.unique hall h)

/-- The ring of a memory device is a store of frames that runs round: storing whole frames that fit
in the ring succeeds at every position, loading from there gives them back, and loading frames that
share no place with them gives what it gave before. Storing them in two parts, one behind the other,
leaves the same bytes. -/
theorem store_load (h : Reached m laid) (hsetup : m.setup = some s) (position : Nat)
    {frames : Nat} (hsize : src.size = frames * s.geometry.frameBytes)
    (hfits : frames ≤ s.bufferSize) :
    ∃ ring, m.storeAt s position src = (.ok (), ring) ∧
      { m with ring }.loadAt s position frames = .ok src ∧
      (∀ q count, s.Apart q count position frames → ∃ flat,
        m.loadAt s q count = .ok flat ∧ { m with ring }.loadAt s q count = .ok flat) ∧
      ∀ a b, a + b = frames → ∃ first both,
        m.storeAt s position (src.extract 0 (a * s.geometry.frameBytes)) = (.ok (), first) ∧
        { m with ring := first }.storeAt s (position + a)
          (src.extract (a * s.geometry.frameBytes)) = (.ok (), both) ∧
        both.toBytes = ring.toBytes := by
  obtain ⟨layout, -, hlaid⟩ := h.sound.laid s hsetup
  obtain ⟨ring, hring, hstored⟩ := storeAt_eq_ok_of_frames hlaid position hsize hfits
  have hload : ∀ q count, { m with ring }.loadAt s q count =
      .ok (streamBytes ⟨ring, m.areas⟩ s q count) :=
    fun q count => loadAt_eq_ok (m := { m with ring }) (hstored.laid hlaid) q count
  refine ⟨ring, hring, ?_, ?_, ?_⟩
  · rw [hload, hstored.streamBytes_inside hsize]
  · intro q count hapart
    refine ⟨_, loadAt_eq_ok hlaid q count, ?_⟩
    rw [hload, hstored.streamBytes_apart hlaid.supported.frameBytes_pos hapart]
  · rintro a b rfl
    exact storeAt_split hlaid hsize hfits hstored

/-- Three of four frames, stored from the last place of a planar ring on: they come back, the frame
that is left over stays, and one frame and then two make no difference. -/
theorem store_load_round_the_end :
    let s : StreamSetup := ⟨⟨2, .u8⟩, 8000, 4⟩
    let src : Bytes := #[1, 2, 3, 4, 5, 6]
    Reached planarPlayer (some .planar) ∧ planarPlayer.setup = some s ∧
      src.size = 3 * s.geometry.frameBytes ∧ 3 ≤ s.bufferSize ∧ s.Apart 6 1 7 3 ∧
      ∃ ring, planarPlayer.storeAt s 7 src = (.ok (), ring) ∧
        { planarPlayer with ring }.loadAt s 7 3 = .ok src ∧
        { planarPlayer with ring }.loadAt s 6 1 = planarPlayer.loadAt s 6 1 ∧
        ∃ first both, planarPlayer.storeAt s 7 (src.extract 0 2) = (.ok (), first) ∧
          { planarPlayer with ring := first }.storeAt s 8 (src.extract 2) = (.ok (), both) ∧
          both.toBytes = ring.toBytes := by
  intro s src
  have hsize : src.size = 3 * s.geometry.frameBytes := by decide
  have hapart : s.Apart 6 1 7 3 := by decide
  obtain ⟨ring, hring, hload, hothers, hsplit⟩ := store_load reached_planarPlayer
    setup_planarPlayer 7 hsize (by decide)
  obtain ⟨flat, hbefore, hafter⟩ := hothers 6 1 hapart
  exact ⟨reached_planarPlayer, setup_planarPlayer, hsize, by decide, hapart, ring, hring, hload,
    hafter.trans hbefore.symm, hsplit 1 2 rfl⟩

end MemoryDevice

end FrameTee
