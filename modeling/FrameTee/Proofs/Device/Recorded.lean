import FrameTee.Proofs.Device.Operations

/-!
# What a recorder holds

The ring of a recorder holds the last of the frames that were recorded, as many as have room
(`MemoryDevice.Holds`). Neither reading nor taking frames back moves the application out of them, so
every read finds the frames that were recorded at its position, also when they are read again.
-/

namespace FrameTee.MemoryDevice

open MappedRing

variable {m m' : MemoryDevice} {s : StreamSetup} {recorded : Bytes} {n : Nat}

/-- The ring holds the last of the frames that were recorded. -/
structure Holds (m : MemoryDevice) (s : StreamSetup) (recorded : Bytes) : Prop where
  /-- As many frames were recorded as the hardware has moved on. -/
  size : recorded.size = m.hwPtr * s.geometry.frameBytes
  /-- The frames that have room are in the ring. -/
  last : ∀ j, (m.hwPtr - s.bufferSize) * s.geometry.frameBytes ≤ j →
    j < m.hwPtr * s.geometry.frameBytes → m.mapped.streamByte s j = recorded.getD j 0

namespace Holds

theorem start (hhw : m.hwPtr = 0) : m.Holds s #[] := by
  constructor
  · rw [hhw, Nat.zero_mul]
    rfl
  · intro j _ hj
    rw [hhw, Nat.zero_mul] at hj
    exact absurd hj (Nat.not_lt_zero j)

/-- Nothing but the ring and the position of the hardware matters. -/
theorem congr (h : m.Holds s recorded) (hring : m'.mapped = m.mapped) (hhw : m'.hwPtr = m.hwPtr) :
    m'.Holds s recorded := by
  constructor
  · rw [hhw]
    exact h.size
  · rw [hhw, hring]
    exact h.last

/-- Frames that are recorded take the place of the oldest ones. -/
theorem record (h : m.Holds s recorded) {ring : MappedRing} {bytes : Bytes}
    (hsize : bytes.size = n * s.geometry.frameBytes)
    (hstored : Stored s (m.hwPtr * s.geometry.frameBytes) (n * s.geometry.frameBytes)
      (bytes.getD · 0) m.mapped ring)
    (hring : m'.mapped = ring) (hhw : m'.hwPtr = m.hwPtr + n) :
    m'.Holds s (recorded ++ bytes) := by
  have hend : (m.hwPtr + n) * s.geometry.frameBytes =
      m.hwPtr * s.geometry.frameBytes + n * s.geometry.frameBytes := Nat.add_mul _ _ _
  constructor
  · rw [Array.size_append, h.size, hsize, hhw, hend]
  · rw [hhw, hring]
    intro j hfirst hlast
    by_cases hold : j < m.hwPtr * s.geometry.frameBytes
    · have holder : (m.hwPtr - s.bufferSize) * s.geometry.frameBytes ≤
          (m.hwPtr + n - s.bufferSize) * s.geometry.frameBytes := by
        apply Nat.mul_le_mul_right
        omega
      calc
        ring.streamByte s j = m.mapped.streamByte s j :=
          hstored.streamByte_before (by omega) hfirst hold
        _ = recorded.getD j 0 := h.last j (Nat.le_trans holder hfirst) hold
        _ = (recorded ++ bytes).getD j 0 := by
          rw [Bytes.getD_append_left _ (by rwa [h.size])]
    · obtain ⟨i, rfl⟩ := Nat.exists_eq_add_of_le (Nat.not_lt.mp hold)
      rw [hstored.inside i (by omega), ← h.size, Bytes.getD_append_right]

/-- Frames that the ring still holds are read as they were recorded. -/
theorem streamBytes_eq (h : m.Holds s recorded) {position : Nat}
    (hfirst : m.hwPtr - s.bufferSize ≤ position) (hlast : position + n ≤ m.hwPtr) :
    m.mapped.streamBytes s position n =
      recorded.extract (position * s.geometry.frameBytes)
        ((position + n) * s.geometry.frameBytes) := by
  have hstart := Nat.mul_le_mul_right s.geometry.frameBytes hfirst
  have hstop := Nat.mul_le_mul_right s.geometry.frameBytes hlast
  have hend : (position + n) * s.geometry.frameBytes =
      position * s.geometry.frameBytes + n * s.geometry.frameBytes := Nat.add_mul _ _ _
  apply Bytes.ext_getD
  · rw [size_streamBytes, Array.size_extract, h.size, Nat.min_eq_left hstop, hend,
      Nat.add_sub_cancel_left]
  · intro i hi
    rw [size_streamBytes] at hi
    rw [getD_streamBytes hi, h.last _ (by omega) (by omega),
      Bytes.getD_extract (by omega) (by rwa [h.size])]

/-- Byte `i` of the frames that are read was recorded that far behind the position. -/
theorem getElem?_recorded (h : m.Holds s recorded) (hlast : m.applPtr + n ≤ m.hwPtr) {i : Nat}
    (hi : i < n * s.geometry.frameBytes) :
    recorded[m.applPtr * s.geometry.frameBytes + i]? =
      some ((recorded.extract (m.applPtr * s.geometry.frameBytes)
        ((m.applPtr + n) * s.geometry.frameBytes)).getD i 0) := by
  have hstop := Nat.mul_le_mul_right s.geometry.frameBytes hlast
  rw [Nat.add_mul, ← h.size] at hstop
  rw [Nat.add_mul, Bytes.getD_extract (by omega) hstop]
  have hlt : m.applPtr * s.geometry.frameBytes + i < recorded.size := by omega
  exact Bytes.getElem?_eq_some_getD hlt

section Read

variable (h : m.Holds s recorded) (hintact : m.Intact) (hsetup : m.setup = some s)
include h hintact hsetup

/-- The frames that can be read are held. -/
theorem streamBytes_granted (hdirection : m.direction = .capture) {frames : Nat}
    (hgrants : m.Grants s frames n) :
    m.applPtr + n ≤ m.hwPtr ∧
      m.mapped.streamBytes s m.applPtr n =
        recorded.extract (m.applPtr * s.geometry.frameBytes)
          ((m.applPtr + n) * s.geometry.frameBytes) := by
  have hwindow := hintact.window s hsetup
  have hn := hgrants.le_avail
  rw [avail_of_capture hdirection] at hn
  rw [hdirection] at hwindow
  obtain ⟨hle, hfull⟩ := hwindow
  have hlast : m.applPtr + n ≤ m.hwPtr := by omega
  exact ⟨hlast, h.streamBytes_eq (by omega) hlast⟩

/-- A read into one buffer gives the frames that were recorded at its position. -/
theorem getElem?_readInterleaved (buffer : Bytes) (frames : Nat)
    (hok : (m.readInterleaved buffer frames).1.result = .ok n) :
    m.applPtr + n ≤ m.hwPtr ∧ ∀ i : Nat, (m.readInterleaved buffer frames).2[i]? =
      if i < n * s.geometry.frameBytes then recorded[m.applPtr * s.geometry.frameBytes + i]?
      else buffer[i]? := by
  obtain ⟨⟨e, state, fault, hstep, -⟩, -⟩ | ⟨s', n', hdirection, hgrants, hsize, hread⟩ :=
    readInterleaved_cases hintact buffer frames
  · rw [hstep] at hok
    cases hok
  · obtain rfl := Option.some.inj (hsetup.symm.trans hgrants.setup)
    rw [hread] at hok ⊢
    obtain rfl := Except.ok.inj hok
    obtain ⟨hlast, hbytes⟩ := h.streamBytes_granted hintact hsetup hdirection hgrants
    refine ⟨hlast, ?_⟩
    intro i
    rw [hbytes, Bytes.getElem?_blit]
    by_cases hi : i < n' * s.geometry.frameBytes
    · rw [if_pos (by omega), if_pos hi, h.getElem?_recorded hlast hi, Nat.sub_zero,
        Nat.zero_add]
    · rw [if_neg (by omega), if_neg hi]

/-- A read into one buffer per channel gives each channel its samples of the frames that were
recorded at its position. -/
theorem getElem?_readPlanar (buffers : Array Bytes) (frames : Nat)
    (hok : (m.readPlanar buffers frames).1.result = .ok n) :
    m.applPtr + n ≤ m.hwPtr ∧ buffers.size = s.geometry.channelCount ∧
      ∀ (c : Nat) (buffer : Bytes), buffers[c]? = some buffer →
        ∃ read, (m.readPlanar buffers frames).2[c]? = some read ∧ ∀ i : Nat, read[i]? =
          if i < n * s.geometry.sampleBytes then
            recorded[(m.applPtr + i / s.geometry.sampleBytes) * s.geometry.frameBytes +
              c * s.geometry.sampleBytes + i % s.geometry.sampleBytes]?
          else buffer[i]? := by
  obtain ⟨⟨e, state, fault, hstep, -⟩, -⟩ | ⟨s', n', hdirection, hgrants, hcount, hsize, hread⟩ :=
    readPlanar_cases hintact buffers frames
  · rw [hstep] at hok
    cases hok
  · obtain rfl := Option.some.inj (hsetup.symm.trans hgrants.setup)
    rw [hread] at hok ⊢
    obtain rfl := Except.ok.inj hok
    obtain ⟨hlast, hbytes⟩ := h.streamBytes_granted hintact hsetup hdirection hgrants
    refine ⟨hlast, hcount, ?_⟩
    intro c buffer hbuffer
    refine ⟨_, by rw [getElem?_spread, hbuffer, Option.map_some], ?_⟩
    intro i
    obtain ⟨hc, -⟩ := Array.getElem?_eq_some_iff.mp hbuffer
    have hfits := hsize c buffer hbuffer
    rw [getElem?_spreadChannel, Nat.zero_mul, Nat.zero_add]
    by_cases hi : i < n' * s.geometry.sampleBytes
    · have hpos := s.geometry.sampleBytes_pos
      have hbyte : i / s.geometry.sampleBytes * s.geometry.frameBytes +
          c * s.geometry.sampleBytes + i % s.geometry.sampleBytes <
            n' * s.geometry.frameBytes := by
        apply s.geometry.byte_lt
        · exact (Nat.div_lt_iff_lt_mul hpos).mpr hi
        · rwa [← hcount]
        · exact Nat.mod_lt i hpos
      rw [if_pos ⟨Nat.zero_le _, hi, Nat.lt_of_lt_of_le hi hfits⟩, if_pos hi, hbytes,
        ← h.getElem?_recorded hlast hbyte, Nat.add_mul]
      congr 1
      omega
    · rw [if_neg (by omega), if_neg hi]

end Read

end Holds

end FrameTee.MemoryDevice
