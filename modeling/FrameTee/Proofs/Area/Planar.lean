import FrameTee.Device.Memory.Transfer
import FrameTee.Proofs.Area.Copy
import FrameTee.Proofs.Bytes

/-!
# One buffer per channel

One buffer per channel covers the frames whose samples the buffers hold (`covers_planar`). A planar
read takes interleaved frames apart into such buffers, and the bytes that a buffer holds afterwards
are given one by one (`getElem?_spreadChannel`).
-/

namespace FrameTee

namespace ChannelAreas

variable {a : ChannelAreas} {g : FrameGeometry} {buffers : Array Bytes} {offset frames : Nat}

theorem size_of_sliceInterleaved_eq_ok {buffer : Memory} {flat : Bytes}
    (h : sliceInterleaved buffer offset frames g = .ok flat) :
    flat.size = frames * g.frameBytes := by
  obtain ⟨-, -, rfl⟩ := of_sliceInterleaved_eq_ok h
  rw [Memory.size_extract, ← Nat.sub_mul, Nat.add_sub_cancel_left]

/-- A copy yields as many bytes as its frames have. -/
theorem size_of_copyInterleaved_eq_ok {flat : Bytes}
    (h : a.copyInterleaved g offset frames = .ok flat) : flat.size = frames * g.frameBytes := by
  simp only [copyInterleaved] at h
  split at h
  · cases h
  · split at h
    · cases h
    · rename_i total htotal
      obtain ⟨rfl, -⟩ := Count.mul?_eq_some_iff.mp htotal
      split at h
      · exact size_of_sliceInterleaved_eq_ok h
      · rw [copySamples, if_neg (Nat.not_lt.mpr (le_maxSize_of_copySamples_eq_ok h))] at h
        split at h
        · cases h
        · cases h
          exact Array.size_ofFn

theorem size_areas_planar : (planar buffers g).areas.size = buffers.size :=
  Array.size_ofFn

theorem getElem?_planar (c : Nat) :
    (planar buffers g).areas[c]? =
      if c < buffers.size then some ⟨c, ⟨0, g.bitsPerSample⟩⟩ else none := by
  simp only [planar, Array.getElem?_ofFn]
  split <;> rfl

theorem memory_planar {c : Nat} {buffer : Bytes} (hbuffer : buffers[c]? = some buffer)
    (layout : AreaLayout) : (planar buffers g).memory ⟨c, layout⟩ = .ofBytes buffer := by
  simp [memory, planar, hbuffer]

theorem address_planarBuffer (frame : Nat) :
    (⟨0, g.bitsPerSample⟩ : AreaLayout).address frame = frame * g.sampleBytes := by
  simp only [AreaLayout.address, FrameGeometry.sampleBytes, Nat.zero_div, Nat.add_zero]

/-- Several buffers are not one buffer. -/
theorem asInterleaved?_planar_eq_none (hseveral : 1 < buffers.size) :
    (planar buffers g).asInterleaved? g = none := by
  cases hbuffer : (planar buffers g).asInterleaved? g with
  | none => rfl
  | some buffer =>
      -- The samples of the second channel would have to start behind one of the first.
      have hsecond : (planar buffers g).areas[1]? = some ⟨1, ⟨0, g.bitsPerSample⟩⟩ := by
        rw [getElem?_planar, if_pos hseveral]
      obtain ⟨-, hlayout⟩ := eq_interleaved_of_asInterleaved? hbuffer hsecond
      have hfirst : 0 = 1 * g.bitsPerSample := congrArg AreaLayout.firstBit hlayout
      have hpos := g.sampleBytes_pos
      have hbits := g.bitsPerSample_eq
      omega

/-- There is no room for the frames of buffers, one for each channel, exactly if there are several
buffers and the bytes of the frames are too many. -/
theorem not_hasRoom_planar_iff (hcount : buffers.size = g.channelCount) :
    ¬ (planar buffers g).HasRoom g frames ↔
      1 < buffers.size ∧ Bytes.maxSize < frames * g.frameBytes := by
  rw [HasRoom, Classical.not_imp, Nat.not_le]
  constructor
  · rintro ⟨hnone, hmany⟩
    refine ⟨?_, hmany⟩
    obtain hempty | hone | hseveral : buffers.size = 0 ∨ buffers.size = 1 ∨ 1 < buffers.size := by
      omega
    · rw [g.frameBytes_eq, ← hcount, hempty, Nat.zero_mul, Nat.mul_zero] at hmany
      exact absurd hmany (Nat.not_lt_zero _)
    · obtain ⟨buffer, rfl⟩ := Array.size_eq_one_iff.mp hone
      simp [asInterleaved?, planar, AreaLayout.interleaved, FrameGeometry.bitsPerFrame, ← hcount]
        at hnone
    · exact hseveral
  · rintro ⟨hseveral, hmany⟩
    exact ⟨asInterleaved?_planar_eq_none hseveral, hmany⟩

/-- Buffers that are long enough cover the frames, if there is room for them. -/
theorem covers_planar (hcount : buffers.size = g.channelCount) (hpos : 0 < g.channelCount)
    (hsize : ∀ (c : Nat) (buffer : Bytes), buffers[c]? = some buffer →
      frames * g.sampleBytes ≤ buffer.size)
    (hlt : frames * g.frameBytes < Count.limit) (hroom : (planar buffers g).HasRoom g frames) :
    (planar buffers g).Covers g 0 frames := by
  have harea : ∀ (c : Nat) (area : ChannelArea), (planar buffers g).areas[c]? = some area →
      ∃ buffer, buffers[c]? = some buffer ∧ area = ⟨c, ⟨0, g.bitsPerSample⟩⟩ := by
    intro c area hget
    rw [getElem?_planar] at hget
    split at hget
    · rename_i hc
      exact ⟨buffers[c], Array.getElem?_eq_getElem hc, (Option.some.inj hget).symm⟩
    · cases hget
  have hstop : ∀ frame < frames, (0 + frame) * g.sampleBytes + g.sampleBytes ≤
      frames * g.sampleBytes := by
    intro frame hframe
    rw [Nat.zero_add, ← Nat.succ_mul]
    exact Nat.mul_le_mul_right _ hframe
  constructor
  · exact size_areas_planar.trans hcount
  · exact hpos
  · intro c area hget
    obtain ⟨buffer, -, rfl⟩ := harea c area hget
    refine ⟨rfl, ?_⟩
    change g.bitsPerSample % 8 = 0
    rw [g.bitsPerSample_eq, Nat.mul_mod_right]
  · intro c area hget frame hframe
    obtain ⟨buffer, hbuffer, rfl⟩ := harea c area hget
    rw [memory_planar hbuffer, address_planarBuffer, Memory.size_ofBytes]
    exact Nat.le_trans (hstop frame hframe) (hsize c buffer hbuffer)
  · intro c area hget frame hframe
    obtain ⟨buffer, -, rfl⟩ := harea c area hget
    rw [address_planarBuffer]
    apply Nat.lt_of_le_of_lt (hstop frame hframe)
    apply Nat.lt_of_le_of_lt _ hlt
    rw [g.frameBytes_eq, ← Nat.mul_assoc, Nat.mul_right_comm]
    exact Nat.le_mul_of_pos_right _ hpos
  · rw [Nat.zero_add]
    exact hlt
  · exact hroom

/-- A byte of the frames that the buffers hold is found in the buffer of its channel. -/
theorem interleavedByte_planar {i : Nat} {buffer : Bytes}
    (hbuffer : buffers[i % g.frameBytes / g.sampleBytes]? = some buffer) :
    (planar buffers g).interleavedByte g 0 i =
      buffer.getD (i / g.frameBytes * g.sampleBytes + i % g.frameBytes % g.sampleBytes) 0 := by
  obtain ⟨hlt, -⟩ := Array.getElem?_eq_some_iff.mp hbuffer
  simp only [interleavedByte, getElem?_planar, if_pos hlt, memory_planar hbuffer,
    address_planarBuffer, Memory.get_ofBytes, Nat.zero_add]

end ChannelAreas

namespace MemoryDevice

variable {g : FrameGeometry} {flat : Bytes} {frames : Nat} {buffers : Array Bytes}

/-- The buffer of a channel holds the samples of the channel, one after the other, and is unchanged
elsewhere. -/
theorem getElem?_spreadChannel (channel frame count : Nat) (buffer : Bytes) (i : Nat) :
    (spreadChannel g flat channel frame count buffer)[i]? =
      if frame * g.sampleBytes ≤ i ∧ i < (frame + count) * g.sampleBytes ∧ i < buffer.size then
        some (flat.getD (i / g.sampleBytes * g.frameBytes + channel * g.sampleBytes +
          i % g.sampleBytes) 0)
      else buffer[i]? := by
  induction count generalizing frame buffer with
  | zero =>
      rw [spreadChannel, Nat.add_zero, if_neg (by omega)]
  | succ count ih =>
      have hnext : (frame + 1) * g.sampleBytes = frame * g.sampleBytes + g.sampleBytes :=
        Nat.succ_mul frame g.sampleBytes
      have hlast : (frame + 1 + count) * g.sampleBytes = (frame + (count + 1)) * g.sampleBytes := by
        rw [Nat.add_assoc, Nat.add_comm 1 count]
      have hle : (frame + 1) * g.sampleBytes ≤ (frame + (count + 1)) * g.sampleBytes :=
        Nat.mul_le_mul_right _ (by omega)
      rw [spreadChannel, ih, Bytes.size_blit, Bytes.getElem?_blit, hlast]
      by_cases hthis : frame * g.sampleBytes ≤ i ∧ i < (frame + 1) * g.sampleBytes ∧
          i < buffer.size
      · obtain ⟨hstart, hstop, hi⟩ := hthis
        have hdiv : i / g.sampleBytes = frame :=
          Nat.div_eq_of_lt_le hstart hstop
        have hmod : i - frame * g.sampleBytes = i % g.sampleBytes := by
          have hsplit := Nat.div_add_mod' i g.sampleBytes
          rw [hdiv] at hsplit
          omega
        rw [if_neg (by omega), if_pos (by omega), if_pos (by omega), hdiv, hmod]
      · by_cases hrest : (frame + 1) * g.sampleBytes ≤ i ∧
            i < (frame + (count + 1)) * g.sampleBytes ∧ i < buffer.size
        · rw [if_pos hrest, if_pos (by omega)]
        · rw [if_neg hrest, if_neg (by omega), if_neg (by omega)]

@[simp] theorem size_spreadChannel (channel frame count : Nat) (buffer : Bytes) :
    (spreadChannel g flat channel frame count buffer).size = buffer.size := by
  induction count generalizing frame buffer with
  | zero => rfl
  | succ count ih => rw [spreadChannel, ih, Bytes.size_blit]

theorem getElem?_spread (c : Nat) :
    (spread g flat frames buffers)[c]? =
      buffers[c]?.map fun buffer => spreadChannel g flat c 0 frames buffer := by
  simp [spread]

end MemoryDevice

end FrameTee
