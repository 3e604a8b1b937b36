import FrameTee.Proofs.Ring.Place

/-!
# Layouts that tile a ring

A ring of `frames` frames has as many bytes as its samples together. `FrameGeometry.Tiled` says that
the layouts of the channels make the most of that: every sample has an address, no byte belongs to
two samples, and every byte belongs to one. The interleaved and the planar layout both tile a ring
whose bits can be counted (`RingLayout.tiled`).

Slots carry the proof. Either layout numbers the samples of a ring from zero on without a gap
(`RingLayout.exists_slot_eq`) and without a repetition (`RingLayout.slot_inj`), and a sample lies in
its slot.
-/

namespace FrameTee

/-- Byte `x` is among the `width` bytes from the address of the sample of a channel in a frame
on. -/
def AreaLayout.Occupies (layout : AreaLayout) (width channel frame x : Nat) : Prop :=
  ∃ start, layout.byteOffset channel frame = .ok start ∧ start ≤ x ∧ x < start + width

/-- With one layout for each channel, the samples of `frames` frames fill the bytes of the frames,
side by side. -/
structure FrameGeometry.Tiled (g : FrameGeometry) (frames : Nat) (layouts : Nat → AreaLayout) :
    Prop where
  /-- The layouts are made of counts. -/
  bits_lt : ∀ c < g.channelCount,
    (layouts c).firstBit < Count.limit ∧ (layouts c).stepBits < Count.limit
  /-- Every sample has an address. -/
  addressed : ∀ c < g.channelCount, ∀ frame < frames,
    ∃ start, (layouts c).byteOffset c frame = .ok start
  /-- No byte belongs to two samples. -/
  single : ∀ c < g.channelCount, ∀ c' < g.channelCount, ∀ frame < frames, ∀ frame' < frames,
    ∀ x, (layouts c).Occupies g.sampleBytes c frame x →
      (layouts c').Occupies g.sampleBytes c' frame' x → c = c' ∧ frame = frame'
  /-- The bytes that belong to samples are those of the frames. -/
  covered : ∀ x, (∃ c < g.channelCount, ∃ frame < frames,
    (layouts c).Occupies g.sampleBytes c frame x) ↔ x < frames * g.frameBytes

namespace RingLayout

variable {layout : RingLayout} {s : StreamSetup} {c frame x : Nat}

/-- Every slot of a ring belongs to a sample of it. -/
theorem exists_slot_eq (layout : RingLayout) {k : Nat}
    (hk : k < s.bufferSize * s.geometry.channelCount) :
    ∃ c < s.geometry.channelCount, ∃ frame < s.bufferSize, layout.slot s c frame = k := by
  cases layout
  · have hpos : 0 < s.geometry.channelCount := Nat.pos_of_lt_mul_left hk
    exact ⟨k % s.geometry.channelCount, Nat.mod_lt k hpos, k / s.geometry.channelCount,
      (Nat.div_lt_iff_lt_mul hpos).mpr hk, Nat.div_add_mod' k s.geometry.channelCount⟩
  · rw [Nat.mul_comm] at hk
    have hpos : 0 < s.bufferSize := Nat.pos_of_lt_mul_left hk
    exact ⟨k / s.bufferSize, (Nat.div_lt_iff_lt_mul hpos).mpr hk, k % s.bufferSize,
      Nat.mod_lt k hpos, Nat.div_add_mod' k s.bufferSize⟩

/-- Every byte of a ring lies in the slot of a sample of it. -/
theorem exists_slot_of_lt (layout : RingLayout) (hx : x < s.ringBytes) :
    ∃ c < s.geometry.channelCount, ∃ frame < s.bufferSize,
      layout.slot s c frame = x / s.geometry.sampleBytes := by
  apply exists_slot_eq
  rw [Nat.div_lt_iff_lt_mul s.geometry.sampleBytes_pos, Nat.mul_assoc,
    ← s.geometry.frameBytes_eq]
  exact hx

/-- Every address in a ring is that of a byte of the stream. -/
theorem exists_place_eq (layout : RingLayout) (hx : x < s.ringBytes) :
    ∃ j, layout.place s j = x := by
  obtain ⟨c, hc, frame, hframe, hslot⟩ := layout.exists_slot_of_lt hx
  have hbyte := Nat.mod_lt x s.geometry.sampleBytes_pos
  obtain ⟨hdiv, hchannel, hwithin⟩ :=
    s.geometry.sample_of_byte (Nat.zero_lt_of_lt hc) frame hc hbyte
  refine ⟨frame * s.geometry.frameBytes + c * s.geometry.sampleBytes +
    x % s.geometry.sampleBytes, ?_⟩
  rw [place, hdiv, hchannel, hwithin, Nat.mod_eq_of_lt hframe, hslot, Nat.div_add_mod']

theorem eight_mul_ringBytes (s : StreamSetup) :
    8 * s.ringBytes = s.bufferSize * s.geometry.bitsPerFrame := by
  rw [StreamSetup.ringBytes, s.geometry.frameBytes_eq, FrameGeometry.bitsPerFrame,
    s.geometry.bitsPerSample_eq, Nat.mul_left_comm, Nat.mul_comm s.geometry.channelCount,
    Nat.mul_assoc]

/-- The first bit of a channel and the step between its samples are counts. -/
theorem channel_bits_lt (layout : RingLayout)
    (hbits : s.bufferSize * s.geometry.bitsPerFrame < Count.limit)
    (hc : c < s.geometry.channelCount) :
    (layout.channel s c).firstBit < Count.limit ∧
      (layout.channel s c).stepBits < Count.limit := by
  have hsample := s.geometry.bitsPerSample_le
  have hchannels := s.geometry.channelCount_lt
  have hlimit : 64 * 0x10000 < Count.limit := by decide
  cases layout
  · have hfirst : c * s.geometry.bitsPerSample ≤ 0x10000 * 64 := Nat.mul_le_mul (by omega) hsample
    have hstep : s.geometry.bitsPerSample * s.geometry.channelCount ≤ 64 * 0x10000 :=
      Nat.mul_le_mul hsample (by omega)
    exact ⟨Nat.lt_of_le_of_lt hfirst hlimit, Nat.lt_of_le_of_lt hstep hlimit⟩
  · refine ⟨?_, Nat.lt_of_le_of_lt hsample (by decide)⟩
    calc
      c * s.bufferSize * s.geometry.bitsPerSample ≤
          s.geometry.channelCount * s.bufferSize * s.geometry.bitsPerSample :=
        Nat.mul_le_mul_right _ (Nat.mul_le_mul_right _ (Nat.le_of_lt hc))
      _ = s.bufferSize * s.geometry.bitsPerFrame := by
        rw [FrameGeometry.bitsPerFrame, Nat.mul_comm s.geometry.channelCount, Nat.mul_assoc,
          Nat.mul_comm s.geometry.channelCount]
      _ < Count.limit := hbits

section Counted

variable (hbits : s.bufferSize * s.geometry.bitsPerFrame < Count.limit)
include hbits

/-- In a ring whose bits can be counted every sample has an address, that of its slot. -/
theorem byteOffset_channel (layout : RingLayout) (hc : c < s.geometry.channelCount)
    (hframe : frame < s.bufferSize) :
    (layout.channel s c).byteOffset c frame =
      .ok (layout.slot s c frame * s.geometry.sampleBytes) := by
  have hslot := slot_bytes_le layout hc hframe
  have hring := eight_mul_ringBytes s
  exact AreaLayout.byteOffset_eq_ok_iff.mpr
    ⟨layout.aligned_channel s c, layout.address_channel s c frame, by omega⟩

theorem occupies_channel_iff (layout : RingLayout) (hc : c < s.geometry.channelCount)
    (hframe : frame < s.bufferSize) :
    (layout.channel s c).Occupies s.geometry.sampleBytes c frame x ↔
      layout.slot s c frame * s.geometry.sampleBytes ≤ x ∧
        x < layout.slot s c frame * s.geometry.sampleBytes + s.geometry.sampleBytes := by
  rw [AreaLayout.Occupies, byteOffset_channel hbits layout hc hframe]
  constructor
  · rintro ⟨start, hstart, hin⟩
    obtain rfl := Except.ok.inj hstart
    exact hin
  · exact fun hin => ⟨_, rfl, hin⟩

/-- A ring whose bits can be counted is tiled by either layout. -/
theorem tiled (layout : RingLayout) : s.geometry.Tiled s.bufferSize (layout.channel s) := by
  constructor
  · exact fun c hc => layout.channel_bits_lt hbits hc
  · exact fun c hc frame hframe => ⟨_, byteOffset_channel hbits layout hc hframe⟩
  · intro c hc c' hc' frame hframe frame' hframe' x hin hin'
    rw [occupies_channel_iff hbits layout hc hframe] at hin
    rw [occupies_channel_iff hbits layout hc' hframe'] at hin'
    exact slot_inj hc hc' hframe hframe' (slot_of_byte hin hin')
  · intro x
    constructor
    · rintro ⟨c, hc, frame, hframe, hin⟩
      rw [occupies_channel_iff hbits layout hc hframe] at hin
      exact Nat.lt_of_lt_of_le hin.2 (slot_bytes_le layout hc hframe)
    · intro hx
      obtain ⟨c, hc, frame, hframe, hslot⟩ := layout.exists_slot_of_lt hx
      refine ⟨c, hc, frame, hframe, ?_⟩
      rw [occupies_channel_iff hbits layout hc hframe, hslot]
      exact ⟨Nat.div_mul_le_self x _, Nat.lt_div_mul_add s.geometry.sampleBytes_pos⟩

end Counted

end RingLayout

end FrameTee
