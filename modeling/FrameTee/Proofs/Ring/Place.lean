import FrameTee.Device.Memory.Basic
import FrameTee.Proofs.Area.Copy

/-!
# Places in a ring

The bytes of an endless stream of frames run round a ring. `RingLayout.place` is the address at
which a byte of the stream lies: its sample has a slot, and the slot depends on how the ring is laid
out. In either layout two bytes of the stream share an address exactly when they are whole rings
apart (`RingLayout.place_eq_iff`), so a ring holds as many consecutive bytes of the stream as it has
bytes.
-/

namespace FrameTee

/-- Bytes of the ring of a setup. -/
def StreamSetup.ringBytes (s : StreamSetup) : Nat :=
  s.bufferSize * s.geometry.frameBytes

/-- What a memory device accepts: some channels, but not too many, and a ring of some frames, but
not too many. -/
structure StreamSetup.Supported (s : StreamSetup) : Prop where
  /-- There is a channel. -/
  channels_pos : 1 ≤ s.geometry.channelCount
  /-- There are at most as many channels as the device takes. -/
  channels_le : s.geometry.channelCount ≤ MemoryDevice.maxChannels.toNat
  /-- There is room for a frame. -/
  bufferSize_pos : 1 ≤ s.bufferSize
  /-- There is no more room than the device gives. -/
  bufferSize_le : s.bufferSize ≤ MemoryDevice.maxBufferFrames

namespace StreamSetup.Supported

variable {s : StreamSetup}

theorem frameBytes_pos (h : s.Supported) : 0 < s.geometry.frameBytes :=
  s.geometry.frameBytes_pos h.channels_pos

theorem ringBytes_pos (h : s.Supported) : 0 < s.ringBytes :=
  Nat.mul_pos h.bufferSize_pos h.frameBytes_pos

theorem frameBytes_le (h : s.Supported) : s.geometry.frameBytes ≤ 256 := by
  have hsample : s.geometry.sampleBytes ≤ 8 := Nat.div_le_div_right s.geometry.bitsPerSample_le
  rw [s.geometry.frameBytes_eq]
  exact Nat.mul_le_mul h.channels_le hsample

/-- The bytes of a ring are far from the largest count. -/
theorem ringBytes_le (h : s.Supported) : s.ringBytes ≤ 0x10000000 :=
  Nat.mul_le_mul h.bufferSize_le h.frameBytes_le

theorem ringBytes_lt (h : s.Supported) : s.ringBytes < Count.limit :=
  Nat.lt_of_le_of_lt h.ringBytes_le (by decide)

theorem bytes_le_ringBytes {frames : Nat} (hframes : frames ≤ s.bufferSize) :
    frames * s.geometry.frameBytes ≤ s.ringBytes :=
  Nat.mul_le_mul_right _ hframes

/-- There is room for any frames that fit in the ring. -/
theorem bytes_le_maxSize (h : s.Supported) {frames : Nat} (hframes : frames ≤ s.bufferSize) :
    frames * s.geometry.frameBytes ≤ Bytes.maxSize :=
  Nat.le_trans (bytes_le_ringBytes hframes) (Nat.le_trans h.ringBytes_le (by decide))

/-- The bytes of any frames that fit in the ring are a byte count. -/
theorem bytes_lt (h : s.Supported) {frames : Nat} (hframes : frames ≤ s.bufferSize) :
    frames * s.geometry.frameBytes < Count.limit :=
  Nat.lt_of_le_of_lt (bytes_le_ringBytes hframes) h.ringBytes_lt

theorem framesToBytes?_eq (h : s.Supported) {frames : Nat} (hframes : frames ≤ s.bufferSize) :
    s.geometry.framesToBytes? frames = some (frames * s.geometry.frameBytes) :=
  s.geometry.framesToBytes?_eq_some (h.bytes_lt hframes)

end StreamSetup.Supported

namespace RingLayout

variable (layout : RingLayout) (s : StreamSetup)

/-- The layout of one channel in a ring. -/
def channel (channel : Nat) : AreaLayout :=
  match layout with
  | interleaved => AreaLayout.interleaved channel s.geometry
  | planar => AreaLayout.planar channel s.bufferSize s.geometry

/-- The slot of a sample, counted in samples from the start of the ring. -/
def slot (channel frame : Nat) : Nat :=
  match layout with
  | interleaved => frame * s.geometry.channelCount + channel
  | planar => channel * s.bufferSize + frame

/-- The address in the ring of byte `j` of the stream. -/
def place (j : Nat) : Nat :=
  layout.slot s (j % s.geometry.frameBytes / s.geometry.sampleBytes)
      (j / s.geometry.frameBytes % s.bufferSize) * s.geometry.sampleBytes +
    j % s.geometry.frameBytes % s.geometry.sampleBytes

theorem getElem?_channelLayouts (c : Nat) :
    (MemoryDevice.channelLayouts layout s)[c]? =
      if c < s.geometry.channelCount then some (layout.channel s c) else none := by
  simp only [MemoryDevice.channelLayouts, Array.getElem?_ofFn]
  split
  · cases layout <;> rfl
  · rfl

@[simp] theorem size_channelLayouts :
    (MemoryDevice.channelLayouts layout s).size = s.geometry.channelCount := by
  simp [MemoryDevice.channelLayouts]

theorem aligned_channel (c : Nat) : (layout.channel s c).Aligned := by
  cases layout
  · exact AreaLayout.aligned_interleaved c s.geometry
  · exact AreaLayout.aligned_planar c s.bufferSize s.geometry

theorem address_channel (c frame : Nat) :
    (layout.channel s c).address frame = layout.slot s c frame * s.geometry.sampleBytes := by
  cases layout
  · change (AreaLayout.interleaved c s.geometry).address frame = _
    rw [AreaLayout.address_interleaved, s.geometry.frameBytes_eq, ← Nat.mul_assoc, ← Nat.add_mul]
    rfl
  · exact AreaLayout.address_planar c s.bufferSize frame s.geometry

variable {layout s} {c c' frame frame' : Nat}

theorem slot_lt (hc : c < s.geometry.channelCount) (hframe : frame < s.bufferSize) :
    layout.slot s c frame < s.bufferSize * s.geometry.channelCount := by
  cases layout
  · calc
      frame * s.geometry.channelCount + c < (frame + 1) * s.geometry.channelCount := by
        rw [Nat.succ_mul]
        omega
      _ ≤ s.bufferSize * s.geometry.channelCount := Nat.mul_le_mul_right _ hframe
  · calc
      c * s.bufferSize + frame < (c + 1) * s.bufferSize := by
        rw [Nat.succ_mul]
        omega
      _ ≤ s.geometry.channelCount * s.bufferSize := Nat.mul_le_mul_right _ hc
      _ = s.bufferSize * s.geometry.channelCount := Nat.mul_comm _ _

private theorem eq_of_mul_add_eq {n a b a' b' : Nat} (hb : b < n) (hb' : b' < n)
    (h : a * n + b = a' * n + b') : a = a' ∧ b = b' := by
  have hdiv : ∀ a b, b < n → (a * n + b) / n = a := by
    intro a b hlt
    rw [Nat.add_comm, Nat.add_mul_div_right _ _ (Nat.zero_lt_of_lt hlt), Nat.div_eq_of_lt hlt,
      Nat.zero_add]
  have ha : a = a' := by rw [← hdiv a b hb, h, hdiv a' b' hb']
  subst ha
  exact ⟨rfl, Nat.add_left_cancel h⟩

/-- No byte lies in two slots. -/
theorem slot_of_byte {a b width x : Nat} (ha : a * width ≤ x ∧ x < a * width + width)
    (hb : b * width ≤ x ∧ x < b * width + width) : a = b := by
  have hdiv : ∀ n, n * width ≤ x ∧ x < n * width + width → x / width = n := by
    rintro n ⟨hle, hlt⟩
    exact Nat.div_eq_of_lt_le hle (by rwa [Nat.succ_mul])
  rw [← hdiv a ha, hdiv b hb]

/-- No two samples of a ring share a slot. -/
theorem slot_inj (hc : c < s.geometry.channelCount) (hc' : c' < s.geometry.channelCount)
    (hframe : frame < s.bufferSize) (hframe' : frame' < s.bufferSize)
    (h : layout.slot s c frame = layout.slot s c' frame') : c = c' ∧ frame = frame' := by
  cases layout
  · exact (eq_of_mul_add_eq hc hc' h).symm
  · exact eq_of_mul_add_eq hframe hframe' h

theorem slot_bytes_le (layout : RingLayout) (hc : c < s.geometry.channelCount)
    (hframe : frame < s.bufferSize) :
    layout.slot s c frame * s.geometry.sampleBytes + s.geometry.sampleBytes ≤ s.ringBytes := by
  rw [← Nat.succ_mul, StreamSetup.ringBytes, s.geometry.frameBytes_eq, ← Nat.mul_assoc]
  exact Nat.mul_le_mul_right _ (slot_lt hc hframe)

/-- Bytes of the stream share an address exactly when they are whole rings apart. -/
theorem place_eq_iff (layout : RingLayout) (h : s.Supported) {i j : Nat} :
    layout.place s i = layout.place s j ↔ i % s.ringBytes = j % s.ringBytes := by
  have hring : s.ringBytes = s.geometry.frameBytes * s.bufferSize := Nat.mul_comm _ _
  constructor
  · intro heq
    have hwidth := s.geometry.sampleBytes_pos
    obtain ⟨hslot, hbyte⟩ := eq_of_mul_add_eq (Nat.mod_lt _ hwidth) (Nat.mod_lt _ hwidth) heq
    obtain ⟨hchannel, hframe⟩ := slot_inj
      (s.geometry.channel_lt (Nat.mod_lt i h.frameBytes_pos))
      (s.geometry.channel_lt (Nat.mod_lt j h.frameBytes_pos))
      (Nat.mod_lt _ h.bufferSize_pos) (Nat.mod_lt _ h.bufferSize_pos) hslot
    have hwithin : i % s.geometry.frameBytes = j % s.geometry.frameBytes := by
      rw [← Nat.div_add_mod' (i % s.geometry.frameBytes) s.geometry.sampleBytes, hchannel, hbyte,
        Nat.div_add_mod']
    rw [hring, Nat.mod_mul, Nat.mod_mul, hwithin, hframe]
  · intro heq
    rw [hring] at heq
    have hwithin : i % s.geometry.frameBytes = j % s.geometry.frameBytes := by
      rw [← Nat.mod_mul_right_mod i s.geometry.frameBytes s.bufferSize, heq,
        Nat.mod_mul_right_mod]
    have hframe : i / s.geometry.frameBytes % s.bufferSize =
        j / s.geometry.frameBytes % s.bufferSize := by
      rw [← Nat.mod_mul_right_div_self i, heq, Nat.mod_mul_right_div_self]
    rw [place, place, hwithin, hframe]

/-- Counting from a position in the stream or from its place in the ring comes to the same. -/
theorem place_mod_add (h : s.Supported) (position i : Nat) :
    layout.place s (position % s.bufferSize * s.geometry.frameBytes + i) =
      layout.place s (position * s.geometry.frameBytes + i) := by
  rw [place_eq_iff layout h, Nat.add_mod, Nat.add_mod (position * s.geometry.frameBytes)]
  rw [StreamSetup.ringBytes, Nat.mul_mod_mul_right, Nat.mul_mod_mul_right, Nat.mod_mod]

/-- The address of a byte of a sample. -/
theorem place_eq_address (layout : RingLayout) (hframe : frame < s.bufferSize) {within : Nat}
    (hwithin : within < s.geometry.frameBytes) :
    layout.place s (frame * s.geometry.frameBytes + within) =
      (layout.channel s (within / s.geometry.sampleBytes)).address frame +
        within % s.geometry.sampleBytes := by
  rw [place, s.geometry.add_mod_frameBytes,
    s.geometry.add_div_frameBytes (Nat.zero_lt_of_lt hwithin), Nat.mod_eq_of_lt hwithin,
    Nat.div_eq_of_lt hwithin, Nat.add_zero, Nat.mod_eq_of_lt hframe, address_channel]

end RingLayout

end FrameTee
