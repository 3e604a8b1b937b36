import FrameTee.Proofs.Device.Mapped
import FrameTee.Proofs.Ring.Tiling
import Mathlib.Data.Nat.Bitwise

/-!
# The channels of a memory device

Two ways lead to the channels of a memory device: it tells where a channel lies, and it reduces a
mask to the channels that it has. Once parameters are taken on, both speak of the same channels, and
what is told of them fills the ring (`MemoryDevice.Charted`). That is so right after parameters are
taken on, by whatever device, and in every state that is reached (`MemoryDevice.layouts_tile`).
-/

namespace FrameTee

namespace ChannelMask

variable {channels : UInt16}

private theorem toNat_bit (h : channels.toNat < 64) :
    ((1 : UInt64) <<< channels.toUInt64).toNat = 2 ^ channels.toNat := by
  rw [UInt64.toNat_shiftLeft, UInt16.toNat_toUInt64, Nat.mod_eq_of_lt h, UInt64.toNat_one,
    Nat.one_shiftLeft, Nat.mod_eq_of_lt (Nat.pow_lt_pow_right (by decide) h)]

/-- A channel is in the set when its bit is one. -/
theorem contains_eq_testBit (mask : ChannelMask) (channel : UInt16) :
    mask.contains channel = mask.bits.toNat.testBit channel.toNat := by
  by_cases h : channel.toNat < 64
  · have hlt : channel < 64 := UInt16.lt_iff_toNat_lt.mpr h
    rw [contains, decide_eq_true hlt, Bool.true_and, Bool.eq_iff_iff, bne_iff_ne, ne_eq,
      ← UInt64.toNat_inj, UInt64.toNat_and, toNat_bit h, Nat.and_two_pow]
    cases mask.bits.toNat.testBit channel.toNat <;> simp
  · have hnot : ¬ channel < 64 := fun hlt => h (UInt16.lt_iff_toNat_lt.mp hlt)
    rw [contains, decide_eq_false hnot, Bool.false_and, Nat.testBit_lt_two_pow]
    exact Nat.lt_of_lt_of_le mask.bits.toNat_lt (Nat.pow_le_pow_right (by decide) (by omega))

@[simp] theorem contains_intersect (mask other : ChannelMask) (channel : UInt16) :
    (mask.intersect other).contains channel =
      (mask.contains channel && other.contains channel) := by
  simp only [contains_eq_testBit, intersect, UInt64.toNat_and, Nat.testBit_and]

theorem contains_first (h : channels.toNat < 64) (channel : UInt16) :
    (first channels).contains channel = decide (channel.toNat < channels.toNat) := by
  have hnot : ¬ 64 ≤ channels := fun hle => Nat.not_le.mpr h (UInt16.le_iff_toNat_le.mp hle)
  have hone : 1 ≤ (1 : UInt64) <<< channels.toUInt64 := by
    rw [UInt64.le_iff_toNat_le, toNat_bit h]
    exact Nat.one_le_two_pow
  rw [contains_eq_testBit, first, if_neg hnot, UInt64.toNat_sub_of_le _ _ hone, toNat_bit h,
    UInt64.toNat_one, Nat.testBit_two_pow_sub_one]

end ChannelMask

theorem StreamSetup.Supported.bits_lt {s : StreamSetup} (h : s.Supported) :
    s.bufferSize * s.geometry.bitsPerFrame < Count.limit := by
  rw [← RingLayout.eight_mul_ringBytes]
  exact Nat.lt_of_le_of_lt (Nat.mul_le_mul_left 8 h.ringBytes_le) (by decide)

namespace MemoryDevice

variable {m : MemoryDevice} {layout : RingLayout} {s : StreamSetup}

/-- What a device with a setup says about its channels: which ones there are, and samples that fill
the ring. -/
structure Charted (m : MemoryDevice) (s : StreamSetup) : Prop where
  /-- The device has the setup. -/
  setup_eq : m.setup = some s
  /-- The device tells where its channels lie, and only those. -/
  told_iff : ∀ channel, (∃ info, m.channelInfo channel = .ok info) ↔
    channel.toNat < s.geometry.channelCount
  /-- Of a mask the device keeps its channels. -/
  kept : ∀ mask channel, (m.reduceMask mask).contains channel =
    (mask.contains channel && decide (channel.toNat < s.geometry.channelCount))
  /-- There is memory for the frames of the ring and no more. -/
  size_eq : m.ring.size = s.bufferSize * s.geometry.frameBytes
  /-- The samples are side by side where the device tells them to be. -/
  tiled : ∃ layouts, s.geometry.Tiled s.bufferSize layouts ∧
    ∀ channel info, m.channelInfo channel = .ok info →
      info.channel = channel ∧ info.layout = layouts channel.toNat

/-- A device whose ring is laid out for its setup tells as much. -/
theorem charted_of_laid (hlaid : m.mapped.Laid layout s) (hsetup : m.setup = some s) :
    m.Charted s := by
  constructor
  · exact hsetup
  · intro channel
    constructor
    · rintro ⟨info, hinfo⟩
      exact ((channelInfo_eq_ok_iff hlaid hsetup).mp hinfo).1
    · intro hc
      exact ⟨_, (channelInfo_eq_ok_iff hlaid hsetup).mpr ⟨hc, rfl⟩⟩
  · intro mask channel
    have hle : s.geometry.channels.toNat ≤ 32 := hlaid.supported.channels_le
    simp only [reduceMask, hsetup, Option.map_some, Option.getD_some]
    rw [ChannelMask.contains_intersect, ChannelMask.contains_first (by omega)]
    rfl
  · exact hlaid.size
  · refine ⟨layout.channel s, layout.tiled hlaid.supported.bits_lt, ?_⟩
    intro channel info hinfo
    obtain ⟨-, rfl⟩ := (channelInfo_eq_ok_iff hlaid hsetup).mp hinfo
    exact ⟨rfl, rfl⟩

/-- Parameters that are taken on lay the ring out for them. -/
theorem charted_of_setParams {params : StreamParams} (h : (m.setParams params).result = .ok ()) :
    (m.setParams params).device.Charted (.ofParams params) := by
  obtain ⟨e, hstep⟩ | ⟨hs, -, hdevice⟩ := m.setParams_cases params
  · rw [hstep] at h
    cases h
  · rw [hdevice]
    exact @charted_of_laid _ m.layout _ ⟨hs, rfl, rfl⟩ rfl

/-- Either layout tiles a ring, as long as its bits can be counted. So what a memory device tells of
its channels neither overlaps nor leaves a byte of the ring unused, once parameters are taken on
and ever after, and they are the channels that it keeps of a mask. -/
theorem layouts_tile :
    (∀ (g : FrameGeometry) (frames : Nat), frames * g.bitsPerFrame < Count.limit →
      g.Tiled frames (AreaLayout.interleaved · g) ∧ g.Tiled frames (AreaLayout.planar · frames g)) ∧
    (∀ (m : MemoryDevice) (params : StreamParams), (m.setParams params).result = .ok () →
      (m.setParams params).device.Charted (.ofParams params)) ∧
    ∀ (m : MemoryDevice) (laid : Option RingLayout) (s : StreamSetup), Reached m laid →
      m.setup = some s → m.Charted s := by
  refine ⟨?_, ?_, ?_⟩
  · intro g frames hbits
    exact ⟨RingLayout.interleaved.tiled (s := ⟨g, 0, frames⟩) hbits,
      RingLayout.planar.tiled (s := ⟨g, 0, frames⟩) hbits⟩
  · exact fun m params h => charted_of_setParams h
  · intro m laid s h hsetup
    obtain ⟨layout, -, hlaid⟩ := h.sound.laid s hsetup
    exact charted_of_laid hlaid hsetup

/-- Five frames of three channels with samples of three bytes, channel by channel, and a recorder
that has run over. -/
theorem layouts_tile_three_channels :
    let g : FrameGeometry := ⟨3, .s24packed⟩
    let params : StreamParams := ⟨.s24packed, 3, 48000, 5⟩
    let m := (new "hw" .capture).withLayout .planar
    let charted := (m.setParams params).device
    (5 * g.bitsPerFrame < Count.limit ∧ g.Tiled 5 (AreaLayout.planar · 5 g) ∧
      ∃ c < g.channelCount, ∃ frame < 5,
        (AreaLayout.planar c 5 g).Occupies g.sampleBytes c frame 44) ∧
    ((m.setParams params).result = .ok () ∧ charted.Charted ⟨g, 48000, 5⟩ ∧
      (charted.reduceMask ⟨0xff⟩).contains 2 = true ∧
      (charted.reduceMask ⟨0xff⟩).contains 3 = false) ∧
    Reached overrun (some .planar) ∧ overrun.Charted ⟨⟨2, .s16le⟩, 8000, 2⟩ := by
  intro g params m charted
  obtain ⟨hlayouts, htaken, hreached⟩ := layouts_tile
  have hbits : 5 * g.bitsPerFrame < Count.limit := by decide
  have hplanar := (hlayouts g 5 hbits).2
  have hresult : (m.setParams params).result = .ok () := by decide +kernel
  have hcharted : charted.Charted ⟨g, 48000, 5⟩ := htaken m params hresult
  refine ⟨⟨hbits, hplanar, (hplanar.covered 44).mpr (by decide)⟩,
    ⟨hresult, hcharted, ?_, ?_⟩, reached_overrun,
    hreached _ _ _ reached_overrun (by decide +kernel)⟩
  · rw [hcharted.kept]
    decide
  · rw [hcharted.kept]
    decide

end MemoryDevice

end FrameTee
