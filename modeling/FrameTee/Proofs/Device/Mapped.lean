import FrameTee.Proofs.Device.Reached
import FrameTee.Proofs.Ring.Overrun

/-!
# Stores in the mapped ring of a device

What an application that stores frames in place changes in the ring of a memory device. Every byte
that changes is the source's byte of a sample of one of the stored frames, where the device tells
that the sample is. Whether that frame is one of the ring is another matter: a sample is checked
against the whole ring, so in a planar ring a store that runs past the end goes on in the blocks of
later channels (`MemoryDevice.storeMapped_changes`). A store into an interleaved ring, of a single
channel or of frames inside the ring keeps to the samples of its frames
(`MemoryDevice.StoresOwn`).
-/

namespace FrameTee

/-- How the samples of a channel are laid out, as a device tells it. -/
def ChannelInfo.layout (info : ChannelInfo) : AreaLayout :=
  ⟨info.firstBit, info.stepBits⟩

namespace MemoryDevice

open MappedRing

variable {m : MemoryDevice} {laid : Option RingLayout} {layout : RingLayout} {s : StreamSetup}
  {channel : UInt16} {frame byte x offset : Nat} {src : Bytes}

/-- Where the device tells that a byte of the sample of a channel in a frame is. -/
def HasByte (m : MemoryDevice) (channel : UInt16) (frame byte x : Nat) : Prop :=
  ∃ info, m.channelInfo channel = .ok info ∧ x = info.layout.address frame + byte

/-- A store of `src` in the mapped ring from frame `offset` on leaves at `x` what the source has for
a byte of the sample of a channel in a stored frame, and `x` is where the device tells that byte to
be. -/
def StoresByte (m : MemoryDevice) (s : StreamSetup) (offset : Nat) (src : Bytes)
    (channel : UInt16) (frame byte x : Nat) : Prop :=
  offset ≤ frame ∧ frame < offset + s.geometry.bytesToFrames src.size ∧
    byte < s.geometry.sampleBytes ∧ m.HasByte channel frame byte x ∧
    (Device.storeMapped offset src m).device.ring.get x =
      src.getD ((frame - offset) * s.geometry.frameBytes +
        channel.toNat * s.geometry.sampleBytes + byte) 0

/-- A store in the mapped ring changes only samples that it stores, in frames of the ring. -/
def StoresOwn (m : MemoryDevice) (s : StreamSetup) (offset : Nat) (src : Bytes) : Prop :=
  ∀ x, (Device.storeMapped offset src m).device.ring.get x ≠ m.ring.get x →
    ∃ channel frame byte, m.StoresByte s offset src channel frame byte x ∧ frame < s.bufferSize

theorem storeMapped_eq (hsetup : m.setup = some s) (offset : Nat) (src : Bytes) :
    Device.storeMapped offset src m =
      { result := (m.mapped.storeInterleaved s.geometry offset src).1.mapError .area
        device := { m with ring := (m.mapped.storeInterleaved s.geometry offset src).2 } } := by
  have hmapped : Device.writableRing m = .ok m.mapped := mappedRing_eq_ok hsetup
  simp only [Device.storeMapped, geometry_eq_ok hsetup, hmapped]
  rfl

/-- The number of a channel of the device can be asked for. -/
theorem toNat_ofNat_channel (h : s.Supported) {c : Nat} (hc : c < s.geometry.channelCount) :
    (UInt16.ofNat c).toNat = c := by
  have hle := h.channels_le
  have hmax : maxChannels.toNat = 32 := rfl
  exact UInt16.toNat_ofNat_of_lt' (by change c < 65536; omega)

section Laid

variable (hlaid : m.mapped.Laid layout s) (hsetup : m.setup = some s)
include hlaid hsetup

/-- The device tells about its channels what their layouts are. -/
theorem channelInfo_eq_ok_iff {info : ChannelInfo} :
    m.channelInfo channel = .ok info ↔ channel.toNat < s.geometry.channelCount ∧
      info = ⟨channel, (layout.channel s channel.toNat).firstBit,
        (layout.channel s channel.toNat).stepBits⟩ := by
  simp only [channelInfo, requireSetup_eq_ok hsetup]
  constructor
  · intro hinfo
    split at hinfo
    · rename_i area harea
      obtain ⟨hc, rfl⟩ := hlaid.of_getElem?_layouts harea
      exact ⟨hc, (Except.ok.inj hinfo).symm⟩
    · cases hinfo
  · rintro ⟨hc, rfl⟩
    have harea : m.areas[channel.toNat]? = some (layout.channel s channel.toNat) :=
      hlaid.getElem?_layouts hc
    simp only [harea]

/-- The device tells the places of the samples of its channels. -/
theorem hasByte_iff : m.HasByte channel frame byte x ↔ channel.toNat < s.geometry.channelCount ∧
    x = layout.slot s channel.toNat frame * s.geometry.sampleBytes + byte := by
  have haddress := layout.address_channel s channel.toNat frame
  simp only [HasByte, channelInfo_eq_ok_iff hlaid hsetup]
  constructor
  · rintro ⟨info, ⟨hc, rfl⟩, hx⟩
    exact ⟨hc, hx.trans (congrArg (· + byte) haddress)⟩
  · rintro ⟨hc, hx⟩
    exact ⟨_, ⟨hc, rfl⟩, hx.trans (congrArg (· + byte) haddress).symm⟩

/-- A byte that a store changes is one of a stored sample. If the frame is none of the ring, then
the ring is planar and the byte is one of a later channel. -/
theorem exists_storesByte
    (hchanged : (Device.storeMapped offset src m).device.ring.get x ≠ m.ring.get x) :
    ∃ channel frame byte, m.StoresByte s offset src channel frame byte x ∧
      (frame < s.bufferSize ∨ layout = .planar ∧ ∃ channel' > channel,
        m.HasByte channel' (frame % s.bufferSize) byte x) := by
  rw [storeMapped_eq hsetup] at hchanged
  obtain hsame | ⟨c, frame, byte, hc, hframe, hbyte, hslot, hx, hget⟩ :=
    hlaid.get_storeInterleaved_cases offset src x
  · exact absurd hsame hchanged
  · have hchannel := toNat_ofNat_channel hlaid.supported hc
    refine ⟨UInt16.ofNat c, offset + frame, byte, ⟨Nat.le_add_right _ _,
      Nat.add_lt_add_left hframe offset, hbyte, ?_, ?_⟩, ?_⟩
    · rw [hasByte_iff hlaid hsetup, hchannel]
      exact ⟨hc, hx⟩
    · rw [storeMapped_eq hsetup, hchannel, Nat.add_sub_cancel_left]
      exact hget
    · obtain hin | ⟨rfl, hlater⟩ := RingLayout.of_slot_lt hslot
      · exact .inl hin
      · by_cases hin : offset + frame < s.bufferSize
        · exact .inl hin
        · have hchannel' := toNat_ofNat_channel hlaid.supported hlater
          have hover := Nat.div_pos (Nat.not_lt.mp hin) hlaid.supported.bufferSize_pos
          refine .inr ⟨rfl, UInt16.ofNat (c + (offset + frame) / s.bufferSize), ?_, ?_⟩
          · rw [gt_iff_lt, UInt16.lt_iff_toNat_lt, hchannel, hchannel']
            omega
          · rw [hasByte_iff hlaid hsetup, hchannel', ← RingLayout.slot_planar]
            exact ⟨hlater, hx⟩

/-- A store keeps to its samples in an interleaved ring, in a ring of one channel and inside the
ring. -/
theorem storesOwn (h : layout = .interleaved ∨ s.geometry.channelCount = 1 ∨
    offset + s.geometry.bytesToFrames src.size ≤ s.bufferSize) : m.StoresOwn s offset src := by
  intro x hchanged
  obtain ⟨channel, frame, byte, hstores, hframe⟩ := exists_storesByte hlaid hsetup hchanged
  refine ⟨channel, frame, byte, hstores, ?_⟩
  obtain hin | ⟨rfl, channel', hlater, hhas⟩ := hframe
  · exact hin
  · obtain hinterleaved | hone | hinside := h
    · cases hinterleaved
    · have hc := ((hasByte_iff hlaid hsetup).mp hhas).1
      have hlt := UInt16.lt_iff_toNat_lt.mp hlater
      omega
    · exact Nat.lt_of_lt_of_le hstores.2.1 hinside

end Laid

/-- In a planar ring a sample behind the block of its channel is stored over the one of the next
channel that has its place, unless that channel stores there itself. -/
theorem storesByte_of_spilled (hlaid : m.mapped.Laid .planar s) (hsetup : m.setup = some s)
    (hnear : offset + s.geometry.bytesToFrames src.size ≤ 2 * s.bufferSize) {channel' : UInt16}
    (hnext : channel'.toNat = channel.toNat + 1) (hspills : s.bufferSize ≤ frame)
    (hstart : offset ≤ frame) (hstop : frame < offset + s.geometry.bytesToFrames src.size)
    (hfirst : frame - s.bufferSize < offset) (hbyte : byte < s.geometry.sampleBytes)
    (hhas : m.HasByte channel' (frame - s.bufferSize) byte x) :
    m.StoresByte s offset src channel frame byte x := by
  obtain ⟨hc, hx⟩ := (hasByte_iff hlaid hsetup).mp hhas
  rw [hnext] at hc hx
  have hslot : RingLayout.planar.slot s (channel.toNat + 1) (frame - s.bufferSize) =
      RingLayout.planar.slot s channel.toNat frame := by
    change (channel.toNat + 1) * s.bufferSize + (frame - s.bufferSize) =
      channel.toNat * s.bufferSize + frame
    rw [Nat.succ_mul, Nat.add_assoc, Nat.add_sub_cancel' hspills]
  have hback : offset + (frame - offset) = frame := Nat.add_sub_cancel' hstart
  have hframe : frame - offset < s.geometry.bytesToFrames src.size := by omega
  have hget := hlaid.get_store_of_spilled hnear hc hframe (hback.symm ▸ hspills) (by omega) hbyte
  rw [hslot] at hx
  rw [hback, ← hx] at hget
  refine ⟨hstart, hstop, hbyte, (hasByte_iff hlaid hsetup).mpr ⟨by omega, hx⟩, ?_⟩
  rw [storeMapped_eq hsetup]
  exact hget

/-- What a store in the mapped ring of a memory device does. A byte that changes belongs to a sample
that is stored; if its frame is none of the ring, the ring is planar and the byte belongs to a later
channel as well. The store keeps to its samples in an interleaved ring, for a single channel and
inside the ring, and it succeeds when the frames end inside the ring. In a planar ring whose end is
passed by at most a ring, the samples behind the block of a channel do replace those of the next
one, all but those that the next channel stores itself. -/
theorem storeMapped_changes (h : Reached m laid) (hsetup : m.setup = some s) (offset : Nat)
    (src : Bytes) :
    (∀ x, (Device.storeMapped offset src m).device.ring.get x ≠ m.ring.get x →
      ∃ channel frame byte, m.StoresByte s offset src channel frame byte x ∧
        (frame < s.bufferSize ∨ laid = some .planar ∧ ∃ channel' > channel,
          m.HasByte channel' (frame % s.bufferSize) byte x)) ∧
    (laid = some .interleaved ∨ s.geometry.channelCount = 1 ∨
      offset + s.geometry.bytesToFrames src.size ≤ s.bufferSize → m.StoresOwn s offset src) ∧
    ((Device.storeMapped offset src m).result = .ok () ↔
      s.geometry.bytesToFrames src.size = 0 ∨
        offset + s.geometry.bytesToFrames src.size ≤ s.bufferSize) ∧
    (laid = some .planar → offset + s.geometry.bytesToFrames src.size ≤ 2 * s.bufferSize →
      ∀ (channel channel' : UInt16) (frame byte x : Nat), channel'.toNat = channel.toNat + 1 →
        s.bufferSize ≤ frame → offset ≤ frame →
        frame < offset + s.geometry.bytesToFrames src.size → frame - s.bufferSize < offset →
        byte < s.geometry.sampleBytes →
        m.HasByte channel' (frame - s.bufferSize) byte x →
          m.StoresByte s offset src channel frame byte x) := by
  obtain ⟨layout, rfl, hlaid⟩ := h.sound.laid s hsetup
  refine ⟨?_, ?_, ?_, ?_⟩
  · intro x hchanged
    obtain ⟨channel, frame, byte, hstores, hframe⟩ := exists_storesByte hlaid hsetup hchanged
    exact ⟨channel, frame, byte, hstores, hframe.imp_right (.imp_left (congrArg some))⟩
  · intro hkeeps
    exact storesOwn hlaid hsetup (hkeeps.imp_left Option.some.inj)
  · rw [storeMapped_eq hsetup, ← (hlaid.storeInterleaved_eq offset src).2]
    dsimp only
    cases (m.mapped.storeInterleaved s.geometry offset src).1 with
    | ok => exact ⟨fun _ => rfl, fun _ => rfl⟩
    | error => exact ⟨nofun, nofun⟩
  · intro hplanar hnear channel channel' frame byte x hnext hspills hstart hstop hfirst hbyte hhas
    obtain rfl := Option.some.inj hplanar
    exact storesByte_of_spilled hlaid hsetup hnear hnext hspills hstart hstop hfirst hbyte hhas

/-- A player of four stereo frames, laid out channel by channel. -/
def planarPlayer : MemoryDevice :=
  (Action.ask (.setParams ⟨.u8, 2, 8000, 4⟩)).after ((new "hw" .playback).withLayout .planar)

theorem reached_planarPlayer : Reached planarPlayer (some .planar) :=
  .act (.ask (.setParams ⟨.u8, 2, 8000, 4⟩)) (.drive (.setLayout .planar) (.new "hw" .playback))

theorem setup_planarPlayer : planarPlayer.setup = some ⟨⟨2, .u8⟩, 8000, 4⟩ := by decide +kernel

/-- Two frames from the last frame on: the second sample of the first channel is stored over the
first sample of the second one. One frame earlier they fit. -/
theorem storeMapped_changes_past_end :
    let s : StreamSetup := ⟨⟨2, .u8⟩, 8000, 4⟩
    let src : Bytes := #[0xaa, 0xbb, 0xcc, 0xdd]
    Reached planarPlayer (some .planar) ∧ planarPlayer.setup = some s ∧
      (Device.storeMapped 3 src planarPlayer).result ≠ .ok () ∧
      (Device.storeMapped 3 src planarPlayer).device.ring.toBytes =
        #[0, 0, 0, 0xaa, 0xcc, 0, 0, 0xbb] ∧
      planarPlayer.HasByte 1 0 0 4 ∧ planarPlayer.StoresByte s 3 src 0 4 0 4 ∧
      planarPlayer.StoresOwn s 2 src := by
  intro s src
  have hcount : s.geometry.bytesToFrames src.size = 2 := by decide +kernel
  have hhas : planarPlayer.HasByte 1 0 0 4 := ⟨⟨1, 32, 8⟩, by cbv, by decide⟩
  obtain ⟨-, -, hresult, hspilled⟩ :=
    storeMapped_changes reached_planarPlayer setup_planarPlayer 3 src
  obtain ⟨-, hkeeps, -, -⟩ := storeMapped_changes reached_planarPlayer setup_planarPlayer 2 src
  rw [hcount] at hresult hspilled hkeeps
  refine ⟨reached_planarPlayer, setup_planarPlayer, ?_, by decide +kernel, hhas, ?_,
    hkeeps (.inr (.inr (by decide)))⟩
  · rw [ne_eq, hresult]
    decide
  · exact hspilled rfl (by decide) 0 1 4 0 4 rfl (by decide) (by decide) (by decide) (by decide)
      (by decide) hhas

/-- A store in the mapped ring does not always keep to the samples that it stores. -/
theorem not_forall_storesOwn : ¬ ∀ (m : MemoryDevice) (laid : Option RingLayout)
    (s : StreamSetup) (offset : Nat) (src : Bytes), Reached m laid → m.setup = some s →
      m.StoresOwn s offset src := by
  intro h
  obtain ⟨channel, frame, byte, ⟨hstart, -, hbyte, hhas, -⟩, hframe⟩ := h planarPlayer _ _ 3
    #[0xaa, 0xbb, 0xcc, 0xdd] reached_planarPlayer setup_planarPlayer 4 (by decide +kernel)
  obtain ⟨layout, hlayout, hlaid⟩ := reached_planarPlayer.sound.laid _ setup_planarPlayer
  obtain rfl := Option.some.inj hlayout
  -- Frame 3 is the only one left, and no sample of it is at the changed byte.
  obtain ⟨-, hx⟩ := (hasByte_iff hlaid setup_planarPlayer).mp hhas
  change 4 = (channel.toNat * 4 + frame) * 1 + byte at hx
  change frame < 4 at hframe
  change byte < 1 at hbyte
  omega

end MemoryDevice

end FrameTee
