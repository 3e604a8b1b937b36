import FrameTee.Proofs.Device.Checked.Ring

/-!
# Checked operations of the hardware side

Playing, recording, draining and taking on parameters, with every computation and every slice
checked. No check fails in a device that is intact, as long as the positions left behind are counts.
-/

namespace FrameTee

namespace MemoryDevice

open MappedRing

variable {m : MemoryDevice} {s : StreamSetup}

section Checked

variable (m : MemoryDevice)

/-- Plays up to `frames` pending frames. -/
def consume? (frames : Nat) : Option (DeviceStep MemoryDevice Nat) :=
  match m.setup with
  | none => some (.fail (m.badState "consume") m)
  | some s =>
    if m.direction ≠ .playback then some (.fail (m.badState "consume") m)
    else do
      let n := min frames m.pending
      match ← m.loadOnto? s m.hwPtr n m.played with
      | (.error e, played) => some (.fail e { m with played })
      | (.ok (), played) =>
        let hwPtr ← Count.add? m.hwPtr n
        some (.ok n { m with played, hwPtr })

/-- Records the whole frames of `data`. -/
def inject? (data : Bytes) : Option (DeviceStep MemoryDevice Nat) :=
  match m.setup with
  | none => some (.fail (m.badState "inject") m)
  | some s =>
    if m.direction ≠ .capture then some (.fail (m.badState "inject") m)
    else do
      let frames := s.geometry.bytesToFrames data.size
      let room ← Count.sub? s.bufferSize m.captured
      let n := min frames room
      match byteLength s n with
      | .error e => some (.fail e m)
      | .ok bytes =>
        let src ← data.slice? 0 bytes
        match ← m.storeAt? s m.hwPtr src with
        | (.error e, ring) => some (.fail e { m with ring })
        | (.ok (), ring) =>
          let hwPtr ← Count.add? m.hwPtr n
          let m := { m with ring, hwPtr }
          if n < frames then
            let dropped ← Count.sub? frames n
            some
              { result := .ok n
                device := { m with state := .xrun }
                events := [.captureOverrun m.name dropped] }
          else some (.ok n m)

/-- Plays all pending frames and stops. -/
def drain? : Option (DeviceStep MemoryDevice Unit) :=
  match m.state with
  | .prepared | .running | .paused =>
    match m.direction with
    | .capture => some (.ok () { m with state := .setup })
    | .playback => do
      let step ← { m with state := .draining }.consume? m.pending
      match step.result with
      | .error e => some { result := .error e, device := step.device, events := step.events }
      | .ok _ =>
        some
          { result := .ok ()
            device := { step.device with state := .setup }
            events := step.events }
  | _ => some (.fail (m.badState "drain") m)

/-- The layout of one channel in the ring. -/
def channelLayout? (layout : RingLayout) (s : StreamSetup) (channel : Nat) : Option AreaLayout :=
  match layout with
  | .interleaved => do
    let firstBit ← Count.mul? channel s.geometry.bitsPerSample
    let stepBits ← Count.mul? s.geometry.bitsPerSample s.geometry.channelCount
    some ⟨firstBit, stepBits⟩
  | .planar => do
    let before ← Count.mul? channel s.bufferSize
    let firstBit ← Count.mul? before s.geometry.bitsPerSample
    some ⟨firstBit, s.geometry.bitsPerSample⟩

/-- The layout of each channel in the ring for a setup. -/
def channelLayouts? (layout : RingLayout) (s : StreamSetup) : Option (Array AreaLayout) :=
  ((List.range s.geometry.channelCount).mapM (channelLayout? layout s)).map List.toArray

/-- Takes on parameters. -/
def setParams? (p : StreamParams) : Option (DeviceStep MemoryDevice Unit) :=
  match m.state with
  | .opened | .setup | .prepared =>
    if range.accepts p then
      let s := StreamSetup.ofParams p
      match byteLength s s.bufferSize with
      | .error e => some (.fail e m)
      | .ok bytes => do
        let areas ← channelLayouts? m.layout s
        some
          { result := .ok ()
            device :=
              { m with
                areas
                ring := .zeros bytes
                applPtr := 0
                hwPtr := 0
                setup := some s
                state := .setup }
            events := [.paramsSet m.name s.geometry] }
    else some (.fail (.invalidArgument (.unsupportedParams p)) m)
  | _ => some (.fail (m.badState "set_params") m)

end Checked

theorem consume?_eq_some (h : ∀ s, m.setup = some s → ∃ layout, m.mapped.Laid layout s)
    (frames : Nat) (hcountable : (m.consume frames).device.Countable) :
    m.consume? frames = some (m.consume frames) := by
  rw [consume] at hcountable
  rw [consume?, consume]
  cases hsetup : m.setup with
  | none => rfl
  | some s =>
      obtain ⟨layout, hlaid⟩ := h s hsetup
      rw [hsetup] at hcountable
      dsimp only at hcountable ⊢
      split
      · rfl
      · rename_i hdirection
        have hload := loadOnto_eq_ok hlaid m.hwPtr (min frames m.pending) m.played
        rw [if_neg hdirection, hload] at hcountable
        have hhw : m.hwPtr + min frames m.pending < Count.limit := hcountable.hwPtr
        simp only [loadOnto?_eq_some hlaid.supported, hload, Count.add?_eq_some hhw,
          Option.bind_eq_bind, Option.bind_some]

section Intact

variable (h : m.Intact)
include h

theorem inject?_eq_some (data : Bytes) (hcountable : (m.inject data).device.Countable) :
    m.inject? data = some (m.inject data) := by
  obtain hsetup | ⟨s, hsetup⟩ := Option.eq_none_or_eq_some m.setup
  · rw [inject?, inject, hsetup]
  · obtain ⟨layout, hlaid⟩ := h.laid s hsetup
    by_cases hdirection : m.direction = .capture
    · obtain ⟨ring, -, -, hdevice⟩ := inject_eq_ok h hsetup hdirection data
      rw [hdevice] at hcountable
      have hroom : Count.sub? s.bufferSize m.captured = some (s.bufferSize - m.captured) :=
        Count.sub?_eq_some (captured_le_bufferSize (h.window s hsetup) hdirection)
      rw [inject?, inject, hsetup]
      dsimp only
      rw [if_neg (not_not_intro hdirection), if_neg (not_not_intro hdirection), hroom]
      have hhw := hcountable.hwPtr
      dsimp only at hhw ⊢
      generalize hn :
        min (s.geometry.bytesToFrames data.size) (s.bufferSize - m.captured) = n at hhw
      have hsize : n * s.geometry.frameBytes ≤ data.size :=
        s.geometry.bytes_le_of_le_bytesToFrames (by omega)
      have hfits : n ≤ s.bufferSize := by omega
      have hlt : (data.extract 0 (n * s.geometry.frameBytes)).size < Count.limit := by
        rw [Array.size_extract, Nat.min_eq_left hsize, Nat.sub_zero]
        exact hlaid.supported.bytes_lt hfits
      have hdropped : Count.sub? (s.geometry.bytesToFrames data.size) n =
          some (s.geometry.bytesToFrames data.size - n) := Count.sub?_eq_some (by omega)
      simp only [Option.bind_eq_bind, Option.bind_some, hn, hlaid.supported.byteLength_eq hfits,
        Bytes.slice?_eq_some (Nat.zero_le _) hsize, storeAt?_eq_some hlaid.supported _ hlt,
        Count.add?_eq_some hhw, hdropped]
      rcases m.storeAt s m.hwPtr (data.extract 0 (n * s.geometry.frameBytes)) with ⟨e | ⟨⟩, ring⟩
      · rfl
      · dsimp only
        split <;> rfl
    · rw [inject?, inject, hsetup]
      dsimp only
      rw [if_pos hdirection, if_pos hdirection]

theorem drain?_eq_some (hcountable : m.drain.device.Countable) : m.drain? = some m.drain := by
  have hplays := consume?_eq_some (m := { m with state := .draining }) h.laid m.pending
  rw [drain] at hcountable
  rw [drain?, drain]
  generalize consume? { m with state := .draining } m.pending = step? at hplays ⊢
  generalize consume { m with state := .draining } m.pending = step at hplays hcountable ⊢
  cases hstate : m.state <;> try rfl
  all_goals
    rw [hstate] at hcountable
    cases hdirection : m.direction with
    | capture => rfl
    | playback =>
        rw [hdirection] at hcountable
        dsimp only at hcountable ⊢
        obtain ⟨result, device, events⟩ := step
        have hplayed : device.Countable := by
          cases result <;> exact ⟨hcountable.applPtr, hcountable.hwPtr⟩
        rw [hplays hplayed, Option.bind_eq_bind, Option.bind_some]
        cases result <;> rfl

end Intact

theorem channelLayout?_eq_some (hs : s.Supported) (layout : RingLayout) {c : Nat}
    (hc : c < s.geometry.channelCount) : channelLayout? layout s c = some (layout.channel s c) := by
  have hbits := s.geometry.bitsPerSample_le
  have hchannels : s.geometry.channelCount ≤ 32 := hs.channels_le
  have hlength : s.bufferSize ≤ 0x100000 := hs.bufferSize_le
  cases layout with
  | interleaved =>
      have hfirst : c * s.geometry.bitsPerSample ≤ 32 * 64 := Nat.mul_le_mul (by omega) hbits
      have hstep : s.geometry.bitsPerSample * s.geometry.channelCount ≤ 64 * 32 :=
        Nat.mul_le_mul hbits hchannels
      rw [channelLayout?, Count.mul?_eq_some (Nat.lt_of_le_of_lt hfirst (by decide)),
        Count.mul?_eq_some (Nat.lt_of_le_of_lt hstep (by decide))]
      rfl
  | planar =>
      have hbefore : c * s.bufferSize ≤ 32 * 0x100000 := Nat.mul_le_mul (by omega) hlength
      have hfirst : c * s.bufferSize * s.geometry.bitsPerSample ≤ 32 * 0x100000 * 64 :=
        Nat.mul_le_mul hbefore hbits
      rw [channelLayout?, Count.mul?_eq_some (Nat.lt_of_le_of_lt hbefore (by decide)),
        Option.bind_eq_bind, Option.bind_some,
        Count.mul?_eq_some (Nat.lt_of_le_of_lt hfirst (by decide))]
      rfl

theorem channelLayouts?_eq_some (hs : s.Supported) (layout : RingLayout) :
    channelLayouts? layout s = some (channelLayouts layout s) := by
  have hmap : (List.range s.geometry.channelCount).mapM (channelLayout? layout s) =
      some ((List.range s.geometry.channelCount).map (layout.channel s)) :=
    mapM_eq_some fun c hc => channelLayout?_eq_some hs layout (List.mem_range.mp hc)
  rw [channelLayouts?, hmap, Option.map_some]
  congr 1
  apply Array.ext_getElem?
  intro c
  rw [RingLayout.getElem?_channelLayouts, List.getElem?_toArray, List.getElem?_map]
  split
  · rename_i hc
    rw [List.getElem?_range hc, Option.map_some]
  · rename_i hc
    rw [List.getElem?_eq_none (by rw [List.length_range]; omega), Option.map_none]

theorem setParams?_eq_some (m : MemoryDevice) (params : StreamParams) :
    m.setParams? params = some (m.setParams params) := by
  rw [setParams?, setParams]
  cases m.state <;> try rfl
  all_goals
    dsimp only
    split
    · rename_i haccepts
      rw [byteLength_of_accepts haccepts]
      dsimp only
      rw [channelLayouts?_eq_some (supported_of_accepts haccepts)]
      rfl
    · rfl

end MemoryDevice

end FrameTee
