import FrameTee.Proofs.Area.Copy
import Mathlib.Algebra.Group.Nat.Defs

/-!
# The strided copy in plain numbers

A copy sample by sample computes with counts: the number of a frame stops at the largest count, and
products and sums that are no counts are refused. In memory of less than `Count.limit` bytes none of
this shows. `ChannelAreas.Readable` says in unbounded arithmetic where the samples have to be, and
the copy succeeds exactly then (`ChannelAreas.copySamples_eq_ok_iff`); when it fails, it fails with
the fault of the first sample that has one (`ChannelAreas.FirstFault`). All this takes room for the
bytes. Where there is none the copy has no answer, whatever the samples are, and there alone
(`ChannelAreas.copyInterleaved_eq_capacityOverflow_iff`).

## Implementation notes

Frames whose numbers are stopped at the largest count get the address of another frame. This is
harmless for two reasons. If the samples of a channel are apart, such an address lies behind all
memory; if they are not, all frames of the channel have the same address.
-/

namespace FrameTee

namespace AreaLayout

variable {layout : AreaLayout} {channel offset frame width length start : Nat}

/-- A frame whose number is stopped has a sample in memory only if it has the one of every frame. -/
theorem address_addSat (hwidth : 0 < width)
    (h : layout.address (Count.addSat offset frame) + width < Count.limit ∨
      layout.address (offset + frame) + width < Count.limit) :
    layout.address (Count.addSat offset frame) = layout.address (offset + frame) := by
  by_cases hlt : offset + frame < Count.limit
  · rw [Count.addSat_eq_of_lt hlt]
  · have hsat : Count.addSat offset frame = Count.limit - 1 := by
      simp only [Count.addSat, Count.largest]
      omega
    obtain hstep | hstep := Nat.eq_zero_or_pos (layout.stepBits / 8)
    · simp only [address, hstep, Nat.mul_zero]
    · have hstopped := Nat.le_mul_of_pos_right (Count.limit - 1) hstep
      have hframe := Nat.le_mul_of_pos_right (offset + frame) hstep
      simp only [address, hsat] at h
      omega

/-- The sample of a frame has a place in `length` bytes of memory: it starts at a whole byte and
ends at a count, inside the memory. -/
def Placed (layout : AreaLayout) (frame width length : Nat) : Prop :=
  layout.Aligned ∧ layout.address frame + width < Count.limit ∧
    layout.address frame + width ≤ length

/-- Stopping the number of a frame at the largest count does not change which samples can be
used. -/
theorem sampleStart_addSat_eq_ok_iff (hwidth : 0 < width) :
    layout.sampleStart channel (Count.addSat offset frame) width length = .ok start ↔
      layout.Placed (offset + frame) width length ∧ layout.address (offset + frame) = start := by
  rw [sampleStart_eq_ok_iff]
  constructor
  · rintro ⟨haligned, rfl, -, hstop, hinside⟩
    have haddress := address_addSat hwidth (.inl hstop)
    rw [haddress] at hstop hinside
    exact ⟨⟨haligned, hstop, hinside⟩, haddress.symm⟩
  · rintro ⟨⟨haligned, hstop, hinside⟩, rfl⟩
    exact ⟨haligned, address_addSat hwidth (.inr hstop), by omega, hstop, hinside⟩

theorem byteOffset_eq (layout : AreaLayout) (channel frame : Nat) :
    layout.byteOffset channel frame =
      if layout.Aligned then
        if layout.address frame < Count.limit then .ok (layout.address frame)
        else .error (.frameOverflow frame)
      else .error (.unaligned channel layout.firstBit layout.stepBits) := by
  by_cases haligned : layout.Aligned
  · rw [if_pos haligned]
    by_cases hlt : layout.address frame < Count.limit
    · rw [if_pos hlt]
      exact byteOffset_eq_ok_iff.mpr ⟨haligned, rfl, hlt⟩
    · rw [if_neg hlt]
      cases hoffset : layout.byteOffset channel frame with
      | ok start =>
          obtain ⟨-, rfl, hstart⟩ := byteOffset_eq_ok_iff.mp hoffset
          exact absurd hstart hlt
      | error e =>
          rw [byteOffset, if_pos haligned] at hoffset
          split at hoffset
          · cases hoffset
          · exact hoffset.symm
  · rw [if_neg haligned, byteOffset, if_neg haligned]

/-- What is wrong with the sample of a frame, if it does not lie in `length` bytes of memory. The
number of the frame may be any number; what is reported is a count. -/
def fault? (layout : AreaLayout) (channel frame width length : Nat) : Option AreaError :=
  if ¬ layout.Aligned then some (.unaligned channel layout.firstBit layout.stepBits)
  else if layout.address frame + width ≤ length then none
  else if layout.address (min frame Count.largest) < Count.limit then
    some (.outOfBounds channel (min frame Count.largest) length)
  else some (.frameOverflow (min frame Count.largest))

theorem fault?_eq_none_iff : layout.fault? channel frame width length = none ↔
    layout.Aligned ∧ layout.address frame + width ≤ length := by
  unfold fault?
  by_cases haligned : layout.Aligned
  · by_cases hinside : layout.address frame + width ≤ length
    · simp [haligned, hinside]
    · rw [if_neg (not_not_intro haligned), if_neg hinside]
      split <;> simp [hinside]
  · simp [haligned]

/-- The check of a sample finds what is wrong with it. -/
theorem sampleStart_addSat (hwidth : 0 < width) (hlength : length < Count.limit) :
    layout.sampleStart channel (Count.addSat offset frame) width length =
      match layout.fault? channel (offset + frame) width length with
      | none => .ok (layout.address (offset + frame))
      | some e => .error e := by
  by_cases haligned : layout.Aligned
  · by_cases hinside : layout.address (offset + frame) + width ≤ length
    · rw [fault?_eq_none_iff.mpr ⟨haligned, hinside⟩]
      exact (sampleStart_addSat_eq_ok_iff hwidth).mpr
        ⟨⟨haligned, Nat.lt_of_le_of_lt hinside hlength, hinside⟩, rfl⟩
    · have hnone : ∀ start, layout.sampleStart channel (Count.addSat offset frame) width length ≠
          .ok start := by
        intro start hstart
        exact hinside ((sampleStart_addSat_eq_ok_iff hwidth).mp hstart).1.2.2
      have hsat : min (offset + frame) Count.largest = Count.addSat offset frame := rfl
      simp only [fault?, if_neg (not_not_intro haligned), if_neg hinside, hsat]
      -- The address is a count or not; if it is, the sample ends behind the memory.
      by_cases hlt : layout.address (Count.addSat offset frame) < Count.limit
      · rw [if_pos hlt]
        simp only [sampleStart, byteOffset_eq, if_pos haligned, if_pos hlt] at hnone ⊢
        split
        · rename_i stop hstop
          rw [hstop] at hnone
          split
          · rename_i hle
            simp only [if_pos hle] at hnone
            exact absurd rfl (hnone _)
          · rfl
        · rfl
      · simp only [if_neg hlt, sampleStart, byteOffset_eq, if_pos haligned]
  · simp only [fault?, haligned, not_false_eq_true, if_true, sampleStart, byteOffset_eq, if_false]

/-- What is wrong with a sample can be answered. -/
theorem isAnswer_of_sampleStart {fault : AreaError}
    (h : layout.sampleStart channel frame width length = .error fault) : fault.isAnswer = true := by
  rw [sampleStart] at h
  cases hoffset : layout.byteOffset channel frame with
  | error e =>
      rw [hoffset] at h
      obtain rfl := Except.error.inj h
      rw [byteOffset_eq] at hoffset
      split at hoffset
      · split at hoffset
        · cases hoffset
        · cases hoffset
          rfl
      · cases hoffset
        rfl
  | ok start =>
      rw [hoffset] at h
      dsimp only at h
      split at h
      · split at h
        · cases h
        · cases h
          rfl
      · cases h
        rfl

end AreaLayout

namespace ChannelAreas

variable {a : ChannelAreas} {g : FrameGeometry} {offset frames : Nat} {flat : Bytes}
  {fault : AreaError}

/-- Every sample of the frames starts at a whole byte and ends inside the memory of its channel. -/
def Readable (a : ChannelAreas) (g : FrameGeometry) (offset frames : Nat) : Prop :=
  ∀ (channel : Nat) (area : ChannelArea), a.areas[channel]? = some area → ∀ frame < frames,
    area.layout.Aligned ∧
      area.layout.address (offset + frame) + g.sampleBytes ≤ (a.memory area).size

/-- What is wrong with the sample of a channel in a frame. -/
def sampleFault? (a : ChannelAreas) (g : FrameGeometry) (offset channel frame : Nat) :
    Option AreaError :=
  a.areas[channel]?.bind fun area =>
    area.layout.fault? channel (offset + frame) g.sampleBytes (a.memory area).size

/-- What is wrong with the first sample with which something is wrong, all frames of a channel
before those of the next one. -/
def FirstFault (a : ChannelAreas) (g : FrameGeometry) (offset frames : Nat) (fault : AreaError) :
    Prop :=
  ∃ channel, ∃ frame < frames, a.sampleFault? g offset channel frame = some fault ∧
    ∀ channel', ∀ frame' < frames, channel' < channel ∨ channel' = channel ∧ frame' < frame →
      a.sampleFault? g offset channel' frame' = none

/-- `flat` holds the frames, and the bytes of each sample are those at its address. -/
structure Flattens (a : ChannelAreas) (g : FrameGeometry) (offset frames : Nat) (flat : Bytes) :
    Prop where
  /-- There are as many bytes as the frames have. -/
  size : flat.size = frames * g.frameBytes
  /-- The samples of a frame follow one another in channel order. -/
  sample : ∀ (channel : Nat) (area : ChannelArea), a.areas[channel]? = some area →
    ∀ frame < frames, ∀ i < g.sampleBytes,
      flat[frame * g.frameBytes + channel * g.sampleBytes + i]? =
        some ((a.memory area).get (area.layout.address (offset + frame) + i))

/-- What is wrong with a sample can be answered. -/
theorem FirstFault.isAnswer (h : a.FirstFault g offset frames fault) : fault.isAnswer = true := by
  obtain ⟨channel, frame, -, hfault, -⟩ := h
  obtain ⟨area, -, hfault⟩ := Option.bind_eq_some_iff.mp hfault
  rw [AreaLayout.fault?] at hfault
  split at hfault
  · cases hfault
    rfl
  · split at hfault
    · cases hfault
    · split at hfault <;> cases hfault <;> rfl

theorem flattens_flatten (hareas : a.areas.size = g.channelCount) (offset frames : Nat) :
    a.Flattens g offset frames (a.flatten g offset frames) where
  size := size_flatten
  sample := by
    intro channel area harea frame hframe i hi
    have hchannel := channel_lt_of_getElem? hareas harea
    obtain ⟨hdiv, hwithin, hbyte⟩ :=
      g.sample_of_byte (Nat.zero_lt_of_lt hchannel) frame hchannel hi
    rw [getElem?_flatten (g.byte_lt hframe hchannel hi)]
    simp only [interleavedByte, hdiv, hwithin, hbyte, harea]

/-- The samples are all there is to a copy. -/
theorem Flattens.eq_flatten (h : a.Flattens g offset frames flat)
    (hareas : a.areas.size = g.channelCount) : flat = a.flatten g offset frames := by
  apply Array.ext_getElem?
  intro j
  by_cases hj : j < frames * g.frameBytes
  · have hpos : 0 < g.frameBytes := Nat.pos_of_lt_mul_left hj
    have hframe : j / g.frameBytes < frames := (Nat.div_lt_iff_lt_mul hpos).mpr hj
    have hchannel := g.channel_lt (Nat.mod_lt j hpos)
    have hi := Nat.mod_lt (j % g.frameBytes) g.sampleBytes_pos
    have harea : a.areas[j % g.frameBytes / g.sampleBytes]? =
        some a.areas[j % g.frameBytes / g.sampleBytes] :=
      Array.getElem?_eq_getElem (hareas ▸ hchannel)
    have hbyte := g.byte_eq j
    rw [← Nat.add_assoc] at hbyte
    have hflat := h.sample _ _ harea _ hframe _ hi
    have hflatten := (flattens_flatten hareas offset frames).sample _ _ harea _ hframe _ hi
    rw [hbyte] at hflat hflatten
    rw [hflat, hflatten]
  · rw [Array.getElem?_eq_none (by rw [h.size]; omega),
      Array.getElem?_eq_none (by rw [size_flatten]; omega)]

/-- What the first failing check says. -/
theorem of_firstFault_eq_some {check : Nat → Except AreaError Nat} {frame count : Nat}
    (h : firstFault check frame count = some fault) :
    ∃ i < count, check (frame + i) = .error fault ∧
      ∀ j < i, ∃ start, check (frame + j) = .ok start := by
  induction count generalizing frame with
  | zero => cases h
  | succ count ih =>
      rw [firstFault] at h
      cases hcheck : check frame with
      | error found =>
          rw [hcheck] at h
          obtain rfl := Option.some.inj h
          exact ⟨0, Nat.succ_pos _, hcheck, fun j hj => absurd hj (Nat.not_lt_zero j)⟩
      | ok start =>
          rw [hcheck] at h
          obtain ⟨i, hi, hfound, hbefore⟩ := ih h
          have hnext : ∀ j, frame + 1 + j = frame + (j + 1) := by omega
          refine ⟨i + 1, Nat.succ_lt_succ hi, by rw [← hnext]; exact hfound, ?_⟩
          intro j hj
          cases j with
          | zero => exact ⟨start, hcheck⟩
          | succ j =>
              rw [← hnext]
              exact hbefore j (Nat.lt_of_succ_lt_succ hj)

/-- What a search that goes through the areas with their channels finds. -/
theorem of_findSome?_zipIdx {search : ChannelArea × Nat → Option AreaError}
    (h : a.areas.toList.zipIdx.findSome? search = some fault) :
    ∃ channel area, a.areas[channel]? = some area ∧ search (area, channel) = some fault ∧
      ∀ channel' < channel, ∀ area', a.areas[channel']? = some area' →
        search (area', channel') = none := by
  obtain ⟨before, ⟨area, channel⟩, after, hsplit, hfound, hbefore⟩ :=
    List.findSome?_eq_some_iff.mp h
  have hget : ∀ i : Nat, (before ++ (area, channel) :: after)[i]? = a.areas[i]?.map (·, i) := by
    intro i
    rw [← hsplit, List.getElem?_zipIdx, Array.getElem?_toList, Nat.zero_add]
  have hthis := hget before.length
  rw [List.getElem?_append_right (Nat.le_refl _), Nat.sub_self, List.getElem?_cons_zero] at hthis
  obtain ⟨found, harea, heq⟩ := Option.map_eq_some_iff.mp hthis.symm
  obtain ⟨rfl, rfl⟩ := Prod.mk.inj heq
  refine ⟨before.length, found, harea, hfound, ?_⟩
  intro channel' hlt area' harea'
  have hother := hget channel'
  rw [List.getElem?_append_left hlt, harea'] at hother
  exact hbefore _ (List.mem_of_getElem? hother)

/-- What a search for the first sample that cannot be read finds can be answered. -/
theorem isAnswer_of_findFault? (h : a.findFault? g offset frames = some fault) :
    fault.isAnswer = true := by
  obtain ⟨channel, area, -, hfound, -⟩ := of_findSome?_zipIdx h
  obtain ⟨frame, -, hcheck, -⟩ := of_firstFault_eq_some hfound
  exact AreaLayout.isAnswer_of_sampleStart hcheck

theorem isAnswer_of_sliceInterleaved {buffer : Memory}
    (h : sliceInterleaved buffer offset frames g = .error fault) : fault.isAnswer = true := by
  rw [sliceInterleaved] at h
  split at h
  · cases h
    rfl
  · split at h <;> cases h
    rfl

/-- A copy sample by sample goes without an answer exactly if there is no room for it. -/
theorem copySamples_isAnswer_iff {total : Nat}
    (h : a.copySamples g offset frames total = .error fault) :
    fault.isAnswer = true ↔ total ≤ Bytes.maxSize := by
  rw [copySamples] at h
  split at h
  · rename_i hroom
    cases h
    simpa [AreaError.isAnswer] using hroom
  · rename_i hroom
    split at h
    · rename_i found hfault
      cases h
      simpa [isAnswer_of_findFault? hfault] using hroom
    · cases h

section Search

variable (hsize : ∀ area ∈ a.areas, (a.memory area).size < Count.limit)
include hsize

/-- The check of a sample finds what is wrong with it. -/
theorem checkSample_eq {channel : Nat} {area : ChannelArea}
    (harea : a.areas[channel]? = some area) (offset frame : Nat) :
    a.checkSample g offset channel area frame =
      match a.sampleFault? g offset channel frame with
      | none => .ok (area.layout.address (offset + frame))
      | some e => .error e := by
  have hmem : area ∈ a.areas := Array.mem_of_getElem? harea
  rw [sampleFault?, harea]
  exact AreaLayout.sampleStart_addSat g.sampleBytes_pos (hsize area hmem)

theorem sampleFault?_eq_none {channel : Nat} {area : ChannelArea}
    (harea : a.areas[channel]? = some area) {frame start : Nat}
    (h : a.checkSample g offset channel area frame = .ok start) :
    a.sampleFault? g offset channel frame = none := by
  rw [checkSample_eq hsize harea] at h
  cases hfault : a.sampleFault? g offset channel frame with
  | none => rfl
  | some e =>
      rw [hfault] at h
      cases h

/-- The search stops at the first sample with which something is wrong. -/
theorem firstFault_of_findFault? (h : a.findFault? g offset frames = some fault) :
    a.FirstFault g offset frames fault := by
  obtain ⟨channel, area, harea, hfound, hbefore⟩ := of_findSome?_zipIdx h
  obtain ⟨frame, hframe, hcheck, hearlier⟩ := of_firstFault_eq_some hfound
  simp only [Nat.zero_add] at hcheck hearlier
  refine ⟨channel, frame, hframe, ?_, ?_⟩
  · rw [checkSample_eq hsize harea] at hcheck
    cases hfault : a.sampleFault? g offset channel frame with
    | none =>
        rw [hfault] at hcheck
        cases hcheck
    | some e =>
        rw [hfault] at hcheck
        cases hcheck
        rfl
  · rintro channel' frame' hframe' (hchannel | ⟨rfl, hlt⟩)
    · cases harea' : a.areas[channel']? with
      | none => rw [sampleFault?, harea', Option.bind_none]
      | some area' =>
          obtain ⟨start, hstart⟩ :=
            exists_ok_of_firstFault_eq_none (hbefore channel' hchannel area' harea') hframe'
          rw [Nat.zero_add] at hstart
          exact sampleFault?_eq_none hsize harea' hstart
    · obtain ⟨start, hstart⟩ := hearlier frame' hlt
      exact sampleFault?_eq_none hsize harea hstart

theorem findFault?_eq_none_iff :
    a.findFault? g offset frames = none ↔ a.Readable g offset frames := by
  constructor
  · intro h channel area harea frame hframe
    obtain ⟨start, hstart⟩ := exists_checkSample_eq_ok h harea hframe
    have hnone := sampleFault?_eq_none hsize harea hstart
    rw [sampleFault?, harea] at hnone
    exact AreaLayout.fault?_eq_none_iff.mp hnone
  · intro h
    cases hfault : a.findFault? g offset frames with
    | none => rfl
    | some e =>
        obtain ⟨channel, frame, hframe, hwrong, -⟩ := firstFault_of_findFault? hsize hfault
        obtain ⟨area, harea, hwrong⟩ := Option.bind_eq_some_iff.mp hwrong
        rw [AreaLayout.fault?_eq_none_iff.mpr (h channel area harea frame hframe)] at hwrong
        cases hwrong

/-- Sample by sample a copy succeeds exactly when there is room for it and every sample can be
read. -/
theorem copySamples_eq_ok_iff :
    a.copySamples g offset frames (frames * g.frameBytes) = .ok flat ↔
      frames * g.frameBytes ≤ Bytes.maxSize ∧ a.Readable g offset frames ∧
        flat = a.flatten g offset frames := by
  rw [← findFault?_eq_none_iff hsize, copySamples, ← Nat.not_lt]
  by_cases hroom : Bytes.maxSize < frames * g.frameBytes
  · simp [hroom]
  · rw [if_neg hroom]
    cases a.findFault? g offset frames with
    | none =>
        simp only [hroom, not_false_eq_true, Except.ok.injEq, true_and]
        exact eq_comm
    | some e => simp

/-- If there is room for it, a copy sample by sample fails with the first fault. -/
theorem firstFault_of_copySamples {total : Nat}
    (h : a.copySamples g offset frames total = .error fault) (hroom : total ≤ Bytes.maxSize) :
    a.FirstFault g offset frames fault := by
  rw [copySamples, if_neg (Nat.not_lt.mpr hroom)] at h
  cases hfault : a.findFault? g offset frames with
  | none =>
      rw [hfault] at h
      cases h
  | some e =>
      rw [hfault] at h
      cases h
      exact firstFault_of_findFault? hsize hfault

end Search

/-- A copy of areas that are not one interleaved buffer goes sample by sample. -/
theorem copyInterleaved_eq_copySamples (hstrided : a.asInterleaved? g = none)
    (hareas : a.areas.size = g.channelCount) (hlt : frames * g.frameBytes < Count.limit) :
    a.copyInterleaved g offset frames = a.copySamples g offset frames (frames * g.frameBytes) := by
  simp only [copyInterleaved, if_neg (not_not_intro hareas), g.framesToBytes?_eq_some hlt, hstrided]

theorem copyInterleaved_eq_ok_iff_of_strided (hstrided : a.asInterleaved? g = none)
    (hsize : ∀ area ∈ a.areas, (a.memory area).size < Count.limit) :
    a.copyInterleaved g offset frames = .ok flat ↔
      a.areas.size = g.channelCount ∧ frames * g.frameBytes ≤ Bytes.maxSize ∧
        a.Readable g offset frames ∧ flat = a.flatten g offset frames := by
  constructor
  · intro h
    obtain ⟨hareas, hlt, -⟩ := bounds_of_copyInterleaved_eq_ok h
    rw [copyInterleaved_eq_copySamples hstrided hareas hlt, copySamples_eq_ok_iff hsize] at h
    exact ⟨hareas, h⟩
  · rintro ⟨hareas, h⟩
    have hlt := Nat.lt_of_le_of_lt h.1 Bytes.maxSize_lt
    rw [copyInterleaved_eq_copySamples hstrided hareas hlt, copySamples_eq_ok_iff hsize]
    exact h

/-- A copy has no answer exactly where its bytes can be counted and there is no room for them. -/
theorem copyInterleaved_eq_capacityOverflow_iff :
    a.copyInterleaved g offset frames = .error .capacityOverflow ↔
      a.areas.size = g.channelCount ∧ frames * g.frameBytes < Count.limit ∧
        ¬ a.HasRoom g frames := by
  constructor
  · intro h
    rw [copyInterleaved] at h
    split at h
    · cases h
    · rename_i hareas
      split at h
      · cases h
      · rename_i total htotal
        obtain ⟨rfl, hlt⟩ := Count.mul?_eq_some_iff.mp htotal
        refine ⟨Decidable.not_not.mp hareas, hlt, ?_⟩
        split at h
        · exact absurd (isAnswer_of_sliceInterleaved h) Bool.false_ne_true
        · rename_i hstrided
          intro hroom
          exact absurd ((copySamples_isAnswer_iff h).mpr (hroom hstrided)) Bool.false_ne_true
  · rintro ⟨hareas, hlt, hroom⟩
    obtain ⟨hstrided, hmany⟩ := Classical.not_imp.mp hroom
    rw [copyInterleaved_eq_copySamples hstrided hareas hlt, copySamples,
      if_pos (Nat.not_le.mp hmany)]

/-- Any other fault of a copy can be answered. -/
theorem isAnswer_of_copyInterleaved (h : a.copyInterleaved g offset frames = .error fault)
    (hroom : a.HasRoom g frames) : fault.isAnswer = true := by
  cases fault with
  | capacityOverflow => exact absurd hroom (copyInterleaved_eq_capacityOverflow_iff.mp h).2.2
  | _ => rfl

/-- A copy of frames fails with an answer, or there is no room for the frames. -/
theorem isAnswer_or_lt_of_copyInterleaved (h : a.copyInterleaved g offset frames = .error fault) :
    fault.isAnswer = true ∨ Bytes.maxSize < frames * g.frameBytes := by
  by_cases hroom : a.HasRoom g frames
  · exact .inl (isAnswer_of_copyInterleaved h hroom)
  · exact .inr (Nat.not_le.mp (Classical.not_imp.mp hroom).2)

/-- What a copy of areas does that are not one interleaved buffer, in plain numbers. There has to be
room for its bytes; if there is none it has no answer, whatever is wrong with its samples. -/
theorem copyInterleaved_strided (hstrided : a.asInterleaved? g = none)
    (hsize : ∀ area ∈ a.areas, (a.memory area).size < 2 ^ 63) (offset frames : Nat) :
    ((∃ flat, a.copyInterleaved g offset frames = .ok flat) ↔
      a.areas.size = g.channelCount ∧ frames * g.frameBytes ≤ Bytes.maxSize ∧
        a.Readable g offset frames) ∧
    (∀ flat, a.copyInterleaved g offset frames = .ok flat → a.Flattens g offset frames flat) ∧
    (a.areas.size = g.channelCount → frames * g.frameBytes < Count.limit →
      (a.copyInterleaved g offset frames = .error .capacityOverflow ↔
        Bytes.maxSize < frames * g.frameBytes) ∧
      ∀ fault, a.copyInterleaved g offset frames = .error fault → fault.isAnswer = true →
        a.FirstFault g offset frames fault) := by
  have hcount : ∀ area ∈ a.areas, (a.memory area).size < Count.limit := fun area hmem =>
    Nat.lt_trans (hsize area hmem) (by decide)
  have hok : ∀ flat, a.copyInterleaved g offset frames = .ok flat ↔
      a.areas.size = g.channelCount ∧ frames * g.frameBytes ≤ Bytes.maxSize ∧
        a.Readable g offset frames ∧ flat = a.flatten g offset frames :=
    fun flat => copyInterleaved_eq_ok_iff_of_strided hstrided hcount
  refine ⟨⟨?_, ?_⟩, ?_, ?_⟩
  · rintro ⟨flat, h⟩
    obtain ⟨hareas, hroom, hreadable, -⟩ := (hok flat).mp h
    exact ⟨hareas, hroom, hreadable⟩
  · rintro ⟨hareas, hroom, hreadable⟩
    exact ⟨_, (hok _).mpr ⟨hareas, hroom, hreadable, rfl⟩⟩
  · intro flat h
    obtain ⟨hareas, -, -, rfl⟩ := (hok flat).mp h
    exact flattens_flatten hareas offset frames
  · intro hareas hlt
    refine ⟨?_, ?_⟩
    · rw [copyInterleaved_eq_capacityOverflow_iff]
      simp only [hareas, hlt, true_and, HasRoom, hstrided, forall_const, Nat.not_le]
    · intro fault h hanswer
      rw [copyInterleaved_eq_copySamples hstrided hareas hlt] at h
      exact firstFault_of_copySamples hcount h ((copySamples_isAnswer_iff h).mp hanswer)

/-- At the largest frame number three frames are three times the same one where the samples of a
channel share one place. Where they do not, the first sample of the second channel has no
address. -/
theorem copyInterleaved_strided_stopped :
    let g : FrameGeometry := ⟨2, .u8⟩
    let still : ChannelAreas := ⟨#[.ofBytes #[7, 8]], #[⟨0, ⟨0, 0⟩⟩, ⟨0, ⟨8, 0⟩⟩]⟩
    let moving : ChannelAreas := ⟨#[.ofBytes #[7, 8]], #[⟨0, ⟨0, 0⟩⟩, ⟨0, ⟨8, 8⟩⟩]⟩
    still.asInterleaved? g = none ∧ moving.asInterleaved? g = none ∧
      still.copyInterleaved g Count.largest 3 = .ok #[7, 8, 7, 8, 7, 8] ∧
      still.Readable g Count.largest 3 ∧ still.Flattens g Count.largest 3 #[7, 8, 7, 8, 7, 8] ∧
      moving.copyInterleaved g Count.largest 3 = .error (.frameOverflow Count.largest) ∧
      moving.FirstFault g Count.largest 3 (.frameOverflow Count.largest) := by
  intro g still moving
  have hstill : still.asInterleaved? g = none := by decide +kernel
  have hmoving : moving.asInterleaved? g = none := by decide +kernel
  have hok : still.copyInterleaved g Count.largest 3 = .ok #[7, 8, 7, 8, 7, 8] := by
    cbv
  have hfail : moving.copyInterleaved g Count.largest 3 =
      .error (.frameOverflow Count.largest) := by cbv
  obtain ⟨hiff, hflattens, -⟩ :=
    copyInterleaved_strided hstill (by decide +kernel) Count.largest 3
  obtain ⟨-, -, hanswers⟩ := copyInterleaved_strided hmoving (by decide +kernel) Count.largest 3
  obtain ⟨-, hfault⟩ := hanswers (by decide +kernel) (by decide +kernel)
  obtain ⟨-, -, hreadable⟩ := hiff.mp ⟨_, hok⟩
  exact ⟨hstill, hmoving, hok, hreadable, hflattens _ hok, hfail, hfault _ hfail rfl⟩

/-- A copy of two short buffers that is to yield more bytes than there is room for does not fail
with what is wrong with their samples. -/
theorem not_forall_firstFault : ¬ ∀ (a : ChannelAreas) (g : FrameGeometry) (offset frames : Nat)
    (fault : AreaError), a.asInterleaved? g = none →
    (∀ area ∈ a.areas, (a.memory area).size < 2 ^ 63) → a.areas.size = g.channelCount →
    frames * g.frameBytes < Count.limit → a.copyInterleaved g offset frames = .error fault →
      a.FirstFault g offset frames fault := by
  intro h
  have hfault : (planar #[#[1, 2], #[3, 4]] ⟨2, .u8⟩).FirstFault ⟨2, .u8⟩ 0 0x4000000000000000
      .capacityOverflow :=
    h _ _ _ _ _ (by decide +kernel) (by decide +kernel) rfl (by decide) rfl
  exact absurd hfault.isAnswer Bool.false_ne_true

end ChannelAreas

end FrameTee
