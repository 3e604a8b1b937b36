import FrameTee.Area.Error
import FrameTee.Frame.Geometry

/-!
# Layout of one channel

The samples of one channel sit at equal distances in a buffer. `AreaLayout` gives the place of the
first one and the distance, both in bits; `AreaLayout.interleaved` and `AreaLayout.planar` are the
two common ways to lay out a whole buffer. `AreaLayout.address` is the byte at which the sample of a
frame starts, and `AreaLayout.sampleStart` is that address together with the checks that make it
safe to use.
-/

namespace FrameTee

/-- Where the samples of one channel are, in bits. -/
structure AreaLayout where
  /-- Place of the first sample. -/
  firstBit : Nat
  /-- Distance between the samples of consecutive frames. -/
  stepBits : Nat
  deriving DecidableEq, Repr

namespace AreaLayout

/-- The layout of a channel when the samples of each frame follow one another. -/
def interleaved (channel : Nat) (g : FrameGeometry) : AreaLayout :=
  ⟨channel * g.bitsPerSample, g.bitsPerFrame⟩

/-- The layout of a channel when each channel has a block of `frames` samples of its own. -/
def planar (channel frames : Nat) (g : FrameGeometry) : AreaLayout :=
  ⟨channel * frames * g.bitsPerSample, g.bitsPerSample⟩

/-- Whether every sample starts at a whole byte. -/
def Aligned (layout : AreaLayout) : Prop :=
  layout.firstBit % 8 = 0 ∧ layout.stepBits % 8 = 0

instance (layout : AreaLayout) : Decidable layout.Aligned :=
  inferInstanceAs (Decidable (_ ∧ _))

/-- The byte at which the sample of a frame starts. -/
def address (layout : AreaLayout) (frame : Nat) : Nat :=
  frame * (layout.stepBits / 8) + layout.firstBit / 8

/-- The address of a sample of `channel`, if the layout is aligned and the address is a count. -/
def byteOffset (layout : AreaLayout) (channel frame : Nat) : Except AreaError Nat :=
  if layout.Aligned then
    match Count.mul? frame (layout.stepBits / 8) >>= (Count.add? · (layout.firstBit / 8)) with
    | some start => .ok start
    | none => .error (.frameOverflow frame)
  else .error (.unaligned channel layout.firstBit layout.stepBits)

/-- The address of a sample of `width` bytes that lies inside `length` bytes of memory. -/
def sampleStart (layout : AreaLayout) (channel frame width length : Nat) :
    Except AreaError Nat :=
  match layout.byteOffset channel frame with
  | .error e => .error e
  | .ok start =>
    match Count.add? start width with
    | some stop =>
      if stop ≤ length then .ok start else .error (.outOfBounds channel frame length)
    | none => .error (.outOfBounds channel frame length)

theorem byteOffset_eq_ok_iff {layout : AreaLayout} {channel frame start : Nat} :
    layout.byteOffset channel frame = .ok start ↔
      layout.Aligned ∧ layout.address frame = start ∧ start < Count.limit := by
  unfold byteOffset
  split
  · rename_i haligned
    by_cases hmul : frame * (layout.stepBits / 8) < Count.limit
    · by_cases hadd : layout.address frame < Count.limit
      · simp only [Count.mul?, hmul, if_true, Option.bind_eq_bind, Option.bind_some, Count.add?]
        rw [if_pos (by simpa [address] using hadd)]
        simp only [Except.ok.injEq, haligned, true_and]
        constructor
        · rintro rfl
          exact ⟨rfl, hadd⟩
        · rintro ⟨rfl, -⟩
          rfl
      · simp only [Count.mul?, hmul, if_true, Option.bind_eq_bind, Option.bind_some, Count.add?]
        rw [if_neg (by simpa [address] using hadd)]
        simp only [reduceCtorEq, haligned, true_and, false_iff]
        rintro ⟨rfl, h⟩
        exact hadd h
    · simp only [Count.mul?, hmul, if_false, Option.bind_eq_bind, Option.bind_none]
      simp only [reduceCtorEq, haligned, true_and, false_iff]
      rintro ⟨rfl, h⟩
      unfold address at h
      omega
  · rename_i haligned
    simp [haligned]

/-- A sample can be used exactly when it is aligned and ends inside the memory. -/
theorem sampleStart_eq_ok_iff {layout : AreaLayout} {channel frame width length start : Nat} :
    layout.sampleStart channel frame width length = .ok start ↔
      layout.Aligned ∧ layout.address frame = start ∧ start < Count.limit ∧
        start + width < Count.limit ∧ start + width ≤ length := by
  unfold sampleStart
  cases hoff : layout.byteOffset channel frame with
  | error e =>
    simp only [reduceCtorEq, false_iff]
    rintro ⟨haligned, haddr, hlt, -⟩
    rw [byteOffset_eq_ok_iff.mpr ⟨haligned, haddr, hlt⟩] at hoff
    cases hoff
  | ok found =>
    obtain ⟨haligned, haddr, hlt⟩ := byteOffset_eq_ok_iff.mp hoff
    subst haddr
    by_cases hadd : layout.address frame + width < Count.limit
    · by_cases hle : layout.address frame + width ≤ length
      · simp only [Count.add?, hadd, hle, if_true, Except.ok.injEq, haligned, true_and]
        constructor
        · rintro rfl
          exact ⟨rfl, hlt, hadd, hle⟩
        · rintro ⟨rfl, -⟩
          rfl
      · simp only [Count.add?, hadd, hle, if_true, if_false, reduceCtorEq, false_iff]
        rintro ⟨-, rfl, -, -, h⟩
        exact hle h
    · simp only [Count.add?, hadd, if_false, reduceCtorEq, false_iff]
      rintro ⟨-, rfl, -, h, -⟩
      exact hadd h

end AreaLayout

end FrameTee
