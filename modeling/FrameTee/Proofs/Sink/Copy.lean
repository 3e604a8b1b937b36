import FrameTee.Proofs.Sink.View

/-!
# Copies behind a sink

`SinkState.Copied` says that from some byte on the sink holds the bytes of a stream, and that it is
unchanged before them and past the highest byte that was ever reached. Writing at any byte that is
held, or right behind them, keeps this as long as what is written are bytes of the stream.

`SinkState.Follows` says so in frames, for a sink that stands at a frame of the stream: it moves on
with frames that are copied (`SinkState.Follows.append`) and back over frames that are taken back
(`SinkState.Follows.back`).
-/

namespace FrameTee.SinkState

variable {c₀ : Bytes} {p₀ : Nat} {byte : Nat → UInt8} {held peak : Nat} {st : SinkState}

/-- From `p₀` on the sink holds the first `held` bytes of a stream. Before `p₀`, and from `peak`
bytes behind it on, it holds what was in `c₀`. -/
structure Copied (c₀ : Bytes) (p₀ : Nat) (byte : Nat → UInt8) (held peak : Nat) (st : SinkState) :
    Prop where
  /-- No more bytes are held than were ever reached. -/
  held_le : held ≤ peak
  /-- The bytes of the stream. -/
  inside : ∀ j < held, st.contents[p₀ + j]? = some (byte j)
  /-- The bytes before them. -/
  before : ∀ i < p₀, st.contents[i]? = c₀[i]?
  /-- The bytes that were never reached. -/
  beyond : ∀ i, p₀ + peak ≤ i → st.contents[i]? = c₀[i]?

namespace Copied

theorem start (c₀ : Bytes) (p₀ : Nat) (byte : Nat → UInt8) : Copied c₀ p₀ byte 0 0 ⟨c₀, p₀⟩ :=
  ⟨Nat.le_refl _, fun _ hj => absurd hj (Nat.not_lt_zero _), fun _ _ => rfl, fun _ _ => rfl⟩

/-- Moving back changes no byte. -/
theorem back (h : Copied c₀ p₀ byte held peak st) (distance : Nat) :
    Copied c₀ p₀ byte held peak (st.back distance) :=
  ⟨h.held_le, h.inside, h.before, h.beyond⟩

/-- The stream may be taken to be shorter, to be another one that starts the same, and to have
reached farther. -/
theorem mono (h : Copied c₀ p₀ byte held peak st) {byte' : Nat → UInt8} {held' peak' : Nat}
    (hheld : held' ≤ held) (hpeak : peak ≤ peak') (hbyte : ∀ j < held', byte j = byte' j) :
    Copied c₀ p₀ byte' held' peak' st := by
  have hle := h.held_le
  refine ⟨by omega, ?_, h.before, ?_⟩
  · intro j hj
    rw [h.inside j (by omega), hbyte j hj]
  · intro i hi
    exact h.beyond i (by omega)

/-- Bytes of the stream that are written where the stream has them are held afterwards. -/
theorem append (h : Copied c₀ p₀ byte held peak st) (hinside : st.Inside) {start : Nat}
    (hposition : st.position = p₀ + start) (hstart : start ≤ held) {bytes : Bytes}
    (hbytes : ∀ i < bytes.size, bytes.getD i 0 = byte (start + i)) :
    Copied c₀ p₀ byte (max held (start + bytes.size)) (max peak (start + bytes.size))
      (st.append bytes) := by
  have hle := h.held_le
  constructor
  · omega
  · intro j hj
    rw [getElem?_append hinside, hposition]
    by_cases hnew : p₀ + start ≤ p₀ + j ∧ p₀ + j < p₀ + start + bytes.size
    · have hindex : p₀ + j - (p₀ + start) = j - start := by omega
      have hj' : start + (j - start) = j := by omega
      rw [if_pos hnew, hindex, hbytes _ (by omega), hj']
    · rw [if_neg hnew]
      exact h.inside j (by omega)
  · intro i hi
    rw [getElem?_append hinside, if_neg (by omega)]
    exact h.before i hi
  · intro i hi
    rw [getElem?_append hinside, if_neg (by omega)]
    exact h.beyond i (by omega)

/-- The bytes that are held, as a whole. -/
theorem extract_eq {bytes : Bytes} (h : Copied c₀ p₀ (bytes.getD · 0) held peak st)
    (hheld : held ≤ bytes.size) : st.contents.extract p₀ (p₀ + held) = bytes.extract 0 held := by
  have hsize : 0 < held → p₀ + held ≤ st.contents.size := by
    intro hpos
    have hlast := h.inside (held - 1) (by omega)
    obtain ⟨hlt, -⟩ := Array.getElem?_eq_some_iff.mp hlast
    omega
  apply Array.ext_getElem?
  intro j
  rw [Array.getElem?_extract, Array.getElem?_extract, Nat.sub_zero, Nat.min_eq_left hheld,
    Nat.zero_add]
  by_cases hj : j < held
  · rw [if_pos (by omega), if_pos hj, h.inside j hj, Bytes.getElem?_eq_some_getD (by omega)]
  · rw [if_neg (by omega), if_neg hj]

end Copied

variable {frameBytes position n : Nat}

/-- A sink with a copy of `held` frames stands at frame `position` of the stream, having been at
frame `peak` at most. -/
structure Follows (c₀ : Bytes) (p₀ frameBytes : Nat) (byte : Nat → UInt8) (held position peak : Nat)
    (st : SinkState) : Prop where
  /-- The sink was never farther than at the highest frame. -/
  position_le : position ≤ peak
  /-- The sink stands where the stream does. -/
  position_eq : st.position = p₀ + position * frameBytes
  /-- The copy. -/
  copied : st.Copied c₀ p₀ byte (held * frameBytes) (peak * frameBytes)

namespace Follows

theorem start (c₀ : Bytes) (p₀ frameBytes : Nat) (byte : Nat → UInt8) :
    Follows c₀ p₀ frameBytes byte 0 0 0 ⟨c₀, p₀⟩ := by
  constructor
  · exact Nat.le_refl 0
  · rw [Nat.zero_mul]
    rfl
  · rw [Nat.zero_mul]
    exact .start c₀ p₀ byte

/-- The stream may be taken to be another one that starts the same. -/
theorem congr (h : Follows c₀ p₀ frameBytes byte held position peak st) {byte' : Nat → UInt8}
    (hbyte : ∀ j < held * frameBytes, byte j = byte' j) :
    Follows c₀ p₀ frameBytes byte' held position peak st :=
  ⟨h.position_le, h.position_eq, h.copied.mono (Nat.le_refl _) (Nat.le_refl _) hbyte⟩

/-- Frames of the stream that are copied where the stream stands. -/
theorem append (h : Follows c₀ p₀ frameBytes byte held position peak st) (hinside : st.Inside)
    (hposition : position ≤ held) {bytes : Bytes} (hsize : bytes.size = n * frameBytes)
    (hbytes : ∀ i < bytes.size, bytes.getD i 0 = byte (position * frameBytes + i)) :
    Follows c₀ p₀ frameBytes byte (max held (position + n)) (position + n)
      (max peak (position + n)) (st.append bytes) := by
  have hcopied := h.copied.append hinside h.position_eq
    (Nat.mul_le_mul_right frameBytes hposition) hbytes
  rw [hsize, ← Nat.add_mul, Nat.mul_max_mul_right, Nat.mul_max_mul_right] at hcopied
  constructor
  · exact Nat.le_max_right _ _
  · rw [position_append, h.position_eq, hsize, Nat.add_mul, Nat.add_assoc]
  · exact hcopied

/-- Frames that are taken back need not be held any longer. -/
theorem back (h : Follows c₀ p₀ frameBytes byte held position peak st) (hn : n ≤ position)
    {held' : Nat} (hheld : held' ≤ held) :
    Follows c₀ p₀ frameBytes byte held' (position - n) peak (st.back (n * frameBytes)) := by
  have hback : n * frameBytes ≤ position * frameBytes := Nat.mul_le_mul_right _ hn
  constructor
  · exact Nat.le_trans (Nat.sub_le _ _) h.position_le
  · change st.position - n * frameBytes = _
    rw [h.position_eq, Nat.sub_mul, Nat.add_sub_assoc hback]
  · exact (h.copied.back _).mono (Nat.mul_le_mul_right _ hheld) (Nat.le_refl _) fun _ _ => rfl

end Follows

end FrameTee.SinkState
