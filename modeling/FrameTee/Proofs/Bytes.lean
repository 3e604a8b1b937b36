import FrameTee.Bytes

/-!
# Bytes read back

What is read from a part of a sequence, and from a sequence after bytes have been written over it.
-/

namespace FrameTee.Bytes

theorem getElem?_eq_some_getD {data : Bytes} {i : Nat} (hi : i < data.size) :
    data[i]? = some (data.getD i 0) := by
  rw [Array.getD_eq_getD_getElem?, Array.getElem?_eq_getElem hi, Option.getD_some]

theorem getD_extract {data : Bytes} {start stop i : Nat} (hi : start + i < stop)
    (hstop : stop ≤ data.size) : (data.extract start stop).getD i 0 = data.getD (start + i) 0 := by
  have hlt : i < min stop data.size - start := by omega
  simp only [Array.getD_eq_getD_getElem?, Array.getElem?_extract, if_pos hlt]

theorem getD_append_left {a : Bytes} (b : Bytes) {i : Nat} (hi : i < a.size) :
    (a ++ b).getD i 0 = a.getD i 0 := by
  simp only [Array.getD_eq_getD_getElem?, Array.getElem?_append_left hi]

theorem getD_append_right (a b : Bytes) (i : Nat) : (a ++ b).getD (a.size + i) 0 = b.getD i 0 := by
  have hle : a.size ≤ a.size + i := Nat.le_add_right _ _
  simp only [Array.getD_eq_getD_getElem?, Array.getElem?_append_right hle, Nat.add_sub_cancel_left]

/-- Two sequences of one size are equal when they agree in every byte. -/
theorem ext_getD {a b : Bytes} (hsize : a.size = b.size)
    (h : ∀ i < a.size, a.getD i 0 = b.getD i 0) : a = b := by
  apply Array.ext hsize
  intro i ha hb
  have hi := h i ha
  simpa [ha, hb] using hi

/-- Bytes that are copied to the start of a sequence can be read back there. -/
theorem extract_blit (src dst : Bytes) (hsize : src.size ≤ dst.size) :
    (blit src 0 dst 0 src.size).extract 0 src.size = src := by
  apply Array.ext_getElem?
  intro i
  rw [Array.getElem?_extract, size_blit, Nat.min_eq_left hsize, Nat.sub_zero]
  split
  · rename_i hi
    rw [Nat.zero_add, getElem?_blit, if_pos (by omega), Nat.zero_add, Nat.sub_zero,
      getElem?_eq_some_getD hi]
  · rename_i hi
    exact (Array.getElem?_eq_none (Nat.not_lt.mp hi)).symm

/-- Wherever a write starts, it replaces its own range; a byte that there was not counts as zero. -/
theorem getD_overwriteAt (data : Bytes) (position : Nat) (src : Bytes) (i : Nat) :
    (overwriteAt data position src).getD i 0 =
      if position ≤ i ∧ i < position + src.size then src.getD (i - position) 0
      else data.getD i 0 := by
  have hlength : (data ++ zeros (position + src.size - data.size)).size =
      max data.size (position + src.size) := by
    simp only [Array.size_append, zeros, Array.size_replicate]
    omega
  simp only [Array.getD_eq_getD_getElem?]
  rw [overwriteAt, getElem?_blit, hlength]
  by_cases hin : position ≤ i ∧ i < position + src.size
  · rw [if_pos hin, if_pos (by omega), Nat.zero_add]
    simp only [Array.getD_eq_getD_getElem?, Option.getD_some]
  · rw [if_neg hin, if_neg (by omega), Array.getElem?_append]
    split
    · rfl
    · rename_i hlt
      rw [Array.getElem?_eq_none (Nat.not_lt.mp hlt), zeros, Array.getElem?_replicate]
      split <;> rfl

/-- A write that starts inside a sequence or at its end replaces its own range and nothing else. -/
theorem getElem?_overwriteAt {data : Bytes} {position : Nat} (src : Bytes)
    (hposition : position ≤ data.size) (i : Nat) :
    (overwriteAt data position src)[i]? =
      if position ≤ i ∧ i < position + src.size then some (src.getD (i - position) 0)
      else data[i]? := by
  have hsize := size_overwriteAt data position src
  by_cases hi : i < (overwriteAt data position src).size
  · rw [getElem?_eq_some_getD hi, getD_overwriteAt]
    by_cases hin : position ≤ i ∧ i < position + src.size
    · rw [if_pos hin, if_pos hin]
    · rw [if_neg hin, if_neg hin, getElem?_eq_some_getD (by omega)]
  · rw [Array.getElem?_eq_none (Nat.not_lt.mp hi), if_neg (by omega),
      Array.getElem?_eq_none (by omega)]

end FrameTee.Bytes
