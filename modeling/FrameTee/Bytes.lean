/-!
# Byte sequences

Buffers, rings and files are flat sequences of bytes. Reading a range either yields exactly that
range or nothing; `blit` copies bytes over existing ones and never changes the length, and
`overwriteAt` is what a file does with a write at a position, growing the sequence when the write
ends past it.
-/

namespace FrameTee

/-- A flat sequence of bytes. -/
abbrev Bytes := Array UInt8

namespace Bytes

/-- The most bytes that a sequence has room for. -/
def maxSize : Nat := 0x7fffffffffffffff

/-- A sequence of `count` zero bytes. -/
def zeros (count : Nat) : Bytes :=
  Array.replicate count 0

/-- The bytes from `start` up to `stop`, if the sequence reaches that far. -/
def slice? (data : Bytes) (start stop : Nat) : Option Bytes :=
  if start ≤ stop ∧ stop ≤ data.size then some (data.extract start stop) else none

/-- Copies `count` bytes of `src` from index `origin` on over the bytes of `dst` from index `start`
on. Positions outside `dst` are left out. -/
def blit (src : Bytes) (origin : Nat) (dst : Bytes) (start : Nat) : (count : Nat) → Bytes
  | 0 => dst
  | count + 1 =>
    blit src (origin + 1) (dst.setIfInBounds start (src.getD origin 0)) (start + 1) count

/-- Writes `src` over `data` from `position` on. A gap before `position` is filled with zeros. -/
def overwriteAt (data : Bytes) (position : Nat) (src : Bytes) : Bytes :=
  blit src 0 (data ++ zeros (position + src.size - data.size)) position src.size

@[simp] theorem size_blit (src : Bytes) (origin : Nat) (dst : Bytes) (start count : Nat) :
    (blit src origin dst start count).size = dst.size := by
  induction count generalizing origin dst start with
  | zero => rfl
  | succ count ih => simp [blit, ih]

/-- A blit replaces exactly the bytes of its range. -/
theorem getElem?_blit (src : Bytes) (origin : Nat) (dst : Bytes) (start count i : Nat) :
    (blit src origin dst start count)[i]? =
      if start ≤ i ∧ i < start + count ∧ i < dst.size then
        some (src.getD (origin + (i - start)) 0)
      else dst[i]? := by
  induction count generalizing origin dst start with
  | zero =>
    have hnot : ¬ (start ≤ i ∧ i < start + 0 ∧ i < dst.size) := by omega
    rw [if_neg hnot, blit]
  | succ count ih =>
    rw [blit, ih, Array.size_setIfInBounds, Array.getElem?_setIfInBounds]
    by_cases heq : start = i
    · subst heq
      have hnot : ¬ (start + 1 ≤ start ∧ start < start + 1 + count ∧ start < dst.size) := by omega
      rw [if_neg hnot, if_pos rfl]
      by_cases hi : start < dst.size
      · have hin : start ≤ start ∧ start < start + (count + 1) ∧ start < dst.size := by omega
        rw [if_pos hi, if_pos hin, Nat.sub_self, Nat.add_zero]
      · have hout : ¬ (start ≤ start ∧ start < start + (count + 1) ∧ start < dst.size) := by omega
        rw [if_neg hi, if_neg hout, Array.getElem?_eq_none (Nat.not_lt.mp hi)]
    · by_cases hin : start + 1 ≤ i ∧ i < start + 1 + count ∧ i < dst.size
      · have hin' : start ≤ i ∧ i < start + (count + 1) ∧ i < dst.size := by omega
        have hoff : origin + 1 + (i - (start + 1)) = origin + (i - start) := by omega
        rw [if_pos hin, if_pos hin', hoff]
      · have hin' : ¬ (start ≤ i ∧ i < start + (count + 1) ∧ i < dst.size) := by omega
        rw [if_neg hin, if_neg hin', if_neg heq]

@[simp] theorem size_overwriteAt (data : Bytes) (position : Nat) (src : Bytes) :
    (overwriteAt data position src).size = max data.size (position + src.size) := by
  simp only [overwriteAt, size_blit, Array.size_append, zeros, Array.size_replicate]
  omega

end Bytes

end FrameTee
