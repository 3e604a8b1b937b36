import FrameTee.Bytes
import Std.Data.ExtTreeMap

/-!
# Memory

Memory is what a ring lies in: a fixed number of bytes, each of which can be read and stored. It is
kept as the bytes it began with, zeros beyond them, and the bytes stored since. So a ring costs what
is stored in it and not what it could hold.

`Memory.get` is the view: every operation is described by what it does to the bytes that `get`
reads, and none changes the size.
-/

namespace FrameTee

/-- A fixed number of bytes that can be stored into. -/
structure Memory where
  /-- Number of bytes. -/
  size : Nat
  /-- The bytes it began with; zeros follow them. -/
  initial : Bytes
  /-- The bytes stored since. -/
  stored : Std.ExtTreeMap Nat UInt8
  deriving DecidableEq

namespace Memory

/-- Memory that holds given bytes. -/
def ofBytes (data : Bytes) : Memory := ⟨data.size, data, ∅⟩

/-- Memory of `size` zeros. -/
def zeros (size : Nat) : Memory := ⟨size, #[], ∅⟩

variable (m : Memory)

/-- The byte at an address. -/
def get (i : Nat) : UInt8 :=
  m.stored.getD i (m.initial.getD i 0)

/-- Stores a byte. An address outside the memory is left out. -/
def set (i : Nat) (value : UInt8) : Memory :=
  if i < m.size then { m with stored := m.stored.insert i value } else m

/-- The bytes from `start` up to `stop`. -/
def extract (start stop : Nat) : Bytes :=
  Array.ofFn fun i : Fin (stop - start) => m.get (start + i)

/-- The bytes from `start` up to `stop`, if the memory reaches that far. -/
def slice? (start stop : Nat) : Option Bytes :=
  if start ≤ stop ∧ stop ≤ m.size then some (m.extract start stop) else none

/-- All bytes. -/
def toBytes : Bytes :=
  m.extract 0 m.size

/-- Copies `count` bytes of `src` from index `origin` on to the addresses from `start` on. Addresses
outside the memory are left out. -/
def blit (src : Bytes) (origin : Nat) (m : Memory) (start : Nat) : (count : Nat) → Memory
  | 0 => m
  | count + 1 => blit src (origin + 1) (m.set start (src.getD origin 0)) (start + 1) count

@[simp] theorem size_ofBytes (data : Bytes) : (ofBytes data).size = data.size := rfl

@[simp] theorem get_ofBytes (data : Bytes) (i : Nat) : (ofBytes data).get i = data.getD i 0 := by
  simp [get, ofBytes]

@[simp] theorem size_zeros (size : Nat) : (zeros size).size = size := rfl

@[simp] theorem get_zeros (size i : Nat) : (zeros size).get i = 0 := by
  simp [get, zeros]

@[simp] theorem size_set (i : Nat) (value : UInt8) : (m.set i value).size = m.size := by
  unfold set
  split <;> rfl

theorem get_set (i j : Nat) (value : UInt8) :
    (m.set i value).get j = if i = j ∧ i < m.size then value else m.get j := by
  unfold set get
  split
  · rename_i hi
    simp only [Std.ExtTreeMap.getD_insert, Nat.compare_eq_eq, hi, and_true]
  · rename_i hi
    simp [hi]

@[simp] theorem size_blit (src : Bytes) (origin start count : Nat) :
    (blit src origin m start count).size = m.size := by
  induction count generalizing origin m start with
  | zero => rfl
  | succ count ih => simp [blit, ih]

/-- A blit replaces exactly the bytes of its range. -/
theorem get_blit (src : Bytes) (origin start count i : Nat) :
    (blit src origin m start count).get i =
      if start ≤ i ∧ i < start + count ∧ i < m.size then src.getD (origin + (i - start)) 0
      else m.get i := by
  induction count generalizing origin m start with
  | zero =>
    have hnot : ¬ (start ≤ i ∧ i < start + 0 ∧ i < m.size) := by omega
    rw [if_neg hnot, blit]
  | succ count ih =>
    rw [blit, ih, size_set, get_set]
    by_cases heq : start = i
    · subst heq
      have hnot : ¬ (start + 1 ≤ start ∧ start < start + 1 + count ∧ start < m.size) := by omega
      rw [if_neg hnot]
      by_cases hi : start < m.size
      · rw [if_pos ⟨rfl, hi⟩, if_pos (by omega), Nat.sub_self, Nat.add_zero]
      · rw [if_neg (by omega), if_neg (by omega)]
    · have hother : ¬ (start = i ∧ start < m.size) := fun h => heq h.1
      rw [if_neg hother]
      by_cases hin : start + 1 ≤ i ∧ i < start + 1 + count ∧ i < m.size
      · have hoff : origin + 1 + (i - (start + 1)) = origin + (i - start) := by omega
        rw [if_pos hin, if_pos (by omega), hoff]
      · rw [if_neg hin, if_neg (by omega)]

@[simp] theorem size_extract (start stop : Nat) : (m.extract start stop).size = stop - start := by
  simp [extract]

/-- The bytes that can be read are all there is to the bytes of a memory. -/
theorem toBytes_congr {m m' : Memory} (hsize : m'.size = m.size)
    (h : ∀ i < m.size, m'.get i = m.get i) : m'.toBytes = m.toBytes := by
  rw [toBytes, toBytes, hsize, extract, extract]
  congr 1
  funext i
  exact h _ (by have := i.isLt; omega)

@[simp] theorem toBytes_ofBytes (data : Bytes) : (ofBytes data).toBytes = data := by
  apply Array.ext
  · simp [toBytes]
  · intro i _ _
    simp [toBytes, extract]

end Memory

end FrameTee
