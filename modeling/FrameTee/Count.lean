/-!
# Counts

Frames, bytes and bits are counted by natural numbers. A count that has to fit in a machine word
stays below `Count.limit`; `Count.add?` and `Count.mul?` refuse a result that does not, and
`Count.addSat` stops at the largest count instead. `Count.sub?` refuses a difference: a count has no
predecessor below zero. A checked operation that is not refused gives the plain number.
-/

namespace FrameTee.Count

/-- One more than the largest count: sixty-four bits are enough for every count. -/
def limit : Nat := 0x10000000000000000

/-- The largest count. -/
def largest : Nat := limit - 1

/-- The sum of two counts, if it is a count. -/
def add? (a b : Nat) : Option Nat :=
  if a + b < limit then some (a + b) else none

/-- The product of two counts, if it is a count. -/
def mul? (a b : Nat) : Option Nat :=
  if a * b < limit then some (a * b) else none

/-- The difference of two counts, if it is a count. -/
def sub? (a b : Nat) : Option Nat :=
  if b ≤ a then some (a - b) else none

/-- The sum of two counts, or the largest count if the sum is none. -/
def addSat (a b : Nat) : Nat :=
  min (a + b) largest

variable {a b c : Nat}

theorem sub?_eq_some (h : b ≤ a) : sub? a b = some (a - b) :=
  if_pos h

theorem add?_eq_some (h : a + b < limit) : add? a b = some (a + b) :=
  if_pos h

theorem mul?_eq_some (h : a * b < limit) : mul? a b = some (a * b) :=
  if_pos h

theorem add?_eq_some_iff : add? a b = some c ↔ a + b = c ∧ c < limit := by
  unfold add?
  constructor
  · intro h
    split at h
    · cases h
      exact ⟨rfl, by assumption⟩
    · cases h
  · rintro ⟨rfl, h⟩
    exact if_pos h

theorem mul?_eq_some_iff : mul? a b = some c ↔ a * b = c ∧ c < limit := by
  unfold mul?
  constructor
  · intro h
    split at h
    · cases h
      exact ⟨rfl, by assumption⟩
    · cases h
  · rintro ⟨rfl, h⟩
    exact if_pos h

theorem addSat_eq_of_lt (h : a + b < limit) : addSat a b = a + b := by
  unfold addSat largest
  omega

end FrameTee.Count
