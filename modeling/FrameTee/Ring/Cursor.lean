/-!
# Positions in a ring

A ring of `capacity` frames is walked by a cursor whose offset stays below the capacity and returns
to the first frame exactly when it reaches the end. `RingCursor.split` breaks a run of frames into
contiguous spans, `RingSpans.next?` yields them one by one and `RingSpans.toList` lists them all;
`RingSpans.walk` visits them in order and stops at the first failure (`RingSpans.walk_eq_visitAll`).
An empty ring has no spans.

`RingCursor.frameAt` is the view that the rest is measured against: the ring position of the `i`-th
frame after a cursor.
-/

namespace FrameTee

/-- A contiguous run of frames inside a ring. -/
structure RingSpan where
  /-- First frame of the run. -/
  offset : Nat
  /-- Length of the run. -/
  frames : Nat
  deriving DecidableEq, Repr

/-- A position in a ring of `capacity` frames. -/
structure RingCursor where
  /-- Frames in the ring. -/
  capacity : Nat
  /-- Frame at which the cursor stands. -/
  offset : Nat
  /-- The cursor stands inside the ring. -/
  offset_lt : 0 < capacity → offset < capacity
  deriving DecidableEq

namespace RingCursor

/-- The cursor at the first frame of a ring. -/
def start (capacity : Nat) : RingCursor :=
  ⟨capacity, 0, id⟩

/-- The cursor for a position in an endless stream of frames that runs round the ring. -/
def ofPosition (position capacity : Nat) : RingCursor where
  capacity := capacity
  offset := if capacity = 0 then 0 else position % capacity
  offset_lt := by
    intro hpos
    rw [if_neg (Nat.pos_iff_ne_zero.mp hpos)]
    exact Nat.mod_lt _ hpos

/-- The cursor `frames` frames further on. -/
def advance (c : RingCursor) (frames : Nat) : RingCursor :=
  if c.capacity = 0 then c
  else
    { capacity := c.capacity
      offset := (c.offset + frames % c.capacity) % c.capacity
      offset_lt := fun hpos => Nat.mod_lt _ hpos }

/-- The ring position of the `i`-th frame after the cursor. -/
def frameAt (c : RingCursor) (i : Nat) : Nat :=
  (c.offset + i) % c.capacity

@[simp] theorem capacity_ofPosition (position capacity : Nat) :
    (ofPosition position capacity).capacity = capacity := rfl

theorem offset_ofPosition (position : Nat) {capacity : Nat} (hpos : 0 < capacity) :
    (ofPosition position capacity).offset = position % capacity :=
  if_neg (Nat.pos_iff_ne_zero.mp hpos)

@[simp] theorem capacity_advance (c : RingCursor) (frames : Nat) :
    (c.advance frames).capacity = c.capacity := by
  unfold advance
  split <;> rfl

theorem offset_advance (c : RingCursor) (frames : Nat) (hpos : 0 < c.capacity) :
    (c.advance frames).offset = c.frameAt frames := by
  unfold advance frameAt
  rw [if_neg (Nat.pos_iff_ne_zero.mp hpos)]
  simp [Nat.add_mod]

end RingCursor

/-- What is left of a split: where the next span starts and how many frames remain. -/
structure RingSpans where
  /-- Start of the next span. -/
  cursor : RingCursor
  /-- Frames not yet covered. -/
  remaining : Nat
  deriving DecidableEq

namespace RingSpans

/-- The next span and what is left after it. A span ends with the frames or at the end of the
ring. -/
def next? (s : RingSpans) : Option (RingSpan × RingSpans) :=
  if s.remaining = 0 ∨ s.cursor.capacity = 0 then none
  else
    let frames := min s.remaining (s.cursor.capacity - s.cursor.offset)
    some (⟨s.cursor.offset, frames⟩, ⟨s.cursor.advance frames, s.remaining - frames⟩)

/-- Every span covers at least one frame, so a split comes to an end. -/
theorem remaining_lt_of_next? {s rest : RingSpans} {span : RingSpan}
    (h : s.next? = some (span, rest)) : rest.remaining < s.remaining := by
  unfold next? at h
  split at h
  · cases h
  · cases h
    have := s.cursor.offset_lt (by omega)
    simp only
    omega

/-- The first spans, at most `limit` of them, and what is left after them. -/
def take : (limit : Nat) → RingSpans → List RingSpan × RingSpans
  | 0, s => ([], s)
  | limit + 1, s =>
    match s.next? with
    | none => ([], s)
    | some (span, rest) =>
      let (spans, left) := take limit rest
      (span :: spans, left)

/-- All spans in order. -/
def toList (s : RingSpans) : List RingSpan :=
  match h : s.next? with
  | none => []
  | some (span, rest) =>
    have := remaining_lt_of_next? h
    span :: rest.toList
termination_by s.remaining

/-- Visits the spans in order, carrying a state along, until one of the visits fails. The state is
kept also when it fails. -/
def walk {σ ε : Type} (visit : RingSpan → σ → Except ε Unit × σ) (s : RingSpans) (state : σ) :
    Except ε Unit × σ :=
  match h : s.next? with
  | none => (.ok (), state)
  | some (span, rest) =>
    have := remaining_lt_of_next? h
    match visit span state with
    | (.error e, state) => (.error e, state)
    | (.ok (), state) => rest.walk visit state
termination_by s.remaining

/-- Visits a list of spans in order until one of the visits fails. -/
def visitAll {σ ε : Type} (visit : RingSpan → σ → Except ε Unit × σ) :
    List RingSpan → σ → Except ε Unit × σ
  | [], state => (.ok (), state)
  | span :: spans, state =>
    match visit span state with
    | (.error e, state) => (.error e, state)
    | (.ok (), state) => visitAll visit spans state

theorem toList_eq_nil {s : RingSpans} (h : s.next? = none) : s.toList = [] := by
  rw [toList]
  split
  · rfl
  · simp_all

theorem toList_eq_cons {s rest : RingSpans} {span : RingSpan} (h : s.next? = some (span, rest)) :
    s.toList = span :: rest.toList := by
  rw [toList]
  split
  · simp_all
  · simp_all

/-- A walk visits exactly the listed spans. It makes no list, so it can stop early in a split of any
length. -/
theorem walk_eq_visitAll {σ ε : Type} (visit : RingSpan → σ → Except ε Unit × σ) (s : RingSpans)
    (state : σ) : s.walk visit state = visitAll visit s.toList state := by
  fun_induction walk visit s state with
  | case1 s state h => rw [toList_eq_nil h, visitAll]
  | case2 s state span rest h _ state' e hvisit => rw [toList_eq_cons h, visitAll, hvisit]
  | case3 s state span rest h _ state' hvisit ih => rw [toList_eq_cons h, visitAll, hvisit, ih]

end RingSpans

/-- Breaks `frames` frames from the cursor on into contiguous spans. -/
def RingCursor.split (c : RingCursor) (frames : Nat) : RingSpans :=
  ⟨c, frames⟩

end FrameTee
