import FrameTee.Count
import FrameTee.Proofs.Ring.Spans
import Mathlib.Algebra.Order.Floor.Div

/-!
# Splitting a run of frames

The spans of a split list the ring positions of its frames, each once and in the order of the stream
(`RingSpans.Cuts.flatMap_positions`), and there are as many of them as rings are begun by the
frames. The walk along them ends at the cursor that stands behind the frames.

A cursor and a walk compute with counts. `RingCursor.advance?` and `RingSpans.step?` are the same
steps with every sum and every difference looked after: they have no outcome if one of them is no
count. A walk never meets such a one (`RingSpans.step?_eq_some`), since a span ends at the end of
the ring at the latest; advancing by any number of frames does not meet one if the ring has at most
half as many frames as there are counts. So a walk whose visits have an outcome has one
(`RingSpans.walk?_eq_some`).
-/

namespace FrameTee

namespace RingCursor

variable {c : RingCursor} {frames capacity : Nat}

/-- A cursor in a ring of some frames stands at the position of its own offset. -/
theorem eq_ofPosition (c : RingCursor) (hpos : 0 < c.capacity) :
    c = ofPosition c.offset c.capacity := by
  have hoffset : (ofPosition c.offset c.capacity).offset = c.offset := by
    rw [offset_ofPosition c.offset hpos, Nat.mod_eq_of_lt (c.offset_lt hpos)]
  rcases c with ⟨capacity, offset, offset_lt⟩
  simp only [ofPosition, RingCursor.mk.injEq, true_and] at hoffset ⊢
  exact hoffset.symm

/-- The cursor `frames` frames further on, if the sum on the way is a count. -/
def advance? (c : RingCursor) (frames : Nat) : Option RingCursor :=
  if c.capacity = 0 then some c
  else
    (Count.add? c.offset (frames % c.capacity)).map fun reached =>
      { capacity := c.capacity
        offset := reached % c.capacity
        offset_lt := fun hpos => Nat.mod_lt _ hpos }

theorem advance?_eq_some (h : c.offset + frames % c.capacity < Count.limit) :
    c.advance? frames = some (c.advance frames) := by
  unfold advance? advance
  split
  · rfl
  · rw [Count.add?_eq_some h, Option.map_some]

/-- In a ring of at most half as many frames as there are counts, no advance is too far. -/
theorem advance?_of_le_half (hpos : 0 < c.capacity) (hhalf : c.capacity ≤ 2 ^ 63) :
    c.advance? frames = some (c.advance frames) := by
  apply advance?_eq_some
  have hoffset := c.offset_lt hpos
  have hframes := Nat.mod_lt frames hpos
  unfold Count.limit
  omega

end RingCursor

/-- The ring positions of the frames of a span. -/
def RingSpan.positions (span : RingSpan) : List Nat :=
  List.range' span.offset span.frames

namespace RingSpans

open RingCursor

variable {s : RingSpans} {capacity : Nat}

/-- The next span and what is left after it, or that there is none, if all sums and differences on
the way are counts. -/
def step? (s : RingSpans) : Option (Option (RingSpan × RingSpans)) :=
  if s.remaining = 0 ∨ s.cursor.capacity = 0 then some none
  else do
    let contiguous ← Count.sub? s.cursor.capacity s.cursor.offset
    let frames := min s.remaining contiguous
    let cursor ← s.cursor.advance? frames
    let remaining ← Count.sub? s.remaining frames
    some (some (⟨s.cursor.offset, frames⟩, ⟨cursor, remaining⟩))

/-- A step along a ring whose size is a count meets counts only. -/
theorem step?_eq_some (h : s.cursor.capacity < Count.limit) : s.step? = some s.next? := by
  unfold step? next?
  split
  · rfl
  · have hoffset := s.cursor.offset_lt (by omega)
    -- The end of the span is the largest sum, and it lies inside the ring.
    have hreach : s.cursor.offset + min s.remaining (s.cursor.capacity - s.cursor.offset) ≤
        s.cursor.capacity := by omega
    have hmod := Nat.mod_le (min s.remaining (s.cursor.capacity - s.cursor.offset))
      s.cursor.capacity
    have hadvance : s.cursor.advance? (min s.remaining (s.cursor.capacity - s.cursor.offset)) =
        some (s.cursor.advance (min s.remaining (s.cursor.capacity - s.cursor.offset))) :=
      advance?_eq_some (by omega)
    simp only [Option.bind_eq_bind, Count.sub?_eq_some (Nat.le_of_lt hoffset), Option.bind_some,
      hadvance, Count.sub?_eq_some (Nat.min_le_left _ _)]

/-- The first spans, at most `limit` of them, and what is left after them, if all sums and
differences on the way are counts. -/
def take? : (limit : Nat) → RingSpans → Option (List RingSpan × RingSpans)
  | 0, s => some ([], s)
  | limit + 1, s =>
    match s.step? with
    | none => none
    | some none => some ([], s)
    | some (some (span, rest)) =>
      (take? limit rest).map fun (spans, left) => (span :: spans, left)

theorem capacity_of_next? {rest : RingSpans} {span : RingSpan} (h : s.next? = some (span, rest)) :
    rest.cursor.capacity = s.cursor.capacity := by
  unfold next? at h
  split at h
  · cases h
  · cases h
    exact capacity_advance _ _

theorem take?_eq_some (h : s.cursor.capacity < Count.limit) (limit : Nat) :
    s.take? limit = some (s.take limit) := by
  induction limit generalizing s with
  | zero => rfl
  | succ limit ih =>
      rw [take?, take, step?_eq_some h]
      cases hnext : s.next? with
      | none => rfl
      | some next =>
          obtain ⟨span, rest⟩ := next
          have hrest : rest.cursor.capacity < Count.limit := by rwa [capacity_of_next? hnext]
          dsimp only
          rw [ih hrest, Option.map_some]

theorem remaining_lt_of_step? {rest : RingSpans} {span : RingSpan}
    (h : s.step? = some (some (span, rest))) : rest.remaining < s.remaining := by
  unfold step? at h
  split at h
  · cases h
  · have hoffset := s.cursor.offset_lt (by omega)
    simp only [Option.bind_eq_bind, Option.bind_eq_some_iff, Count.sub?] at h
    obtain ⟨contiguous, hcontiguous, cursor, -, remaining, hremaining, hnext⟩ := h
    split at hcontiguous
    · split at hremaining
      · cases hcontiguous
        cases hremaining
        cases hnext
        dsimp only
        omega
      · cases hremaining
    · cases hcontiguous

/-- Visits the spans in order until one of the visits fails, if all sums and differences on the way
are counts and no visit is without an outcome. -/
def walk? {σ ε : Type} (visit : RingSpan → σ → Option (Except ε Unit × σ)) (s : RingSpans)
    (state : σ) : Option (Except ε Unit × σ) :=
  match h : s.step? with
  | none => none
  | some none => some (.ok (), state)
  | some (some (span, rest)) =>
    have := remaining_lt_of_step? h
    match visit span state with
    | none => none
    | some (.error e, state) => some (.error e, state)
    | some (.ok (), state) => rest.walk? visit state
termination_by s.remaining

section Walk

variable {σ ε : Type} {visit : RingSpan → σ → Except ε Unit × σ}
  {visit? : RingSpan → σ → Option (Except ε Unit × σ)}

theorem walk?_eq_of_none (hcount : s.cursor.capacity < Count.limit) (h : s.next? = none)
    (state : σ) : s.walk? visit? state = some (.ok (), state) := by
  have hstep : s.step? = some none := by rw [step?_eq_some hcount, h]
  rw [walk?]
  split
  · simp_all
  · rfl
  · simp_all

theorem walk?_eq_of_some (hcount : s.cursor.capacity < Count.limit) {rest : RingSpans}
    {span : RingSpan} (h : s.next? = some (span, rest)) (state : σ) :
    s.walk? visit? state =
      match visit? span state with
      | none => none
      | some (.error e, state) => some (.error e, state)
      | some (.ok (), state) => rest.walk? visit? state := by
  have hstep : s.step? = some (some (span, rest)) := by rw [step?_eq_some hcount, h]
  rw [walk?]
  split
  · simp_all
  · simp_all
  · rename_i hother
    obtain ⟨rfl, rfl⟩ := Prod.mk.inj (Option.some.inj (Option.some.inj (hother.symm.trans hstep)))
    rfl

/-- A walk along a ring whose size is a count has an outcome if its visits have. `P` is indexed by
the stream position that has been reached. -/
theorem walk?_eq_some {P : Nat → σ → Prop} (hpos : 0 < capacity) (hcount : capacity < Count.limit)
    (position frames : Nat) (state : σ)
    (hvisit : ∀ reached n state, position ≤ reached → 0 < n → reached + n ≤ position + frames →
      n ≤ capacity → P reached state →
      visit? ⟨reached % capacity, n⟩ state = some (visit ⟨reached % capacity, n⟩ state) ∧
        Ends (P (reached + n)) (fun _ _ => True) (visit ⟨reached % capacity, n⟩ state))
    (hstart : P position state) :
    ((ofPosition position capacity).split frames).walk? visit? state =
      some (((ofPosition position capacity).split frames).walk visit state) := by
  induction frames using Nat.strongRecOn generalizing position state with
  | ind frames ih =>
      by_cases hzero : frames = 0
      · subst hzero
        rw [walk?_eq_of_none hcount (next?_split_zero position capacity),
          walk_eq_of_none (next?_split_zero position capacity)]
      · have hframes : 0 < frames := Nat.pos_of_ne_zero hzero
        have hlt : position % capacity < capacity := Nat.mod_lt _ hpos
        rw [walk?_eq_of_some hcount (next?_split position hframes hpos),
          walk_eq_of_some (next?_split position hframes hpos)]
        generalize hn : min frames (capacity - position % capacity) = n
        obtain ⟨hfirst, hends⟩ :=
          hvisit position n state (Nat.le_refl _) (by omega) (by omega) (by omega) hstart
        rw [hfirst]
        rcases hv : visit ⟨position % capacity, n⟩ state with ⟨e | ⟨⟩, after⟩
        · rfl
        · rw [hv] at hends
          apply ih (frames - n) (by omega) (position + n) after _ hends
          intro reached k state' h₁ h₂ h₃
          exact hvisit reached k state' (by omega) h₂ (by omega)

end Walk

/-- Whoever asks for spans often enough gets all of them and comes to the cursor behind the frames,
with no frame left. -/
theorem take_split (hpos : 0 < capacity) {position frames limit : Nat}
    (hlimit : ((ofPosition position capacity).split frames).toList.length ≤ limit) :
    ((ofPosition position capacity).split frames).take limit =
      (((ofPosition position capacity).split frames).toList,
        (ofPosition (position + frames) capacity).split 0) := by
  induction limit generalizing position frames with
  | zero =>
      have hnil := List.eq_nil_of_length_eq_zero (Nat.le_zero.mp hlimit)
      by_cases hzero : frames = 0
      · rw [hnil, hzero]
        rfl
      · rw [toList_eq_cons (next?_split position (Nat.pos_of_ne_zero hzero) hpos)] at hnil
        cases hnil
  | succ limit ih =>
      rw [take]
      by_cases hzero : frames = 0
      · rw [hzero, next?_split_zero, toList_eq_nil (next?_split_zero position capacity)]
        rfl
      · have hnext := next?_split position (Nat.pos_of_ne_zero hzero) hpos
        rw [toList_eq_cons hnext, List.length_cons] at hlimit
        rw [hnext, toList_eq_cons hnext]
        dsimp only
        rw [ih (Nat.le_of_succ_le_succ hlimit)]
        have hend : position + min frames (capacity - position % capacity) +
            (frames - min frames (capacity - position % capacity)) = position + frames := by omega
        rw [hend]

namespace Cuts

variable {position frames : Nat} {spans : List RingSpan}

/-- Positions inside one ring follow one another without a break. -/
theorem positions_eq (hfits : position % capacity + frames ≤ capacity) :
    RingSpan.positions ⟨position % capacity, frames⟩ =
      (List.range frames).map fun i => (position + i) % capacity := by
  apply List.ext_getElem
  · simp [RingSpan.positions]
  · intro i hi _
    have hlt : i < frames := by simpa [RingSpan.positions] using hi
    have hinside : position % capacity + i < capacity := by omega
    simp only [RingSpan.positions, List.getElem_range', List.getElem_map, List.getElem_range,
      Nat.one_mul]
    rw [← Nat.mod_add_mod position capacity i, Nat.mod_eq_of_lt hinside]

/-- The spans list the ring positions of the frames in the order of the stream. -/
theorem flatMap_positions (h : Cuts capacity position frames spans) :
    spans.flatMap RingSpan.positions =
      (List.range frames).map fun i => (position + i) % capacity := by
  induction h with
  | none => rfl
  | last position hframes hfits =>
      rw [List.flatMap_cons, List.flatMap_nil, List.append_nil, positions_eq hfits]
  | @more position n frames spans hn hend hframes h ih =>
      rw [List.flatMap_cons, ih, positions_eq (Nat.le_of_eq hend), List.range_add, List.map_append,
        List.map_map]
      simp only [Function.comp_def, Nat.add_assoc]

/-- The last span ends where the frames end. -/
theorem end_getLast (h : Cuts capacity position frames spans) {span : RingSpan}
    (hlast : spans.getLast? = some span) :
    (span.offset + span.frames) % capacity = (position + frames) % capacity := by
  induction h with
  | none => cases hlast
  | last position hframes hfits =>
      cases hlast
      exact Nat.mod_add_mod _ _ _
  | @more position n frames spans hn hend hframes h ih =>
      obtain ⟨next, rest, rfl⟩ := List.exists_cons_of_ne_nil (h.ne_nil hframes)
      rw [List.getLast?_cons_cons] at hlast
      rw [ih hlast, Nat.add_assoc]

/-- Frames that fit in the ring pass its end at most once. -/
theorem length_le_two (h : Cuts capacity position frames spans) (hpos : 0 < capacity)
    (hfits : frames ≤ capacity) : spans.length ≤ 2 := by
  by_cases hframes : 0 < frames
  · rw [h.length_eq hframes]
    have hlt := Nat.mod_lt position hpos
    apply Nat.le_of_lt_succ
    rw [Nat.div_lt_iff_lt_mul hpos]
    omega
  · cases h with
    | none => exact Nat.zero_le 2
    | last | more => omega

end Cuts

end RingSpans

namespace RingCursor

open RingSpans

/-- A run of frames from a cursor on is split so that the spans list the ring positions of its
frames in order. Each span has frames and lies inside the ring, each but the last ends at the end of
the ring, and there are as many as rings are begun by the frames. The walk along them ends, behind
the last frame, and computes with counts throughout. In a ring of at most half as many frames as
there are counts, advancing the cursor leads to the same place, and to the cursor of the later
position of the stream. -/
theorem split_covers (c : RingCursor) (frames : Nat) (hpos : 0 < c.capacity)
    (hcapacity : c.capacity < Count.limit) :
    let split := c.split frames
    split.cursor = c ∧
      (∀ limit, split.take? limit = some (split.take limit)) ∧
      (∀ limit, split.toList.length ≤ limit →
        split.take limit = (split.toList, (c.advance frames).split 0)) ∧
      split.toList.flatMap RingSpan.positions = (List.range frames).map c.frameAt ∧
      (∀ span ∈ split.toList, 0 < span.frames ∧ span.offset + span.frames ≤ c.capacity) ∧
      (∀ span ∈ split.toList.dropLast, span.offset + span.frames = c.capacity) ∧
      split.toList.length = (if frames = 0 then 0 else (c.offset + frames) ⌈/⌉ c.capacity) ∧
      (frames ≤ c.capacity → split.toList.length ≤ 2) ∧
      (c.capacity ≤ 2 ^ 63 →
        c.advance? frames = some (c.advance frames) ∧
          (c.advance frames).offset = (c.offset + frames) % c.capacity ∧
          (∀ span, split.toList.getLast? = some span →
            (span.offset + span.frames) % c.capacity = (c.advance frames).offset) ∧
          ∀ position, position + frames < Count.limit →
            (ofPosition position c.capacity).advance? frames =
              some (ofPosition (position + frames) c.capacity)) := by
  intro split
  have hc := c.eq_ofPosition hpos
  have hsplit : split = (ofPosition c.offset c.capacity).split frames := by rw [← hc]
  have hcuts : Cuts c.capacity c.offset frames split.toList := by
    rw [hsplit]
    exact cuts_toList hpos c.offset frames
  have hoffset : c.offset % c.capacity = c.offset := Nat.mod_eq_of_lt (c.offset_lt hpos)
  have hadvance : c.advance frames = ofPosition (c.offset + frames) c.capacity := by
    rw [← advance_ofPosition c.offset frames hpos, ← hc]
  refine ⟨rfl, take?_eq_some hcapacity, ?_, hcuts.flatMap_positions, fun _ => bounds_of_mem_toList,
    hcuts.end_eq, ?_, hcuts.length_le_two hpos, ?_⟩
  · intro limit hlimit
    rw [hsplit] at hlimit ⊢
    rw [take_split hpos hlimit, hadvance]
  · split_ifs with hzero
    · subst hzero
      rw [hsplit, toList_eq_nil (next?_split_zero c.offset c.capacity), List.length_nil]
    · rw [hcuts.length_eq (Nat.pos_of_ne_zero hzero), hoffset, Nat.ceilDiv_eq_add_pred_div]
  · intro hhalf
    refine ⟨advance?_of_le_half hpos hhalf, c.offset_advance frames hpos, ?_, ?_⟩
    · intro span hlast
      rw [hcuts.end_getLast hlast, c.offset_advance frames hpos]
      rfl
    · intro position _
      rw [advance?_of_le_half (c := ofPosition position c.capacity) hpos hhalf,
        advance_ofPosition position frames hpos]

/-- The largest ring there is, with a cursor at its last frame: three frames are split into the last
one and the first two. -/
theorem split_covers_largest :
    let c := ofPosition (Count.limit - 2) (Count.limit - 1)
    0 < c.capacity ∧ c.capacity < Count.limit ∧ (c.split 3).toList.length = 2 ∧
      (c.split 3).toList.flatMap RingSpan.positions = [Count.limit - 2, 0, 1] := by
  intro c
  have hpos : 0 < c.capacity := by decide
  have hcapacity : c.capacity < Count.limit := by decide
  obtain ⟨-, -, -, hpositions, -, -, hlength, -⟩ := c.split_covers 3 hpos hcapacity
  refine ⟨hpos, hcapacity, ?_, ?_⟩
  · rw [hlength, Nat.ceilDiv_eq_add_pred_div]
    decide +kernel
  · rw [hpositions]
    decide +kernel

end RingCursor

end FrameTee
