import FrameTee.Ring.Cursor

/-!
# Walks along a ring

The spans of a split are met in the order of the stream: each starts at the ring position of a
stream position, stays inside the ring, and the next one starts where it ends.
`RingSpans.ends_walk` turns this into a rule for loops. A property of the stream position that every
visit carries over its span holds at the end of the whole walk; a visit that fails ends the walk in
what the failing visit left.
-/

namespace FrameTee

namespace RingCursor

/-- Advancing the cursor of a stream position gives the cursor of the later position. -/
theorem advance_ofPosition (position frames : Nat) {capacity : Nat} (hpos : 0 < capacity) :
    (ofPosition position capacity).advance frames = ofPosition (position + frames) capacity := by
  have hne : capacity ≠ 0 := Nat.pos_iff_ne_zero.mp hpos
  simp only [advance, ofPosition, if_neg hne, RingCursor.mk.injEq, true_and]
  rw [← Nat.add_mod]

end RingCursor

namespace RingSpans

variable {σ ε : Type}

/-- A visit came to one of two ends: it is done, or it failed with an error. -/
def Ends (done : σ → Prop) (failed : ε → σ → Prop) : Except ε Unit × σ → Prop
  | (.ok (), state) => done state
  | (.error e, state) => failed e state

theorem walk_eq_of_none {s : RingSpans} (h : s.next? = none)
    (visit : RingSpan → σ → Except ε Unit × σ) (state : σ) :
    s.walk visit state = (.ok (), state) := by
  rw [walk_eq_visitAll, toList_eq_nil h, visitAll]

theorem walk_eq_of_some {s rest : RingSpans} {span : RingSpan} (h : s.next? = some (span, rest))
    (visit : RingSpan → σ → Except ε Unit × σ) (state : σ) :
    s.walk visit state =
      match visit span state with
      | (.error e, state) => (.error e, state)
      | (.ok (), state) => rest.walk visit state := by
  rw [walk_eq_visitAll, toList_eq_cons h, visitAll]
  rcases visit span state with ⟨e | ⟨⟩, after⟩
  · rfl
  · exact (walk_eq_visitAll visit rest after).symm

/-- What every visit keeps, failing or not, a walk keeps. -/
theorem walk_keeps {visit : RingSpan → σ → Except ε Unit × σ} {P : σ → Prop}
    (hvisit : ∀ span state, P state → P (visit span state).2) (s : RingSpans) {state : σ}
    (hstart : P state) : P (s.walk visit state).2 := by
  rw [walk_eq_visitAll]
  induction s.toList generalizing state with
  | nil => exact hstart
  | cons span rest ih =>
      have hnext := hvisit span state hstart
      rw [visitAll]
      rcases hv : visit span state with ⟨e | ⟨⟩, after⟩
      · rw [hv] at hnext
        exact hnext
      · rw [hv] at hnext
        exact ih hnext

/-- Visits that do the same at every span do the same on the way. -/
theorem visitAll_congr {visit visit' : RingSpan → σ → Except ε Unit × σ} {spans : List RingSpan}
    (h : ∀ span ∈ spans, visit' span = visit span) (state : σ) :
    visitAll visit' spans state = visitAll visit spans state := by
  induction spans generalizing state with
  | nil => rfl
  | cons span rest ih =>
      rw [visitAll, visitAll, h span List.mem_cons_self]
      rcases visit span state with ⟨e | ⟨⟩, after⟩
      · rfl
      · exact ih (fun other hmem => h other (List.mem_cons_of_mem _ hmem)) after

/-- A span of a split is not empty and lies inside the ring. -/
theorem bounds_of_mem_toList {s : RingSpans} {span : RingSpan} (h : span ∈ s.toList) :
    0 < span.frames ∧ span.offset + span.frames ≤ s.cursor.capacity := by
  induction hremaining : s.remaining using Nat.strongRecOn generalizing s with
  | ind remaining ih =>
      cases hnext : s.next? with
      | none =>
          rw [toList_eq_nil hnext] at h
          cases h
      | some next =>
          obtain ⟨first, rest⟩ := next
          have hless := remaining_lt_of_next? hnext
          rw [toList_eq_cons hnext] at h
          rw [next?] at hnext
          split at hnext
          · cases hnext
          · have hoffset := s.cursor.offset_lt (by omega)
            obtain ⟨rfl, rfl⟩ := Prod.mk.inj (Option.some.inj hnext)
            obtain rfl | hrest := List.mem_cons.mp h
            · dsimp only
              omega
            · have hbounds := ih _ (hremaining ▸ hless) hrest rfl
              rw [RingCursor.capacity_advance] at hbounds
              exact hbounds

/-- The spans of a split cover its frames. -/
theorem foldr_frames_toList {s : RingSpans} (hpos : 0 < s.cursor.capacity) :
    s.toList.foldr (·.frames + ·) 0 = s.remaining := by
  induction hremaining : s.remaining using Nat.strongRecOn generalizing s with
  | ind remaining ih =>
      cases hnext : s.next? with
      | none =>
          rw [toList_eq_nil hnext, List.foldr_nil]
          rw [next?] at hnext
          split at hnext
          · omega
          · cases hnext
      | some next =>
          obtain ⟨first, rest⟩ := next
          have hless := remaining_lt_of_next? hnext
          rw [toList_eq_cons hnext, List.foldr_cons]
          rw [next?] at hnext
          split at hnext
          · cases hnext
          · obtain ⟨rfl, rfl⟩ := Prod.mk.inj (Option.some.inj hnext)
            rw [ih _ (hremaining ▸ hless) (by rwa [RingCursor.capacity_advance]) rfl]
            dsimp only
            omega

theorem next?_split_zero (position capacity : Nat) :
    ((RingCursor.ofPosition position capacity).split 0).next? = none := by
  simp [RingCursor.split, next?]

/-- The first span ends with the frames or at the end of the ring. -/
theorem next?_split (position : Nat) {frames capacity : Nat} (hframes : 0 < frames)
    (hpos : 0 < capacity) :
    ((RingCursor.ofPosition position capacity).split frames).next? =
      some (⟨position % capacity, min frames (capacity - position % capacity)⟩,
        (RingCursor.ofPosition (position + min frames (capacity - position % capacity))
          capacity).split (frames - min frames (capacity - position % capacity))) := by
  have hnot : ¬ (frames = 0 ∨ capacity = 0) := by omega
  simp only [RingCursor.split, next?, RingCursor.capacity_ofPosition, if_neg hnot,
    RingCursor.offset_ofPosition position hpos, RingCursor.advance_ofPosition _ _ hpos]

/-- The rule for a walk. `P` is indexed by the stream position that has been reached, and `Q`
describes what a failing visit leaves. -/
theorem ends_walk (visit : RingSpan → σ → Except ε Unit × σ) {P : Nat → σ → Prop}
    {Q : ε → σ → Prop} {capacity : Nat} (hpos : 0 < capacity) (position frames : Nat) (state : σ)
    (hvisit : ∀ reached n state, position ≤ reached → 0 < n → reached + n ≤ position + frames →
      reached % capacity + n ≤ capacity → P reached state →
      Ends (P (reached + n)) Q (visit ⟨reached % capacity, n⟩ state))
    (hstart : P position state) :
    Ends (P (position + frames)) Q
      (((RingCursor.ofPosition position capacity).split frames).walk visit state) := by
  induction frames using Nat.strongRecOn generalizing position state with
  | ind frames ih =>
      by_cases hzero : frames = 0
      · subst hzero
        rw [walk_eq_of_none (next?_split_zero position capacity)]
        exact hstart
      · have hframes : 0 < frames := Nat.pos_of_ne_zero hzero
        have hlt : position % capacity < capacity := Nat.mod_lt _ hpos
        rw [walk_eq_of_some (next?_split position hframes hpos)]
        generalize hn : min frames (capacity - position % capacity) = n
        have hfirst : Ends (P (position + n)) Q (visit ⟨position % capacity, n⟩ state) :=
          hvisit position n state (Nat.le_refl _) (by omega) (by omega) (by omega) hstart
        rcases hv : visit ⟨position % capacity, n⟩ state with ⟨e | ⟨⟩, after⟩
        · rw [hv] at hfirst
          exact hfirst
        · rw [hv] at hfirst
          have hrest := ih (frames - n) (by omega) (position + n) after
            (fun reached k state' h₁ h₂ h₃ =>
              hvisit reached k state' (by omega) h₂ (by omega)) hfirst
          have hend : position + n + (frames - n) = position + frames := by omega
          rw [hend] at hrest
          exact hrest

/-- The rule for a walk whose visits cannot fail. -/
theorem exists_walk_eq_ok (visit : RingSpan → σ → Except ε Unit × σ) {P : Nat → σ → Prop}
    {capacity : Nat} (hpos : 0 < capacity) (position frames : Nat) (state : σ)
    (hvisit : ∀ reached n state, position ≤ reached → 0 < n → reached + n ≤ position + frames →
      reached % capacity + n ≤ capacity → P reached state →
      ∃ after, visit ⟨reached % capacity, n⟩ state = (.ok (), after) ∧ P (reached + n) after)
    (hstart : P position state) :
    ∃ after, ((RingCursor.ofPosition position capacity).split frames).walk visit state =
      (.ok (), after) ∧ P (position + frames) after := by
  have hends := ends_walk visit (P := P) (Q := fun _ _ => False) hpos position frames state
    (fun reached n state h₁ h₂ h₃ h₄ h₅ => by
      obtain ⟨after, hafter, hP⟩ := hvisit reached n state h₁ h₂ h₃ h₄ h₅
      rw [hafter]
      exact hP) hstart
  rcases hwalk : ((RingCursor.ofPosition position capacity).split frames).walk visit state with
    ⟨e | ⟨⟩, after⟩
  · rw [hwalk] at hends
    exact hends.elim
  · rw [hwalk] at hends
    exact ⟨after, rfl, hends⟩

/-- The list cuts frames of the stream, from a position on, into spans at the ends of a ring. -/
inductive Cuts (capacity : Nat) : Nat → Nat → List RingSpan → Prop where
  | none (position : Nat) : Cuts capacity position 0 []
  | last (position : Nat) {frames : Nat} (hframes : 0 < frames)
      (hfits : position % capacity + frames ≤ capacity) :
      Cuts capacity position frames [⟨position % capacity, frames⟩]
  | more (position : Nat) {n frames : Nat} {spans : List RingSpan} (hn : 0 < n)
      (hend : position % capacity + n = capacity) (hframes : 0 < frames)
      (h : Cuts capacity (position + n) frames spans) :
      Cuts capacity position (n + frames) (⟨position % capacity, n⟩ :: spans)

theorem cuts_toList {capacity : Nat} (hpos : 0 < capacity) (position frames : Nat) :
    Cuts capacity position frames
      ((RingCursor.ofPosition position capacity).split frames).toList := by
  induction frames using Nat.strongRecOn generalizing position with
  | ind frames ih =>
      by_cases hzero : frames = 0
      · rw [hzero, toList_eq_nil (next?_split_zero position capacity)]
        exact .none position
      · have hframes : 0 < frames := Nat.pos_of_ne_zero hzero
        have hlt : position % capacity < capacity := Nat.mod_lt _ hpos
        rw [toList_eq_cons (next?_split position hframes hpos)]
        by_cases hfits : position % capacity + frames ≤ capacity
        · have hall : min frames (capacity - position % capacity) = frames := by omega
          rw [hall, Nat.sub_self, toList_eq_nil (next?_split_zero _ capacity)]
          exact .last position hframes hfits
        · have hsome : min frames (capacity - position % capacity) =
              capacity - position % capacity := by omega
          have hrest := ih (frames - (capacity - position % capacity)) (by omega)
            (position + (capacity - position % capacity))
          have hmore := Cuts.more position (by omega) (by omega) (by omega) hrest
          rw [Nat.add_sub_cancel' (by omega)] at hmore
          rw [hsome]
          exact hmore

namespace Cuts

variable {capacity position frames : Nat} {spans : List RingSpan}

theorem ne_nil (h : Cuts capacity position frames spans) (hframes : 0 < frames) : spans ≠ [] := by
  cases h with
  | none => exact absurd hframes (Nat.lt_irrefl 0)
  | last | more => exact List.cons_ne_nil _ _

/-- As many spans are needed as rings are begun by the frames, counted from the start of the first
one. -/
theorem length_eq (h : Cuts capacity position frames spans) (hframes : 0 < frames) :
    spans.length = (position % capacity + frames + capacity - 1) / capacity := by
  induction h with
  | none => exact absurd hframes (Nat.lt_irrefl 0)
  | @last position frames _ hfits =>
      have hsplit : position % capacity + frames + capacity - 1 =
          position % capacity + frames - 1 + capacity := by omega
      have hpos : 0 < capacity := by omega
      rw [hsplit, Nat.add_div_right _ hpos, Nat.div_eq_of_lt (by omega)]
      rfl
  | @more position n frames spans hn hend hmore h ih =>
      have hpos : 0 < capacity := by omega
      have hnext : (position + n) % capacity = 0 := by
        rw [← Nat.mod_add_mod, hend, Nat.mod_self]
      have hsplit : position % capacity + (n + frames) + capacity - 1 =
          frames + capacity - 1 + capacity := by omega
      rw [List.length_cons, ih hmore, hnext, hsplit, Nat.zero_add, Nat.add_div_right _ hpos]

/-- Every span but the last ends at the end of the ring. -/
theorem end_eq (h : Cuts capacity position frames spans) :
    ∀ span ∈ spans.dropLast, span.offset + span.frames = capacity := by
  induction h with
  | none => exact List.forall_mem_nil _
  | last => exact List.forall_mem_nil _
  | more position hn hend hmore h ih =>
      rw [List.dropLast_cons_of_ne_nil (h.ne_nil hmore)]
      exact List.forall_mem_cons.mpr ⟨hend, ih⟩

end Cuts

end RingSpans

end FrameTee
