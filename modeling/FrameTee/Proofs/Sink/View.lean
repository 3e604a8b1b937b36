import FrameTee.Proofs.Bytes
import FrameTee.Proofs.Sink.Trace

/-!
# Sinks seen as files

What a sink has been given can be told from the bytes behind its handle and the position at which it
writes: a `SinkState`. A `SinkView` is a way to look at the bytes and the position behind a handle
under which a write that is taken in full and a seek back do what they do to a file. Nothing is said
of requests that fail or are taken in part.
-/

namespace FrameTee

/-- The bytes behind a handle, and where the next write goes. -/
structure SinkState where
  /-- The bytes. -/
  contents : Bytes
  /-- Position of the next write. -/
  position : Nat

namespace SinkState

theorem ext {a b : SinkState} (hcontents : a.contents = b.contents)
    (hposition : a.position = b.position) : a = b := by
  cases a
  cases b
  rw [mk.injEq]
  exact ⟨hcontents, hposition⟩

variable (st : SinkState)

/-- After a write at the position. -/
def append (bytes : Bytes) : SinkState :=
  ⟨Bytes.overwriteAt st.contents st.position bytes, st.position + bytes.size⟩

/-- After a move back. -/
def back (distance : Nat) : SinkState :=
  { st with position := st.position - distance }

/-- The position is inside the bytes or at their end. -/
def Inside : Prop :=
  st.position ≤ st.contents.size

variable {st}

theorem inside_append (bytes : Bytes) : (st.append bytes).Inside := by
  rw [Inside, append, Bytes.size_overwriteAt]
  exact Nat.le_max_right _ _

theorem inside_back (h : st.Inside) (distance : Nat) : (st.back distance).Inside :=
  Nat.le_trans (Nat.sub_le _ _) h

@[simp] theorem position_append (bytes : Bytes) :
    (st.append bytes).position = st.position + bytes.size := rfl

/-- A write replaces the bytes from the position on and no others. -/
theorem getElem?_append (h : st.Inside) (bytes : Bytes) (i : Nat) :
    (st.append bytes).contents[i]? =
      if st.position ≤ i ∧ i < st.position + bytes.size then some (bytes.getD (i - st.position) 0)
      else st.contents[i]? :=
  Bytes.getElem?_overwriteAt bytes h i

theorem append_empty (h : st.Inside) : st.append #[] = st := by
  refine SinkState.ext ?_ rfl
  apply Array.ext_getElem?
  intro i
  rw [getElem?_append h, if_neg]
  change ¬ (st.position ≤ i ∧ i < st.position + 0)
  omega

/-- Two writes in a row are one. -/
theorem append_append (h : st.Inside) (a b : Bytes) :
    (st.append a).append b = st.append (a ++ b) := by
  apply SinkState.ext
  · apply Array.ext_getElem?
    intro i
    rw [getElem?_append (inside_append a), getElem?_append h, getElem?_append h, position_append,
      Array.size_append]
    by_cases hlate : st.position + a.size ≤ i ∧ i < st.position + a.size + b.size
    · have hindex : i - st.position = a.size + (i - (st.position + a.size)) := by omega
      rw [if_pos hlate, if_pos (by omega), hindex, Bytes.getD_append_right]
    · by_cases hearly : st.position ≤ i ∧ i < st.position + a.size
      · rw [if_neg hlate, if_pos hearly, if_pos (by omega), Bytes.getD_append_left b (by omega)]
      · rw [if_neg hlate, if_neg hearly, if_neg (by omega)]
  · simp only [position_append, Array.size_append]
    omega

/-- Bytes that are written where they were, after a move back over them, change nothing. -/
theorem append_back (h : st.Inside) {bytes : Bytes} (hle : bytes.size ≤ st.position)
    (hbytes : ∀ i < bytes.size,
      st.contents[st.position - bytes.size + i]? = some (bytes.getD i 0)) :
    (st.back bytes.size).append bytes = st := by
  apply SinkState.ext
  · apply Array.ext_getElem?
    intro i
    rw [getElem?_append (inside_back h bytes.size)]
    split
    · rename_i hin
      obtain ⟨k, rfl⟩ := Nat.exists_eq_add_of_le hin.1
      rw [Nat.add_sub_cancel_left, ← hbytes k (by omega)]
      rfl
    · rfl
  · exact Nat.sub_add_cancel hle

/-- The sink with zeros in place of bytes that are missing before `floor`. -/
def padTo (floor : Nat) (st : SinkState) : SinkState :=
  { st with contents := Bytes.overwriteAt st.contents floor #[] }

theorem size_padTo (floor : Nat) (st : SinkState) :
    (st.padTo floor).contents.size = max st.contents.size floor := by
  rw [padTo, Bytes.size_overwriteAt]
  rfl

/-- A sink that holds that many bytes is missing none. -/
theorem padTo_eq_self {floor : Nat} (h : floor ≤ st.contents.size) : st.padTo floor = st := by
  refine SinkState.ext ?_ rfl
  apply Array.ext_getElem?
  intro i
  rw [padTo, Bytes.getElem?_overwriteAt _ h, if_neg]
  rintro ⟨hle, hlt⟩
  exact absurd hlt (Nat.not_lt.mpr hle)

/-- Missing bytes can be filled in before or after a write. -/
theorem append_padTo (floor : Nat) (st : SinkState) (bytes : Bytes) :
    (st.padTo floor).append bytes = (st.append bytes).padTo floor := by
  have hempty (i : Nat) : ¬ (floor ≤ i ∧ i < floor + (#[] : Bytes).size) := by
    rintro ⟨hle, hlt⟩
    exact absurd hlt (Nat.not_lt.mpr hle)
  refine SinkState.ext ?_ rfl
  apply Bytes.ext_getD
  · simp only [append, padTo, Bytes.size_overwriteAt]
    omega
  · intro i _
    simp only [append, padTo, Bytes.getD_overwriteAt, if_neg (hempty i)]

end SinkState

/-- A way to see the bytes and the position behind a handle. -/
structure SinkView (μ : Type) {η : Type} [Medium μ η] (handle : η) where
  /-- What is seen, if anything is behind the handle. -/
  look : μ → Option SinkState
  /-- A write that is taken in full goes to the position and moves it on. -/
  look_write : ∀ {media : μ} {st : SinkState} {bytes : Bytes}, look media = some st →
    bytes.isEmpty = false → (Medium.write handle bytes media).1 = .ok bytes.size →
      look (Medium.write handle bytes media).2 = some (st.append bytes)
  /-- A seek back ends at the position it tells, and not before the first byte. -/
  look_seek : ∀ {media : μ} {st : SinkState} (distance position : Nat), look media = some st →
    (Medium.seek handle (-(distance : Int)) media).1 = .ok position →
      distance ≤ st.position ∧
        look (Medium.seek handle (-(distance : Int)) media).2 = some (st.back distance)

namespace SinkView

/-- What is behind a handle of a traced medium is what is behind it in the medium below. -/
def traced {μ η : Type} [Medium μ η] {handle : η} (view : SinkView μ handle) :
    SinkView (Traced μ η) handle where
  look t := view.look t.media
  look_write h hbytes hok := view.look_write h hbytes hok
  look_seek distance position h hok := view.look_seek distance position h hok

/-- What is seen, with zeros in place of bytes that are missing before `floor`. -/
def padded {μ η : Type} [Medium μ η] {handle : η} (view : SinkView μ handle) (floor : Nat) :
    SinkView μ handle where
  look media := (view.look media).map (·.padTo floor)
  look_write := by
    intro media st bytes h hbytes hok
    obtain ⟨st, hst, rfl⟩ := Option.map_eq_some_iff.mp h
    rw [view.look_write hst hbytes hok, Option.map_some, SinkState.append_padTo]
  look_seek := by
    intro media st distance position h hok
    obtain ⟨st, hst, rfl⟩ := Option.map_eq_some_iff.mp h
    obtain ⟨hle, hlook⟩ := view.look_seek distance position hst hok
    exact ⟨hle, by rw [hlook]; rfl⟩

variable {μ η : Type} [Medium μ η] {sink : Sink η} (view : SinkView μ sink.handle)
  {w : World μ} {st : SinkState}

/-- A write that the sink does not report as failed is in the bytes. -/
theorem look_sink_write (h : view.look w.media = some st) (hinside : st.Inside) (bytes : Bytes)
    (hok : (sink.write bytes w).1 = .ok ()) :
    view.look (sink.write bytes w).2.media = some (st.append bytes) := by
  simp only [Sink.write] at hok ⊢
  split at hok
  · rename_i hempty
    rw [if_pos hempty, Array.isEmpty_iff.mp hempty, SinkState.append_empty hinside]
    exact h
  · rename_i hempty
    rw [if_neg hempty]
    have hlook := view.look_write h (Bool.eq_false_iff.mpr hempty)
    rcases hwrite : Medium.write sink.handle bytes w.media with ⟨source | written, media⟩
    · rw [hwrite] at hok
      cases hok
    · rw [hwrite] at hok hlook
      dsimp only at hok hlook ⊢
      by_cases hfull : written = bytes.size
      · rw [if_pos hfull]
        exact hlook (by rw [hfull])
      · rw [if_neg hfull] at hok
        cases hok

/-- A move back that the sink does not report as failed stays behind the first byte. -/
theorem look_sink_seekBack (h : view.look w.media = some st) (distance : Nat) {position : Nat}
    (hok : (sink.seekBack distance w).1 = .ok position) :
    distance ≤ st.position ∧
      view.look (sink.seekBack distance w).2.media = some (st.back distance) := by
  simp only [Sink.seekBack] at hok ⊢
  split at hok
  · cases hok
  · rename_i hdistance
    rw [if_neg hdistance]
    have hlook := view.look_seek distance position h
    rcases hseek : Medium.seek sink.handle (-(distance : Int)) w.media with
      ⟨source | position', media⟩
    · rw [hseek] at hok
      cases hok
    · rw [hseek] at hok hlook
      dsimp only at hok hlook ⊢
      exact hlook (by rw [Except.ok.inj hok])

end SinkView

end FrameTee
