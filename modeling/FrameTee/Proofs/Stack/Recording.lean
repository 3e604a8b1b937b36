import FrameTee.Proofs.Device.Operations
import FrameTee.Proofs.Sink.View
import FrameTee.Stack.Transfer

/-!
# What recordings do

A recording changes nothing of a tee but its counters (`Recording.CountsOnly`). Over a memory device
whose ring is laid out for its setup it does more: it fails in no other way than by its sink, and
when it does not fail, what is behind the sink has changed in the way that the frames ask for
(`Recording.Does`).
-/

namespace FrameTee

open RingSpans MappedRing

variable {δ μ η : Type} [Device δ] [Medium μ η]

/-- A recording changes nothing of the tee but its counters. -/
def Recording.CountsOnly (recording : Recording μ η) : Prop :=
  ∀ layer w, ∃ stats, (recording layer w).2.1 = { layer with stats }

/-- A recording either is done, and then what is behind the sink has changed by `change`, or failed,
and then by its sink. Of the tee it changes nothing but the counters. -/
def Recording.Does (change : SinkState → SinkState) (recording : Recording μ η) : Prop :=
  ∀ layer w, Ends
    (fun after => (∃ stats, after.1 = { layer with stats }) ∧
      ∀ (view : SinkView μ layer.sink.handle) (st : SinkState), view.look w.media = some st →
        st.Inside → view.look after.2.media = some (change st))
    (fun (e : StreamError) after => (∃ stats, after.1 = { layer with stats }) ∧
      e.isSinkFailure = true)
    (recording layer w)

namespace Recording.Does

variable {recording : Recording μ η} {change : SinkState → SinkState} {layer : Layer η}
  {w : World μ}

theorem isSinkFailure (h : recording.Does change) {e : StreamError}
    (herror : (recording layer w).1 = .error e) : e.isSinkFailure = true := by
  have hends := h layer w
  rcases hresult : recording layer w with ⟨e' | ⟨⟩, after⟩
  · rw [hresult] at hends herror
    obtain rfl := Except.error.inj herror
    exact hends.2
  · rw [hresult] at herror
    cases herror

theorem look (h : recording.Does change) (view : SinkView μ layer.sink.handle) {st : SinkState}
    (hlook : view.look w.media = some st) (hinside : st.Inside)
    (hok : (recording layer w).1 = .ok ()) :
    view.look (recording layer w).2.2.media = some (change st) := by
  have hends := h layer w
  rcases hresult : recording layer w with ⟨e | ⟨⟩, after⟩
  · rw [hresult] at hok
    cases hok
  · rw [hresult] at hends
    exact hends.2 view st hlook hinside

end Recording.Does

namespace Layer

variable {layer : Layer η} {w : World μ}

/-- Recording bytes writes them to the sink. -/
theorem does_record (bytes : Bytes) (frames : Nat) :
    (record bytes frames : Recording μ η).Does (·.append bytes) := by
  intro layer w
  simp only [record]
  rcases hwrite : layer.sink.write bytes w with ⟨e | ⟨⟩, w'⟩
  · exact ⟨⟨layer.stats, rfl⟩, rfl⟩
  · refine ⟨⟨_, rfl⟩, ?_⟩
    intro view st hlook hinside
    have hwritten := view.look_sink_write hlook hinside bytes (by rw [hwrite])
    rw [hwrite] at hwritten
    exact hwritten

theorem countsOnly_record (bytes : Bytes) (frames : Nat) :
    (record bytes frames : Recording μ η).CountsOnly := by
  intro layer w
  simp only [record]
  split
  · exact ⟨layer.stats, rfl⟩
  · exact ⟨_, rfl⟩

theorem countsOnly_recordInterleaved (buffer : Bytes) (device : δ) (frames : Nat) :
    (recordInterleaved buffer device frames : Recording μ η).CountsOnly := by
  intro layer w
  simp only [recordInterleaved]
  split
  · exact ⟨layer.stats, rfl⟩
  · exact countsOnly_record _ _ layer w

theorem countsOnly_recordPlanar (buffers : Array Bytes) (device : δ) (frames : Nat) :
    (recordPlanar buffers device frames : Recording μ η).CountsOnly := by
  intro layer w
  simp only [recordPlanar]
  split
  · exact ⟨layer.stats, rfl⟩
  · split
    · exact ⟨layer.stats, rfl⟩
    · exact countsOnly_record _ _ layer w

theorem countsOnly_recordCommit (position : Nat) (device : δ) (frames : Nat) :
    (recordCommit position device frames : Recording μ η).CountsOnly := by
  intro layer w
  simp only [recordCommit]
  split
  · exact ⟨layer.stats, rfl⟩
  · split
    · exact ⟨layer.stats, rfl⟩
    · split
      · exact ⟨layer.stats, rfl⟩
      · apply walk_keeps
          (P := fun after : Layer η × World μ => ∃ stats, after.1 = { layer with stats })
        · rintro span ⟨layer', w'⟩ ⟨stats, rfl⟩
          unfold recordSpan
          dsimp only
          split
          · exact ⟨stats, rfl⟩
          · obtain ⟨stats', hstats'⟩ := countsOnly_record (μ := μ) _ span.frames
              { layer with stats } (w'.report (.ringSpan span.offset span.frames))
            exact ⟨stats', hstats'⟩
        · exact ⟨layer.stats, rfl⟩

theorem countsOnly_recordRewind (device : δ) (frames : Nat) :
    (recordRewind device frames : Recording μ η).CountsOnly := by
  intro layer w
  simp only [recordRewind]
  split
  · exact ⟨layer.stats, rfl⟩
  · split
    · exact ⟨layer.stats, rfl⟩
    · split
      · exact ⟨layer.stats, rfl⟩
      · exact ⟨_, rfl⟩

/-- A buffer has leading frames exactly when they can be counted in bytes and it is long enough. -/
theorem leadingFrames_eq_ok_iff {g : FrameGeometry} {buffer data : Bytes} {n : Nat} :
    leadingFrames g buffer n = .ok data ↔
      n * g.frameBytes < Count.limit ∧ n * g.frameBytes ≤ buffer.size ∧
        data = buffer.extract 0 (n * g.frameBytes) := by
  rw [leadingFrames, FrameGeometry.framesToBytes?]
  constructor
  · intro h
    split at h
    · cases h
    · rename_i bytes hbytes
      obtain ⟨rfl, hlt⟩ := Count.mul?_eq_some_iff.mp hbytes
      rw [Bytes.slice?] at h
      split at h
      · cases h
      · rename_i slice hslice
        cases h
        split at hslice
        · rename_i hsize
          cases hslice
          exact ⟨hlt, hsize.2, rfl⟩
        · cases hslice
  · rintro ⟨hlt, hsize, rfl⟩
    simp only [Count.mul?_eq_some_iff.mpr ⟨rfl, hlt⟩, Bytes.slice?, Nat.zero_le, hsize, and_self,
      if_true]

section Memory

variable {m : MemoryDevice} {layout : RingLayout} {s : StreamSetup} {n : Nat}
  (hsetup : m.setup = some s)
include hsetup

/-- Frames of an interleaved buffer are recorded as they are. -/
theorem recordInterleaved_eq_record (hs : s.Supported) (hn : n ≤ s.bufferSize) {buffer : Bytes}
    (hsize : n * s.geometry.frameBytes ≤ buffer.size) :
    (recordInterleaved buffer m n : Recording μ η) =
      record (buffer.extract 0 (n * s.geometry.frameBytes)) n := by
  have hleading : leadingFrames s.geometry buffer n =
      .ok (buffer.extract 0 (n * s.geometry.frameBytes)) :=
    leadingFrames_eq_ok_iff.mpr ⟨hs.bytes_lt hn, hsize, rfl⟩
  have hdata : (Device.geometry m >>= (leadingFrames · buffer n)) =
      .ok (buffer.extract 0 (n * s.geometry.frameBytes)) := by
    rw [MemoryDevice.geometry_eq_ok hsetup]
    exact hleading
  funext layer w
  rw [recordInterleaved, hdata]

theorem does_recordInterleaved (hs : s.Supported) (hn : n ≤ s.bufferSize) {buffer : Bytes}
    (hsize : n * s.geometry.frameBytes ≤ buffer.size) :
    (recordInterleaved buffer m n : Recording μ η).Does
      (·.append (buffer.extract 0 (n * s.geometry.frameBytes))) := by
  rw [recordInterleaved_eq_record hsetup hs hn hsize]
  exact does_record _ n

/-- Frames of one buffer per channel are recorded in interleaved form. -/
theorem recordPlanar_eq_record {buffers : Array Bytes} {flat : Bytes}
    (hflat : (ChannelAreas.planar buffers s.geometry).copyInterleaved s.geometry 0 n = .ok flat) :
    (recordPlanar buffers m n : Recording μ η) = record flat n := by
  funext layer w
  rw [recordPlanar, MemoryDevice.geometry_eq_ok hsetup]
  simp only [hflat]

theorem does_recordPlanar {buffers : Array Bytes} {flat : Bytes}
    (hflat : (ChannelAreas.planar buffers s.geometry).copyInterleaved s.geometry 0 n = .ok flat) :
    (recordPlanar buffers m n : Recording μ η).Does (·.append flat) := by
  rw [recordPlanar_eq_record hsetup hflat]
  exact does_record _ n

/-- Frames that are handed over in the ring are recorded span by span. -/
theorem does_recordCommit (h : m.mapped.Laid layout s) (position : Nat) :
    (recordCommit position m n : Recording μ η).Does
      (·.append (m.mapped.streamBytes s position n)) := by
  intro layer w
  have hmapped : Device.mappedRing m = .ok m.mapped := MemoryDevice.mappedRing_eq_ok hsetup
  have hdevice : Device.setup m = .ok s := MemoryDevice.requireSetup_eq_ok hsetup "setup"
  have hpos := h.supported.bufferSize_pos
  rw [recordCommit, hdevice]
  dsimp only
  rw [if_neg (by omega), hmapped]
  dsimp only
  have hwalk := ends_walk (recordSpan m.mapped s.geometry)
    (P := fun reached after => position ≤ reached ∧ (∃ stats, after.1 = { layer with stats }) ∧
      ∀ (view : SinkView μ layer.sink.handle) (st : SinkState), view.look w.media = some st →
        st.Inside → view.look after.2.media =
          some (st.append (m.mapped.streamBytes s position (reached - position))))
    (Q := fun e after => (∃ stats, after.1 = { layer with stats }) ∧ e.isSinkFailure = true)
    hpos position n (layer, w) ?_ ?_
  · rcases hend : ((RingCursor.ofPosition position s.bufferSize).split n).walk
        (recordSpan m.mapped s.geometry) (layer, w) with ⟨e | ⟨⟩, after⟩
    · rw [hend] at hwalk
      exact hwalk
    · rw [hend] at hwalk
      obtain ⟨-, hstats, hlook⟩ := hwalk
      rw [Nat.add_sub_cancel_left] at hlook
      exact ⟨hstats, hlook⟩
  · rintro reached k ⟨layer', w'⟩ hreached - - hspan ⟨-, ⟨stats, rfl⟩, hlook⟩
    have hrecord := does_record (m.mapped.streamBytes s reached k) k { layer with stats }
      (w'.report (.ringSpan (reached % s.bufferSize) k))
    rw [recordSpan]
    dsimp only
    rw [h.copyInterleaved_eq_ok hspan, h.streamBytes_mod]
    dsimp only
    rcases hend : record (m.mapped.streamBytes s reached k) k { layer with stats }
        (w'.report (.ringSpan (reached % s.bufferSize) k)) with ⟨e | ⟨⟩, after⟩
    · rw [hend] at hrecord
      exact hrecord
    · rw [hend] at hrecord
      obtain ⟨hstats, hwritten⟩ := hrecord
      refine ⟨by omega, hstats, ?_⟩
      intro view st hst hinside
      have hsplit : reached + k - position = reached - position + k := by omega
      have hstart : position + (reached - position) = reached := by omega
      have hjoin := SinkState.append_append hinside
        (m.mapped.streamBytes s position (reached - position)) (m.mapped.streamBytes s reached k)
      rw [hwritten view _ (hlook view st hst hinside) (SinkState.inside_append _), hsplit,
        streamBytes_add, hstart, ← hjoin]
  · refine ⟨Nat.le_refl _, ⟨layer.stats, rfl⟩, ?_⟩
    intro view st hlook hinside
    have hempty : m.mapped.streamBytes s position (position - position) = #[] := by
      apply Array.eq_empty_of_size_eq_zero
      rw [size_streamBytes, Nat.sub_self, Nat.zero_mul]
    rw [hempty, SinkState.append_empty hinside]
    exact hlook

/-- Frames that are taken back move the sink back. -/
theorem does_recordRewind (hs : s.Supported) (hn : n ≤ s.bufferSize) :
    (recordRewind m n : Recording μ η).Does (·.back (n * s.geometry.frameBytes)) := by
  intro layer w
  simp only [recordRewind]
  rw [MemoryDevice.geometry_eq_ok hsetup]
  dsimp only
  rw [hs.framesToBytes?_eq hn]
  dsimp only
  rcases hseek : layer.sink.seekBack (n * s.geometry.frameBytes) w with ⟨e | position, w'⟩
  · exact ⟨⟨layer.stats, rfl⟩, rfl⟩
  · refine ⟨⟨_, rfl⟩, ?_⟩
    intro view st hlook hinside
    have hmoved := view.look_sink_seekBack hlook (n * s.geometry.frameBytes)
      (by rw [hseek])
    rw [hseek] at hmoved
    exact hmoved.2

end Memory

end Layer

end FrameTee
