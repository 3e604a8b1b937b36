import FrameTee.Area.Mapped
import FrameTee.Proofs.Area.Strided
import Mathlib.Data.List.TakeWhile

/-!
# Stores as lists of moves

Scattering interleaved frames into a mapped ring is a list of moves, one for every sample: from a
byte of the source to an address of the ring, channel by channel. The moves are made in order until
one is stuck (`Makes`), because its sample has no place (`MappedRing.makes_storeInterleaved`). What
the memory holds afterwards is read off the list: a byte in no range of a move is as before, a byte
of a move is the source's, provided that no other move reaches it, and a byte that all moves give
what it has keeps it.
-/

namespace FrameTee

/-- One sample on its way into a ring. -/
structure SampleMove where
  /-- First byte of the sample in the source. -/
  origin : Nat
  /-- First byte of the sample in the memory. -/
  start : Nat

namespace SampleMove

variable {src : Bytes} {width : Nat} {moves : List SampleMove} {data : Memory} {x : Nat}

/-- The address `x` is one that the move writes. -/
def Reaches (width : Nat) (move : SampleMove) (x : Nat) : Prop :=
  move.start ≤ x ∧ x < move.start + width

/-- The move ends inside memory of `length` bytes. -/
def Fits (width length : Nat) (move : SampleMove) : Prop :=
  move.start + width ≤ length

instance (width length : Nat) (move : SampleMove) : Decidable (move.Fits width length) :=
  inferInstanceAs (Decidable (move.start + width ≤ length))

/-- Makes the moves in order. -/
def makeAll (src : Bytes) (width : Nat) (moves : List SampleMove) (data : Memory) : Memory :=
  moves.foldl (fun data move => Memory.blit src move.origin data move.start width) data

@[simp] theorem size_makeAll : (makeAll src width moves data).size = data.size := by
  induction moves generalizing data with
  | nil => rfl
  | cons move rest ih =>
      change (makeAll src width rest _).size = _
      rw [ih, Memory.size_blit]

theorem get_makeAll_of_not_reaches (h : ∀ move ∈ moves, ¬ move.Reaches width x) :
    (makeAll src width moves data).get x = data.get x := by
  induction moves generalizing data with
  | nil => rfl
  | cons move rest ih =>
      change (makeAll src width rest _).get x = _
      have hmove := h move List.mem_cons_self
      rw [ih fun other hother => h other (List.mem_cons_of_mem _ hother), Memory.get_blit]
      exact if_neg fun hin => hmove ⟨hin.1, hin.2.1⟩

/-- A byte is as before or comes from one of the moves. -/
theorem get_makeAll_cases (src : Bytes) (width : Nat) (moves : List SampleMove) (data : Memory)
    (x : Nat) : (makeAll src width moves data).get x = data.get x ∨
      ∃ move ∈ moves, move.Reaches width x ∧
        (makeAll src width moves data).get x = src.getD (move.origin + (x - move.start)) 0 := by
  induction moves generalizing data with
  | nil => exact .inl rfl
  | cons move rest ih =>
      obtain hsame | ⟨other, hmem, hother⟩ := ih (Memory.blit src move.origin data move.start width)
      · rw [Memory.get_blit] at hsame
        split at hsame
        · rename_i hin
          exact .inr ⟨move, List.mem_cons_self, ⟨hin.1, hin.2.1⟩, hsame⟩
        · exact .inl hsame
      · exact .inr ⟨other, List.mem_cons_of_mem _ hmem, hother⟩

/-- A byte that a single move reaches comes from that move. -/
theorem get_makeAll_of_mem (move : SampleMove) (hmove : move ∈ moves)
    (hreaches : move.Reaches width x) (hx : x < data.size)
    (hsingle : ∀ other ∈ moves, other.Reaches width x → other = move) :
    (makeAll src width moves data).get x = src.getD (move.origin + (x - move.start)) 0 := by
  induction moves generalizing data with
  | nil => cases hmove
  | cons first rest ih =>
      change (makeAll src width rest _).get x = _
      by_cases hrest : move ∈ rest
      · apply ih hrest
        · rw [Memory.size_blit]
          exact hx
        · exact fun other hother => hsingle other (List.mem_cons_of_mem _ hother)
      · obtain rfl : move = first := (List.mem_cons.mp hmove).resolve_right hrest
        have hother : ∀ other ∈ rest, ¬ other.Reaches width x := by
          intro other hother hreach
          have heq := hsingle other (List.mem_cons_of_mem _ hother) hreach
          exact hrest (heq ▸ hother)
        rw [get_makeAll_of_not_reaches hother, Memory.get_blit]
        exact if_pos ⟨hreaches.1, hreaches.2, hx⟩

/-- A byte that a move reaches keeps what it is given by the moves, if they all give it the same. -/
theorem get_makeAll_of_same (h : ∀ move ∈ moves, ∀ i < width,
    src.getD (move.origin + i) 0 = data.get (move.start + i)) :
    (makeAll src width moves data).get x = data.get x := by
  induction moves generalizing data with
  | nil => rfl
  | cons move rest ih =>
      -- The first move changes nothing, so the others still find what they bring.
      have hmove : ∀ y, (Memory.blit src move.origin data move.start width).get y =
          data.get y := by
        intro y
        rw [Memory.get_blit]
        split
        · rename_i hin
          have hsame := h move List.mem_cons_self (y - move.start) (by omega)
          rwa [Nat.add_sub_cancel' hin.1] at hsame
        · rfl
      change (makeAll src width rest _).get x = _
      rw [ih, hmove]
      intro other hother i hi
      rw [hmove]
      exact h other (List.mem_cons_of_mem _ hother) i hi

end SampleMove

/-- Moves are made in order inside the memory, until none is left or one is stuck. -/
inductive Makes (src : Bytes) (width : Nat) (stuck : SampleMove → Prop) :
    List SampleMove → Memory → Except AreaError Unit × Memory → Prop where
  | done (data : Memory) : Makes src width stuck [] data (.ok (), data)
  | stop {move : SampleMove} (moves : List SampleMove) (data : Memory) (fault : AreaError)
      (h : stuck move) : Makes src width stuck (move :: moves) data (.error fault, data)
  | make {move : SampleMove} {moves : List SampleMove} {data : Memory}
      {outcome : Except AreaError Unit × Memory} (hfits : move.Fits width data.size)
      (h : Makes src width stuck moves (Memory.blit src move.origin data move.start width)
        outcome) :
      Makes src width stuck (move :: moves) data outcome

namespace Makes

variable {src : Bytes} {width : Nat} {stuck : SampleMove → Prop} {moves moves' : List SampleMove}
  {data : Memory} {outcome outcome' : Except AreaError Unit × Memory}

theorem size (h : Makes src width stuck moves data outcome) : outcome.2.size = data.size := by
  induction h with
  | done | stop => rfl
  | make hfits h ih => rw [ih, Memory.size_blit]

theorem append_of_ok (h : Makes src width stuck moves data outcome) (hok : outcome.1 = .ok ())
    (h' : Makes src width stuck moves' outcome.2 outcome') :
    Makes src width stuck (moves ++ moves') data outcome' := by
  induction h with
  | done => exact h'
  | stop => cases hok
  | make hfits h ih => exact .make hfits (ih hok h')

theorem append_of_error {fault : AreaError} (h : Makes src width stuck moves data outcome)
    (herror : outcome.1 = .error fault) (moves' : List SampleMove) :
    Makes src width stuck (moves ++ moves') data outcome := by
  induction h with
  | done => cases herror
  | stop moves data fault hstuck => exact .stop _ data fault hstuck
  | make hfits h ih => exact .make hfits (ih herror)

/-- Where only moves that do not fit are stuck, all are made before the first of those, and none of
the others. -/
theorem eq_makeAll (h : Makes src width stuck moves data outcome)
    (hstuck : ∀ move, stuck move → ¬ move.Fits width data.size) :
    outcome.2 =
        SampleMove.makeAll src width (moves.takeWhile (·.Fits width data.size)) data ∧
      (outcome.1 = .ok () ↔ ∀ move ∈ moves, move.Fits width data.size) := by
  induction h with
  | done data => exact ⟨rfl, fun _ => List.forall_mem_nil _, fun _ => rfl⟩
  | @stop move moves data fault hmove =>
      have hnot := hstuck move hmove
      refine ⟨?_, nofun, fun hall => absurd (hall move List.mem_cons_self) hnot⟩
      rw [List.takeWhile_cons_of_neg (by simpa using hnot)]
      rfl
  | @make move moves data outcome hfits h ih =>
      rw [Memory.size_blit] at ih
      obtain ⟨hmemory, hok⟩ := ih hstuck
      refine ⟨?_, ?_⟩
      · rw [List.takeWhile_cons_of_pos (by simpa using hfits)]
        exact hmemory
      · rw [hok, List.forall_mem_cons]
        exact (and_iff_right hfits).symm

end Makes

namespace MappedRing

variable {ring : MappedRing} {g : FrameGeometry} {src : Bytes} {offset frames : Nat}

/-- The move of the sample of `channel` in frame `frame` of the source. -/
def sampleMove (g : FrameGeometry) (offset channel : Nat) (layout : AreaLayout) (frame : Nat) :
    SampleMove :=
  ⟨frame * g.frameBytes + channel * g.sampleBytes, layout.address (offset + frame)⟩

/-- The moves of a scatter in the order in which they are made. -/
def sampleMoves (g : FrameGeometry) (offset frames : Nat) (channel : Nat)
    (layouts : List AreaLayout) : List SampleMove :=
  (layouts.zipIdx channel).flatMap fun (layout, channel) =>
    (List.range' 0 frames).map (sampleMove g offset channel layout)

theorem mem_sampleMoves {layouts : List AreaLayout} {move : SampleMove} :
    move ∈ sampleMoves g offset frames 0 layouts ↔
      ∃ channel layout, layouts[channel]? = some layout ∧
        ∃ frame < frames, move = sampleMove g offset channel layout frame := by
  simp only [sampleMoves, List.mem_flatMap, List.mem_map, List.mem_range'_1, Prod.exists]
  constructor
  · rintro ⟨layout, channel, hmem, frame, hframe, rfl⟩
    rw [List.mem_zipIdx_iff_getElem?] at hmem
    exact ⟨channel, layout, hmem, frame, by omega, rfl⟩
  · rintro ⟨channel, layout, hlayout, frame, hframe, rfl⟩
    refine ⟨layout, channel, ?_, frame, by omega, rfl⟩
    rw [List.mem_zipIdx_iff_getElem?]
    exact hlayout

/-- The moves of a ring are those of the samples of its channels. -/
theorem mem_sampleMoves_toList {layouts : Array AreaLayout} {move : SampleMove} :
    move ∈ sampleMoves g offset frames 0 layouts.toList ↔
      ∃ channel layout, layouts[channel]? = some layout ∧
        ∃ frame < frames, move = sampleMove g offset channel layout frame := by
  simp only [mem_sampleMoves, Array.getElem?_toList]

/-- Byte `x` of the memory belongs to the sample of a channel in a frame. -/
def InSample (ring : MappedRing) (g : FrameGeometry) (channel frame x : Nat) : Prop :=
  ∃ layout, ring.layouts[channel]? = some layout ∧ layout.address frame ≤ x ∧
    x < layout.address frame + g.sampleBytes

/-- The move of a sample reaches the bytes of the sample. -/
theorem reaches_iff_inSample {channel : Nat} {layout : AreaLayout}
    (hlayout : ring.layouts[channel]? = some layout) {frame x : Nat} :
    (sampleMove g offset channel layout frame).Reaches g.sampleBytes x ↔
      ring.InSample g channel (offset + frame) x := by
  constructor
  · intro hreaches
    exact ⟨layout, hlayout, hreaches⟩
  · rintro ⟨found, hfound, hin⟩
    obtain rfl := Option.some.inj (hlayout.symm.trans hfound)
    exact hin

/-- A byte that is in no sample of the frames is as before. -/
theorem get_makeAll_of_not_inSample {x : Nat} (h : ∀ channel, ∀ frame < frames,
    ¬ ring.InSample g channel (offset + frame) x) :
    (SampleMove.makeAll src g.sampleBytes (sampleMoves g offset frames 0 ring.layouts.toList)
      ring.data).get x = ring.data.get x := by
  apply SampleMove.get_makeAll_of_not_reaches
  intro move hmove hreaches
  obtain ⟨channel, layout, hlayout, frame, hframe, rfl⟩ := mem_sampleMoves_toList.mp hmove
  exact h channel frame hframe ((reaches_iff_inSample hlayout).mp hreaches)

/-- A byte that is in one sample of the frames is the source's. -/
theorem get_makeAll_of_inSample {channel frame byte : Nat} {layout : AreaLayout}
    (hlayout : ring.layouts[channel]? = some layout) (hframe : frame < frames)
    (hbyte : byte < g.sampleBytes)
    (hinside : layout.address (offset + frame) + g.sampleBytes ≤ ring.data.size)
    (hsingle : ∀ channel', ∀ frame' < frames,
      ring.InSample g channel' (offset + frame') (layout.address (offset + frame) + byte) →
        channel' = channel ∧ frame' = frame) :
    (SampleMove.makeAll src g.sampleBytes (sampleMoves g offset frames 0 ring.layouts.toList)
        ring.data).get (layout.address (offset + frame) + byte) =
      src.getD (frame * g.frameBytes + channel * g.sampleBytes + byte) 0 := by
  have hmem : sampleMove g offset channel layout frame ∈
      sampleMoves g offset frames 0 ring.layouts.toList :=
    mem_sampleMoves_toList.mpr ⟨channel, layout, hlayout, frame, hframe, rfl⟩
  have hreaches : (sampleMove g offset channel layout frame).Reaches g.sampleBytes
      (layout.address (offset + frame) + byte) :=
    ⟨Nat.le_add_right _ _, Nat.add_lt_add_left hbyte _⟩
  have hx : layout.address (offset + frame) + byte < ring.data.size :=
    Nat.lt_of_lt_of_le (Nat.add_lt_add_left hbyte _) hinside
  rw [SampleMove.get_makeAll_of_mem _ hmem hreaches hx]
  · simp only [sampleMove, Nat.add_sub_cancel_left]
  · intro other hother hreach
    obtain ⟨channel', layout', hlayout', frame', hframe', rfl⟩ := mem_sampleMoves_toList.mp hother
    obtain ⟨rfl, rfl⟩ := hsingle channel' frame' hframe' ((reaches_iff_inSample hlayout').mp hreach)
    obtain rfl := Option.some.inj (hlayout'.symm.trans hlayout)
    rfl

/-- Storing the samples of a channel makes their moves, up to a sample without a place. -/
theorem makes_storeChannel {stuck : SampleMove → Prop} {channel : Nat} {layout : AreaLayout}
    {frame count : Nat} {data : Memory} (hstuck : ∀ i < count,
      ¬ layout.Placed (offset + (frame + i)) g.sampleBytes data.size →
        stuck (sampleMove g offset channel layout (frame + i))) :
    Makes src g.sampleBytes stuck
      ((List.range' frame count).map (sampleMove g offset channel layout)) data
      (storeChannel g src offset channel layout frame count data) := by
  induction count generalizing frame data with
  | zero => exact .done data
  | succ count ih =>
      rw [storeChannel, List.range'_succ, List.map_cons]
      cases hstart : layout.sampleStart channel (Count.addSat offset frame) g.sampleBytes
          data.size with
      | error fault =>
          apply Makes.stop
          apply hstuck 0 (Nat.succ_pos _)
          rw [Nat.add_zero]
          intro hplaced
          rw [(AreaLayout.sampleStart_addSat_eq_ok_iff g.sampleBytes_pos).mpr ⟨hplaced, rfl⟩]
            at hstart
          cases hstart
      | ok start =>
          obtain ⟨⟨-, -, hinside⟩, rfl⟩ :=
            (AreaLayout.sampleStart_addSat_eq_ok_iff g.sampleBytes_pos).mp hstart
          refine .make hinside (ih ?_)
          intro i hi
          rw [Memory.size_blit, Nat.add_assoc, Nat.add_comm 1 i]
          exact hstuck (i + 1) (Nat.succ_lt_succ hi)

/-- Storing channel by channel makes the moves of all channels, up to a sample without a place. -/
theorem makes_storeChannels {stuck : SampleMove → Prop} {channel : Nat}
    {layouts : List AreaLayout} {data : Memory}
    (hstuck : ∀ (i : Nat) (layout : AreaLayout), layouts[i]? = some layout → ∀ frame < frames,
      ¬ layout.Placed (offset + frame) g.sampleBytes data.size →
        stuck (sampleMove g offset (channel + i) layout frame)) :
    Makes src g.sampleBytes stuck (sampleMoves g offset frames channel layouts) data
      (storeChannels g src offset frames channel layouts data) := by
  induction layouts generalizing channel data with
  | nil => exact .done data
  | cons layout rest ih =>
      have hfirst : Makes src g.sampleBytes stuck
          ((List.range' 0 frames).map (sampleMove g offset channel layout)) data
          (storeChannel g src offset channel layout 0 frames data) := by
        apply makes_storeChannel
        intro i hi
        rw [Nat.zero_add]
        exact hstuck 0 layout List.getElem?_cons_zero i hi
      rw [storeChannels, sampleMoves, List.zipIdx_cons, List.flatMap_cons]
      rcases hstore : storeChannel g src offset channel layout 0 frames data with
        ⟨fault | ⟨⟩, data'⟩
      · rw [hstore] at hfirst
        exact hfirst.append_of_error rfl _
      · rw [hstore] at hfirst
        have hsize : data'.size = data.size := hfirst.size
        apply hfirst.append_of_ok rfl
        apply ih
        intro i other hother
        rw [hsize, Nat.add_assoc, Nat.add_comm 1 i]
        exact hstuck (i + 1) other hother

/-- A scatter makes the moves of all samples, up to a sample without a place. -/
theorem makes_storeInterleaved (hareas : ring.layouts.size = g.channelCount)
    {stuck : SampleMove → Prop}
    (hstuck : ∀ (channel : Nat) (layout : AreaLayout), ring.layouts[channel]? = some layout →
      ∀ frame < g.bytesToFrames src.size,
        ¬ layout.Placed (offset + frame) g.sampleBytes ring.data.size →
          stuck (sampleMove g offset channel layout frame)) :
    Makes src g.sampleBytes stuck
      (sampleMoves g offset (g.bytesToFrames src.size) 0 ring.layouts.toList) ring.data
      (ring.storeInterleaved g offset src) := by
  rw [storeInterleaved, if_neg (not_not_intro hareas)]
  apply makes_storeChannels
  intro channel layout hlayout
  rw [Array.getElem?_toList] at hlayout
  rw [Nat.zero_add]
  exact hstuck channel layout hlayout

/-- Storing keeps the size of the memory, whether or not every sample has a place. -/
theorem size_storeInterleaved : (ring.storeInterleaved g offset src).2.size = ring.data.size := by
  by_cases hareas : ring.layouts.size = g.channelCount
  · have hmakes : Makes src g.sampleBytes (fun _ => True) _ ring.data
        (ring.storeInterleaved g offset src) :=
      makes_storeInterleaved hareas fun _ _ _ _ _ _ => trivial
    exact hmakes.size
  · rw [storeInterleaved, if_pos hareas]

/-- The areas of a ring all lie in its memory. -/
theorem getElem?_areas (channel : Nat) :
    ring.areas.areas[channel]? = ring.layouts[channel]?.map (⟨0, ·⟩) := by
  simp [areas]

@[simp] theorem memory_areas (layout : AreaLayout) :
    ring.areas.memory ⟨0, layout⟩ = ring.data := rfl

@[simp] theorem size_areas : ring.areas.areas.size = ring.layouts.size := by
  simp [areas]

/-- The moves of a scatter before the first one that does not fit into the memory. -/
def fittingMoves (ring : MappedRing) (g : FrameGeometry) (offset frames : Nat) :
    List SampleMove :=
  (sampleMoves g offset frames 0 ring.layouts.toList).takeWhile
    (·.Fits g.sampleBytes ring.data.size)

theorem of_mem_fittingMoves {move : SampleMove} (h : move ∈ ring.fittingMoves g offset frames) :
    move ∈ sampleMoves g offset frames 0 ring.layouts.toList ∧
      move.Fits g.sampleBytes ring.data.size :=
  ⟨(List.takeWhile_sublist _).mem h, by simpa using List.mem_takeWhile_imp h⟩

/-- Where only the end of the memory is in the way, the samples are stored up to the first one that
ends behind it. -/
theorem storeInterleaved_eq_fittingMoves (hareas : ring.layouts.size = g.channelCount)
    (h : ∀ (channel : Nat) (layout : AreaLayout), ring.layouts[channel]? = some layout →
      ∀ frame < g.bytesToFrames src.size,
        layout.address (offset + frame) + g.sampleBytes ≤ ring.data.size →
          layout.Placed (offset + frame) g.sampleBytes ring.data.size) :
    (ring.storeInterleaved g offset src).2 = SampleMove.makeAll src g.sampleBytes
        (ring.fittingMoves g offset (g.bytesToFrames src.size)) ring.data ∧
      ((ring.storeInterleaved g offset src).1 = .ok () ↔
        ∀ move ∈ sampleMoves g offset (g.bytesToFrames src.size) 0 ring.layouts.toList,
          move.Fits g.sampleBytes ring.data.size) := by
  have hmakes : Makes src g.sampleBytes (fun move => ¬ move.Fits g.sampleBytes ring.data.size) _
      ring.data (ring.storeInterleaved g offset src) :=
    makes_storeInterleaved hareas fun channel layout hlayout frame hframe hnot hfits =>
      hnot (h channel layout hlayout frame hframe hfits)
  exact hmakes.eq_makeAll fun _ => id

/-- Where every sample of the frames has a place, all of them are stored. -/
theorem storeInterleaved_eq_ok (hareas : ring.layouts.size = g.channelCount)
    (h : ∀ (channel : Nat) (layout : AreaLayout), ring.layouts[channel]? = some layout →
      ∀ frame < g.bytesToFrames src.size,
        layout.Placed (offset + frame) g.sampleBytes ring.data.size) :
    ring.storeInterleaved g offset src =
      (.ok (), SampleMove.makeAll src g.sampleBytes
        (sampleMoves g offset (g.bytesToFrames src.size) 0 ring.layouts.toList) ring.data) := by
  obtain ⟨hmemory, hok⟩ := storeInterleaved_eq_fittingMoves hareas
    fun channel layout hlayout frame hframe _ => h channel layout hlayout frame hframe
  have hfits : ∀ move ∈ sampleMoves g offset (g.bytesToFrames src.size) 0 ring.layouts.toList,
      move.Fits g.sampleBytes ring.data.size := by
    intro move hmove
    obtain ⟨channel, layout, hlayout, frame, hframe, rfl⟩ := mem_sampleMoves_toList.mp hmove
    exact (h channel layout hlayout frame hframe).2.2
  rw [fittingMoves,
    List.takeWhile_eq_self_iff.mpr fun move hmove => decide_eq_true (hfits move hmove)] at hmemory
  exact Prod.ext (hok.mpr hfits) hmemory

end MappedRing

end FrameTee
