import FrameTee.Device.Scripted
import FrameTee.Proofs.Area.Strided
import FrameTee.Proofs.Stack.Lockstep

/-!
# A commit span by span

A tee records the frames of a commit as they lie in the mapped ring of the stream below, which may
be any stream: one write for each span, in order, up to the first span that cannot be read or
written (`Layer.Records`). The spans begin where the stream below stood before the commit. If all of
the frames lie in the memory of the ring, the writes together hold these frames in the order of the
stream, also when they go round the ring several times.

For all this there has to be room for each span. A stream may report a ring so large that there is
none for the frames up to its end, and a commit that comes to such a span has no answer.
-/

namespace FrameTee

open RingSpans

variable {δ μ η : Type}

/-- The bytes of writes, one after the other. -/
def MediumCall.payload : List (MediumCall η) → Bytes
  | [] => #[]
  | write _ bytes _ :: rest => bytes ++ payload rest
  | _ :: rest => payload rest

namespace MappedRing

variable {ring : MappedRing} {s : StreamSetup} {position frames n : Nat}

/-- The spans of a ring can be read, and these requests write them. -/
inductive Gathers (ring : MappedRing) (g : FrameGeometry) :
    List RingSpan → List SinkRequest → Prop where
  | nil : Gathers ring g [] []
  | cons {span : RingSpan} {spans : List RingSpan} {requests : List SinkRequest} {data : Bytes}
      (hdata : ring.copyInterleaved g span.offset span.frames = .ok data)
      (h : Gathers ring g spans requests) :
      Gathers ring g (span :: spans) (.write data span.frames :: requests)

/-- The write of a span of a ring that was taken in full. -/
def spanCall (ring : MappedRing) (g : FrameGeometry) (handle : η) (span : RingSpan) :
    MediumCall η :=
  .write handle (ring.areas.flatten g span.offset span.frames) (.ok (span.frames * g.frameBytes))

/-- Frames of the stream, from a position on, all lie in the memory of a ring of any kind. -/
structure Readable (ring : MappedRing) (s : StreamSetup) (position frames : Nat) : Prop where
  /-- There is one area per channel. -/
  layouts_size : ring.layouts.size = s.geometry.channelCount
  /-- The areas are aligned. -/
  aligned : ∀ layout ∈ ring.layouts, layout.Aligned
  /-- Every sample of the frames ends inside the memory. -/
  inside : ∀ layout ∈ ring.layouts, ∀ i < frames,
    layout.address ((position + i) % s.bufferSize) + s.geometry.sampleBytes ≤ ring.data.size
  /-- The memory has a byte count. -/
  size_lt : ring.data.size < Count.limit
  /-- The ring has a frame count. -/
  capacity_lt : s.bufferSize < Count.limit
  /-- The frames have a byte count. -/
  bytes_lt : frames * s.geometry.frameBytes < Count.limit

/-- A span that ends in the ring holds the frames of the stream one after the other. -/
theorem mod_add_of_fits (hfits : position % s.bufferSize + frames ≤ s.bufferSize) :
    ∀ i < frames, (position + i) % s.bufferSize = position % s.bufferSize + i := by
  intro i hi
  rw [← Nat.mod_add_mod, Nat.mod_eq_of_lt (by omega)]

/-- A span is read as the frames of the stream that it holds. -/
theorem flatten_span (ring : MappedRing) (hchannels : 0 < s.geometry.channelCount)
    (hfits : position % s.bufferSize + frames ≤ s.bufferSize) :
    ring.areas.flatten s.geometry (position % s.bufferSize) frames =
      ring.streamBytes s position frames :=
  flatten_areas (s.geometry.frameBytes_pos hchannels) (mod_add_of_fits hfits)

namespace Readable

theorem left (h : ring.Readable s position (n + frames)) : ring.Readable s position n :=
  { h with
    inside := fun layout hlayout i hi => h.inside layout hlayout i (by omega)
    bytes_lt := Nat.lt_of_le_of_lt (Nat.mul_le_mul_right _ (Nat.le_add_right _ _)) h.bytes_lt }

theorem right (h : ring.Readable s position (n + frames)) :
    ring.Readable s (position + n) frames :=
  { h with
    inside := fun layout hlayout i hi => by
      rw [Nat.add_assoc]
      exact h.inside layout hlayout (n + i) (by omega)
    bytes_lt := Nat.lt_of_le_of_lt (Nat.mul_le_mul_right _ (Nat.le_add_left _ _)) h.bytes_lt }

/-- A span of readable frames can be read, if there is room for it. -/
theorem copy_eq_ok (h : ring.Readable s position frames) (hchannels : 0 < s.geometry.channelCount)
    (hframes : 0 < frames) (hfits : position % s.bufferSize + frames ≤ s.bufferSize)
    (hroom : ring.areas.HasRoom s.geometry frames) :
    ring.copyInterleaved s.geometry (position % s.bufferSize) frames =
      .ok (ring.areas.flatten s.geometry (position % s.bufferSize) frames) := by
  have harea : ∀ (channel : Nat) (area : ChannelArea), ring.areas.areas[channel]? = some area →
      area.layout ∈ ring.layouts ∧ ring.areas.memory area = ring.data := by
    intro channel area hget
    rw [getElem?_areas, Option.map_eq_some_iff] at hget
    obtain ⟨layout, hlayout, rfl⟩ := hget
    exact ⟨Array.mem_of_getElem? hlayout, rfl⟩
  have hcontains : ring.areas.Contains s.geometry (position % s.bufferSize) frames := by
    have hinside : ∀ (channel : Nat) (area : ChannelArea),
        ring.areas.areas[channel]? = some area → ∀ i < frames,
          area.layout.address (position % s.bufferSize + i) + s.geometry.sampleBytes ≤
            ring.data.size := by
      intro channel area hget i hi
      rw [← mod_add_of_fits hfits i hi]
      exact h.inside _ (harea channel area hget).1 i hi
    constructor
    · rw [size_areas, h.layouts_size]
    · exact hchannels
    · exact fun channel area hget => h.aligned _ (harea channel area hget).1
    · intro channel area hget i hi
      rw [(harea channel area hget).2]
      exact hinside channel area hget i hi
    · exact fun channel area hget i hi =>
        Nat.lt_of_le_of_lt (hinside channel area hget i hi) h.size_lt
    · exact Nat.le_of_lt (Nat.lt_of_le_of_lt hfits h.capacity_lt)
    · exact h.bytes_lt
    · exact hroom
  exact hcontains.copyInterleaved_eq_ok hframes

end Readable

end MappedRing

open MappedRing

variable {ring : MappedRing} {s : StreamSetup} {position frames : Nat} {spans : List RingSpan}

/-- Every span of readable frames can be read, if there is room for each. -/
theorem RingSpans.Cuts.copy_eq_ok (h : Cuts s.bufferSize position frames spans)
    (hreadable : ring.Readable s position frames) (hchannels : 0 < s.geometry.channelCount)
    (hroom : ∀ span ∈ spans, ring.areas.HasRoom s.geometry span.frames) :
    ∀ span ∈ spans, ring.copyInterleaved s.geometry span.offset span.frames =
      .ok (ring.areas.flatten s.geometry span.offset span.frames) := by
  induction h with
  | none => exact List.forall_mem_nil _
  | last position hframes hfits =>
      have hspan := List.forall_mem_singleton.mp hroom
      exact List.forall_mem_singleton.mpr (hreadable.copy_eq_ok hchannels hframes hfits hspan)
  | more position hn hend hframes h ih =>
      obtain ⟨hspan, hrest⟩ := List.forall_mem_cons.mp hroom
      exact List.forall_mem_cons.mpr
        ⟨hreadable.left.copy_eq_ok hchannels hn (Nat.le_of_eq hend) hspan,
          ih hreadable.right hrest⟩

/-- The spans together hold the frames in the order of the stream. -/
theorem RingSpans.Cuts.payload_eq (h : Cuts s.bufferSize position frames spans)
    (hchannels : 0 < s.geometry.channelCount) (ring : MappedRing) (handle : η) :
    MediumCall.payload (spans.map (ring.spanCall s.geometry handle)) =
      ring.streamBytes s position frames := by
  induction h with
  | none position =>
      apply Array.ext
      · simp [MediumCall.payload]
      · intro i hi
        exact absurd hi (Nat.not_lt_zero i)
  | last position hframes hfits =>
      rw [← flatten_span ring hchannels hfits]
      exact Array.append_empty
  | more position hn hend hframes h ih =>
      rw [streamBytes_add, ← flatten_span ring hchannels (Nat.le_of_eq hend), ← ih]
      rfl

/-- What a tee makes of the spans of a ring that it is to record. All spans are written, or one of
them cannot be read or cannot be written. The spans before that one are then written and counted,
and nothing is done after it; a write that failed is the last. -/
inductive Layer.Records (ring : MappedRing) (g : FrameGeometry) (spans : List RingSpan)
    (layer : Layer η) : Except StreamError Unit → Layer η → List (MediumCall η) → Prop where
  | all {requests : List SinkRequest} {calls : List (MediumCall η)}
      (hread : ring.Gathers g spans requests) (hcalls : Answered layer.sink.handle requests calls) :
      Records ring g spans layer (.ok ()) (layer.countingAll requests) calls
  | unread {before after : List RingSpan} {span : RingSpan} {requests : List SinkRequest}
      {calls : List (MediumCall η)} {e : AreaError} (hspans : spans = before ++ span :: after)
      (hread : ring.Gathers g before requests)
      (hcalls : Answered layer.sink.handle requests calls)
      (herror : ring.copyInterleaved g span.offset span.frames = .error e) :
      Records ring g spans layer (.error (.area e)) (layer.countingAll requests) calls
  | unwritten {before after : List RingSpan} {span : RingSpan} {requests : List SinkRequest}
      {calls : List (MediumCall η)} {data : Bytes} {reply : Except IoError Nat} {e : SinkError}
      (hspans : spans = before ++ span :: after) (hread : ring.Gathers g before requests)
      (hcalls : Answered layer.sink.handle requests calls)
      (hdata : ring.copyInterleaved g span.offset span.frames = .ok data)
      (hfails : (SinkRequest.write data span.frames).Fails layer.sink.label reply e) :
      Records ring g spans layer (.error (.sink e)) (layer.countingAll requests)
        (calls ++ [.write layer.sink.handle data reply])

namespace Layer

variable {g : FrameGeometry} {layer layer' : Layer η} {result : Except StreamError Unit}
  {calls : List (MediumCall η)}

/-- A span that is read and written comes before the rest. -/
theorem Records.cons {span : RingSpan} {data : Bytes} {reply : Except IoError Nat}
    (hdata : ring.copyInterleaved g span.offset span.frames = .ok data)
    (hgranted : (SinkRequest.write data span.frames).GrantedBy reply)
    (h : Records ring g spans (layer.counting (.write data span.frames)) result layer' calls) :
    Records ring g (span :: spans) layer result layer'
      (.write layer.sink.handle data reply :: calls) := by
  cases h with
  | all hread hcalls => exact .all (.cons hdata hread) (.cons hgranted hcalls)
  | @unread before after failing requests calls e hspans hread hcalls herror =>
      have hsplit : span :: spans = (span :: before) ++ failing :: after := by
        rw [hspans]
        rfl
      exact .unread hsplit (.cons hdata hread) (.cons hgranted hcalls) herror
  | @unwritten before after failing requests calls data' reply' e hspans hread hcalls hdata'
      hfails =>
      have hsplit : span :: spans = (span :: before) ++ failing :: after := by
        rw [hspans]
        rfl
      have hall : Answered layer.sink.handle (.write data span.frames :: requests)
          (.write layer.sink.handle data reply :: calls) := .cons hgranted hcalls
      exact .unwritten hsplit (.cons hdata hread) hall hdata' hfails

theorem calls_of_gathers {requests : List SinkRequest} {handle : η}
    (h : ring.Gathers g spans requests) (hcalls : Answered handle requests calls)
    (hread : ∀ span ∈ spans, ring.copyInterleaved g span.offset span.frames =
      .ok (ring.areas.flatten g span.offset span.frames)) :
    calls = spans.map (ring.spanCall g handle) := by
  induction h generalizing calls with
  | nil =>
      cases hcalls
      rfl
  | @cons span spans requests data hdata h ih =>
      obtain ⟨hfirst, hrest⟩ := List.forall_mem_cons.mp hread
      obtain rfl := Except.ok.inj (hdata.symm.trans hfirst)
      cases hcalls with
      | cons hgranted hcalls =>
          obtain rfl := hgranted
          rw [List.map_cons, ← ih hcalls hrest, spanCall, ← ChannelAreas.size_flatten]
          rfl

/-- Spans that can be read are written one by one, if the sink accepts what it is given. -/
theorem Records.calls_eq (h : Records ring g spans layer result layer' calls)
    (hread : ∀ span ∈ spans, ring.copyInterleaved g span.offset span.frames =
      .ok (ring.areas.flatten g span.offset span.frames))
    (hfull : ∀ call ∈ calls, call.isFullWrite = true) :
    result = .ok () ∧ calls = spans.map (ring.spanCall g layer.sink.handle) := by
  cases h with
  | all hgathers hcalls => exact ⟨rfl, calls_of_gathers hgathers hcalls hread⟩
  | @unread before after span _ _ e hspans _ _ herror =>
      have hmem : span ∈ spans := by
        rw [hspans]
        exact List.mem_append_right _ List.mem_cons_self
      rw [hread span hmem] at herror
      cases herror
  | unwritten _ _ _ _ hfails =>
      have hlast := hfull _ (List.mem_append_right _ List.mem_cons_self)
      exact absurd (hlast.symm.trans (hfails.isFullWrite_eq_false _)) nofun

/-- What the spans come to is answered, if there is room for each. -/
theorem Records.isAnswer (h : Records ring g spans layer result layer' calls)
    (hroom : ∀ span ∈ spans, ring.areas.HasRoom g span.frames) {e : StreamError}
    (herror : result = .error e) : e.isAnswer = true := by
  cases h with
  | all => cases herror
  | @unread before after span _ _ fault hspans _ _ hcopy =>
      obtain rfl := Except.error.inj herror
      have hmem : span ∈ spans := by
        rw [hspans]
        exact List.mem_append_right _ List.mem_cons_self
      exact ChannelAreas.isAnswer_of_copyInterleaved hcopy (hroom span hmem)
  | unwritten =>
      obtain rfl := Except.error.inj herror
      rfl

variable [Medium μ η]

/-- A tee records the spans of a ring in order, up to the first that cannot be read or written. -/
theorem records_visitAll (ring : MappedRing) (hpos : 0 < g.frameBytes)
    (hspans : ∀ span ∈ spans, 0 < span.frames) (layer : Layer η) (w : World (Traced μ η)) :
    ∃ calls, (visitAll (recordSpan ring g) spans (layer, w)).2.2.media.calls =
        w.media.calls ++ calls ∧
      Records ring g spans layer (visitAll (recordSpan ring g) spans (layer, w)).1
        (visitAll (recordSpan ring g) spans (layer, w)).2.1 calls := by
  induction spans generalizing layer w with
  | nil => exact ⟨[], (List.append_nil _).symm, .all .nil .nil⟩
  | cons span rest ih =>
      obtain ⟨hfirst, hrest⟩ := List.forall_mem_cons.mp hspans
      simp only [visitAll, recordSpan]
      cases hdata : ring.copyInterleaved g span.offset span.frames with
      | error e =>
          have hsplit : span :: rest = [] ++ span :: rest := rfl
          exact ⟨[], (List.append_nil _).symm, .unread hsplit .nil .nil hdata⟩
      | ok data =>
          dsimp only
          have hcarried := carried_write (μ := Traced μ η) data span.frames layer
            (w.report (.ringSpan span.offset span.frames))
          rw [carryOut] at hcarried
          generalize record data span.frames layer (w.report (.ringSpan span.offset span.frames)) =
            written at hcarried
          cases hcarried with
          | nothing frames hempty hmedia =>
              -- A span has frames, and frames have bytes.
              have hsize := ChannelAreas.size_of_copyInterleaved_eq_ok hdata
              have hbytes := Nat.mul_pos hfirst hpos
              rw [(SinkRequest.write.inj hempty).1] at hsize
              exact absurd hsize (Nat.ne_of_lt hbytes)
          | far frames bytes hback => cases hback
          | @granted w' _ hgranted hmedia =>
              rw [SinkRequest.send_traced] at hgranted hmedia
              obtain ⟨calls, hcalls, hrecords⟩ :=
                ih hrest (layer.counting (.write data span.frames)) w'
              refine ⟨_, ?_, hrecords.cons hdata hgranted⟩
              rw [hcalls, hmedia, List.append_assoc]
              rfl
          | @failed w' e _ hfails hmedia =>
              rw [SinkRequest.send_traced] at hfails hmedia
              have hsplit : span :: rest = [] ++ span :: rest := rfl
              refine ⟨_, ?_, .unwritten hsplit .nil .nil hdata hfails⟩
              rw [hmedia]
              rfl

end Layer

namespace TeeStack

variable [Device δ] [Medium μ η]

/-- A commit that the stream below has answered with a count, however large, is recorded from where
that stream stood before. Without a ring it fails, and the sink is not asked. Otherwise it is
recorded span by span: of the frames in the order of the stream there is one write for each ring
that they begin, and each but the last ends at the end of the ring. The first span that cannot be
read or written decides the answer, the spans before it are written and counted, and no later one is
tried. If there is room for every span, the commit is answered; and if all frames lie in the memory
of the ring then and the sink accepts every write in full, the writes together hold exactly these
frames. This is said for counters that are counts. -/
theorem commit_span_by_span (below : TeeStack δ η) (layer : Layer η) (frames : Nat)
    (w : World (Traced μ η)) {n : Nat} {s : StreamSetup}
    (hanswer : (below.commit frames w).result = .ok n) (hn : 0 < n)
    (hsetup : Device.setup (below.commit frames w).stack.device = .ok s)
    (hchannels : 0 < s.geometry.channelCount) :
    let inner := below.commit frames w
    let whole := (⟨layer :: below.layers, below.device⟩ : TeeStack δ η).commit frames w
    let position := Device.applPtr below.device
    let spans := ((RingCursor.ofPosition position s.bufferSize).split n).toList
    whole.stack.Countable →
      whole.stack.device = inner.stack.device ∧
      (s.bufferSize = 0 →
        whole.result = .error (.invalidArgument .emptyRing) ∧
          whole.stack.layers = layer :: inner.stack.layers ∧
          whole.world.media = inner.world.media) ∧
      (0 < s.bufferSize → ∀ ring, Device.mappedRing inner.stack.device = .ok ring →
        spans.length = (position % s.bufferSize + n + s.bufferSize - 1) / s.bufferSize ∧
        (∀ span ∈ spans.dropLast, span.offset + span.frames = s.bufferSize) ∧
        ∃ result layer' calls, whole.result = result.map (fun _ => n) ∧
          whole.stack.layers = layer' :: inner.stack.layers ∧
          whole.world.media.calls = inner.world.media.calls ++ calls ∧
          layer.Records ring s.geometry spans result layer' calls ∧
          ((∀ span ∈ spans, ring.areas.HasRoom s.geometry span.frames) →
            (∀ e, result = .error e → e.isAnswer = true) ∧
            (ring.Readable s position n → (∀ call ∈ calls, call.isFullWrite = true) →
              whole.result = .ok n ∧
                calls = spans.map (ring.spanCall s.geometry layer.sink.handle) ∧
                MediumCall.payload calls = ring.streamBytes s position n))) := by
  intro inner whole position spans _
  let own := Layer.recordCommit position inner.stack.device n layer inner.world
  have hwhole : whole = ⟨own.1.map fun _ => n,
      ⟨own.2.1 :: inner.stack.layers, inner.stack.device⟩, own.2.2⟩ :=
    recorded_cons hanswer hn
  rw [hwhole]
  refine ⟨rfl, ?_, ?_⟩
  · intro hempty
    have hown : own = (.error (.invalidArgument .emptyRing), layer, inner.world) := by
      simp only [own, inner, Layer.recordCommit, hsetup, if_pos hempty]
    rw [hown]
    exact ⟨rfl, rfl, rfl⟩
  · intro hpos ring hring
    have hcuts : Cuts s.bufferSize position n spans := cuts_toList hpos position n
    have hown : own = visitAll (Layer.recordSpan ring s.geometry) spans (layer, inner.world) := by
      rw [← walk_eq_visitAll]
      simp only [own, inner, Layer.recordCommit, hsetup, if_neg (Nat.ne_of_gt hpos)]
      simp only [inner] at hring
      rw [hring]
    obtain ⟨calls, hcalls, hrecords⟩ := Layer.records_visitAll ring
      (s.geometry.frameBytes_pos hchannels) (fun span hspan => (bounds_of_mem_toList hspan).1) layer
      inner.world
    rw [← hown] at hcalls hrecords
    refine ⟨hcuts.length_eq hn, hcuts.end_eq, own.1, own.2.1, calls, rfl, rfl, hcalls, hrecords, ?_⟩
    intro hroom
    refine ⟨fun e => hrecords.isAnswer hroom, ?_⟩
    intro hreadable hfull
    obtain ⟨hresult, rfl⟩ := hrecords.calls_eq (hcuts.copy_eq_ok hreadable hchannels hroom) hfull
    exact ⟨congrArg (Except.map fun _ => n) hresult, rfl, hcuts.payload_eq hchannels ring _⟩

/-- A tee over a stream that was asked to commit two frames and answers that it has committed ten of
a ring of four. The ring is gone round more than twice, in four writes. -/
theorem commit_span_by_span_round_and_round :
    let device : ScriptedDevice :=
      { name := "script", direction := .playback, state := .running
        setup := some ⟨⟨1, .u8⟩, 8000, 4⟩, ring := .ofBytes #[10, 11, 12, 13], areas := #[⟨0, 8⟩]
        applPtr := 3, replies := [.ok 10] }
    let w₀ : World (Traced Storage Handle) := { media := { media := { writers := #[{}] } } }
    let tee : Layer Handle := ⟨.ofWriter "copy" (.writer 0), true, .playback, {}⟩
    let whole := TeeStack.commit ⟨[tee], device⟩ 2 w₀
    whole.result = .ok 10 ∧ whole.world.media.calls.length = 4 ∧
      MediumCall.payload whole.world.media.calls = #[13, 10, 11, 12, 13, 10, 11, 12, 13, 10] := by
  intro device w₀ tee whole
  have hreadable : MappedRing.Readable ⟨device.ring, device.areas⟩ ⟨⟨1, .u8⟩, 8000, 4⟩ 3 10 := by
    constructor <;> decide +kernel
  have hfull : ∀ call ∈ whole.world.media.calls, call.isFullWrite = true := by
    rw [← List.all_eq_true]
    decide +kernel
  have hanswer : ((bare device : TeeStack ScriptedDevice Handle).commit 2 w₀).result = .ok 10 := rfl
  have hcountable : whole.stack.Countable := by decide +kernel
  have hroom : ∀ span ∈ ((RingCursor.ofPosition 3 4).split 10).toList,
      (MappedRing.areas ⟨device.ring, device.areas⟩).HasRoom ⟨1, .u8⟩ span.frames :=
    fun _ _ hnone => absurd hnone (by decide +kernel)
  obtain ⟨-, -, hring⟩ := commit_span_by_span (bare device) tee 2 w₀ hanswer (by decide)
    (s := ⟨⟨1, .u8⟩, 8000, 4⟩) rfl (by decide) hcountable
  obtain ⟨hlength, -, result, layer', calls, -, -, hcalls, -, hwritten⟩ := hring (by decide) _ rfl
  obtain rfl : whole.world.media.calls = calls := hcalls
  obtain ⟨-, hwritten⟩ := hwritten hroom
  obtain ⟨hresult, hspans, hpayload⟩ := hwritten hreadable hfull
  refine ⟨hresult, ?_, ?_⟩
  · rw [hspans, List.length_map, hlength]
    decide +kernel
  · rw [hpayload]
    decide +kernel

/-- A stream that claims to have committed more frames of a ring of two channels than there is room
for leaves the call without an answer. -/
theorem not_forall_answered_commit : ¬ ∀ (device : ScriptedDevice) (tee : Layer Handle)
    (frames : Nat) (w : World (Traced Storage Handle)) (n : Nat) (s : StreamSetup),
    ((bare device : TeeStack ScriptedDevice Handle).commit frames w).result = .ok n → 0 < n →
      device.setup = some s → 0 < s.geometry.channelCount → 0 < s.bufferSize →
        ∀ e, (TeeStack.commit ⟨[tee], device⟩ frames w).result = .error e → e.isAnswer = true := by
  intro h
  let device : ScriptedDevice :=
    { name := "script", direction := .playback, state := .running
      setup := some ⟨⟨2, .u8⟩, 8000, 0x4000000000000000⟩, ring := .zeros 8
      areas := #[⟨0, 8⟩, ⟨32, 8⟩], applPtr := 0, replies := [.ok 0x4000000000000000] }
  let w : World (Traced Storage Handle) := { media := { media := { writers := #[{}] } } }
  let tee : Layer Handle := ⟨.ofWriter "copy" (.writer 0), true, .playback, {}⟩
  have hresult : (TeeStack.commit ⟨[tee], device⟩ 1 w).result =
      .error (.area .capacityOverflow) := by
    cbv
  have hanswer := h device tee 1 w 0x4000000000000000 _ rfl (by decide) rfl (by decide) (by decide)
    _ hresult
  cases hanswer

end TeeStack

end FrameTee
