import FrameTee.Proofs.Area.Planar
import FrameTee.Proofs.Sink.Trace
import FrameTee.Proofs.Stack.Transfer

/-!
# What recordings ask of the sink

A recording comes down to requests to the sink of the tee, one after the other. `Layer.carryOut` is
one request, and `Layer.Carried` says all that can come of it. A whole recording is described by the
requests that it makes and by what it refuses in the end without asking the sink
(`Recording.Asks`). Both come from the device and the buffers alone: a tee cannot ask for anything
else than the tees below it have asked for.

## Implementation notes

`Layer.Carries` leaves out what is reported between two requests, which no request depends on.
-/

namespace FrameTee

open RingSpans

variable {δ μ η : Type} [Device δ] [Medium μ η]

/-- Counters after a request that was granted. -/
def SinkRequest.counted (stats : TeeStats) : SinkRequest → TeeStats
  | write bytes frames =>
    { stats with
      framesTeed := stats.framesTeed + frames
      bytesWritten := stats.bytesWritten + bytes.size
      sinkWrites := stats.sinkWrites + 1 }
  | back frames _ => { stats with framesRewound := stats.framesRewound + frames }

namespace Layer

/-- Asks the sink for one thing, and counts it if it is granted. -/
def carryOut : SinkRequest → Recording μ η
  | .write bytes frames => record bytes frames
  | .back frames bytes => fun layer w =>
    match layer.sink.seekBack bytes w with
    | (.error e, w) => (.error (.sink e), layer, w)
    | (.ok _, w) =>
      (.ok (), { layer with stats := (SinkRequest.back frames bytes).counted layer.stats },
        w.report (.sinkRewound frames bytes))

/-- The tee after a request that was granted. -/
def counting (layer : Layer η) (request : SinkRequest) : Layer η :=
  { layer with stats := request.counted layer.stats }

@[simp] theorem sink_counting (layer : Layer η) (request : SinkRequest) :
    (layer.counting request).sink = layer.sink := rfl

/-- All that can come of one request. A write without bytes is counted without a call, and a move
further than a seek can express fails without one. Any other request is granted or fails. -/
inductive Carried (request : SinkRequest) (layer : Layer η) (w : World μ) :
    Except StreamError Unit × Layer η × World μ → Prop where
  | nothing {w' : World μ} (frames : Nat) (hrequest : request = .write #[] frames)
      (hmedia : w'.media = w.media) : Carried request layer w (.ok (), layer.counting request, w')
  | far (frames bytes : Nat) (hrequest : request = .back frames bytes)
      (hfar : Sink.maxDistance < bytes) :
      Carried request layer w (.error (.sink (.seek layer.sink.label .rewindTooFar)), layer, w)
  | granted {w' : World μ} (hcalls : request.Calls)
      (hgranted : request.GrantedBy (request.send layer.sink.handle w.media).1)
      (hmedia : w'.media = (request.send layer.sink.handle w.media).2) :
      Carried request layer w (.ok (), layer.counting request, w')
  | failed {w' : World μ} {e : SinkError} (hcalls : request.Calls)
      (hfails : request.Fails layer.sink.label (request.send layer.sink.handle w.media).1 e)
      (hmedia : w'.media = (request.send layer.sink.handle w.media).2) :
      Carried request layer w (.error (.sink e), layer, w')

theorem carried_write (bytes : Bytes) (frames : Nat) (layer : Layer η) (w : World μ) :
    Carried (.write bytes frames) layer w (carryOut (.write bytes frames) layer w) := by
  simp only [carryOut, record, Sink.write]
  by_cases hempty : bytes.isEmpty
  · rw [if_pos hempty]
    obtain rfl := Array.isEmpty_iff.mp hempty
    exact .nothing frames rfl rfl
  · rw [if_neg hempty]
    have hcalls : (SinkRequest.write bytes frames).Calls := Bool.eq_false_iff.mpr hempty
    rcases hsend : Medium.write layer.sink.handle bytes w.media with ⟨source | taken, media⟩
    · refine .failed hcalls ?_ ?_
      · simp only [SinkRequest.send, hsend]
        exact .write bytes frames source
      · simp only [SinkRequest.send, hsend]
    · dsimp only
      by_cases hfull : taken = bytes.size
      · rw [if_pos hfull]
        refine .granted hcalls ?_ ?_
        · simp only [SinkRequest.send, hsend, SinkRequest.GrantedBy, hfull]
        · simp only [SinkRequest.send, hsend, World.media_report]
      · rw [if_neg hfull]
        refine .failed hcalls ?_ ?_
        · simp only [SinkRequest.send, hsend]
          exact .short bytes frames taken hfull
        · simp only [SinkRequest.send, hsend, World.media_report]

theorem carried_back (frames bytes : Nat) (layer : Layer η) (w : World μ) :
    Carried (.back frames bytes) layer w (carryOut (.back frames bytes) layer w) := by
  simp only [carryOut, Sink.seekBack]
  by_cases hfar : Sink.maxDistance < bytes
  · rw [if_pos hfar]
    exact .far frames bytes rfl hfar
  · rw [if_neg hfar]
    have hcalls : (SinkRequest.back frames bytes).Calls := Nat.not_lt.mp hfar
    rcases hsend : Medium.seek layer.sink.handle (-(bytes : Int)) w.media with
      ⟨source | position, media⟩
    · refine .failed hcalls ?_ ?_
      · simp only [SinkRequest.send, hsend]
        exact .seek frames bytes source
      · simp only [SinkRequest.send, hsend, World.media_report]
    · refine .granted hcalls ?_ ?_
      · simp only [SinkRequest.send, hsend, SinkRequest.GrantedBy]
        exact ⟨position, rfl⟩
      · simp only [SinkRequest.send, hsend, World.media_report]

/-- A request is granted or fails, and what the medium is after it is up to the medium. -/
theorem carried_carryOut (request : SinkRequest) (layer : Layer η) (w : World μ) :
    Carried request layer w (carryOut request layer w) := by
  cases request with
  | write bytes frames => exact carried_write bytes frames layer w
  | back frames bytes => exact carried_back frames bytes layer w

/-- Requests are made one after the other until one fails, and things may be reported in between.
After the last one the recording is done, or it comes to a fault for which the sink is not asked. -/
inductive Carries : List SinkRequest → Option StreamError → Layer η → World μ →
    Except StreamError Unit × Layer η × World μ → Prop where
  | done {layer : Layer η} {w : World μ} : Carries [] none layer w (.ok (), layer, w)
  | fault {layer : Layer η} {w : World μ} (e : StreamError) :
      Carries [] (some e) layer w (.error e, layer, w)
  | report {requests : List SinkRequest} {fault : Option StreamError} {layer : Layer η}
      {w : World μ} {ended : Except StreamError Unit × Layer η × World μ} (event : LogEvent)
      (hrest : Carries requests fault layer (w.report event) ended) :
      Carries requests fault layer w ended
  | next {request : SinkRequest} {rest : List SinkRequest} {fault : Option StreamError}
      {layer layer' : Layer η} {w w' : World μ}
      {ended : Except StreamError Unit × Layer η × World μ}
      (hrequest : carryOut request layer w = (.ok (), layer', w'))
      (hrest : Carries rest fault layer' w' ended) : Carries (request :: rest) fault layer w ended
  | failed {request : SinkRequest} {rest : List SinkRequest} {fault : Option StreamError}
      {layer layer' : Layer η} {w w' : World μ} {e : StreamError}
      (hrequest : carryOut request layer w = (.error e, layer', w')) :
      Carries (request :: rest) fault layer w (.error e, layer', w')

/-- What every granted request keeps holds at the end, also after a failure if the failing request
keeps it. -/
theorem Carries.keeps {requests : List SinkRequest} {fault : Option StreamError}
    {layer : Layer η} {w : World μ} {ended : Except StreamError Unit × Layer η × World μ}
    {I : Layer η → World μ → Prop} {Q : StreamError → Prop}
    (hreport : ∀ layer w event, I layer w → I layer (w.report event))
    (hrequest : ∀ request ∈ requests, ∀ layer w, I layer w →
      Ends (fun after => I after.1 after.2) (fun e after => Q e → I after.1 after.2)
        (carryOut request layer w))
    (h : Carries requests fault layer w ended) (hstart : I layer w) :
    Ends (fun after => I after.1 after.2) (fun e after => Q e → I after.1 after.2) ended := by
  induction h with
  | done => exact hstart
  | fault e => exact fun _ => hstart
  | report event hrest ih => exact ih hrequest (hreport _ _ event hstart)
  | @next request rest _ layer _ w _ _ hgranted hrest ih =>
      apply ih fun request hmem => hrequest request (List.mem_cons_of_mem _ hmem)
      have hends := hrequest request List.mem_cons_self layer w hstart
      rw [hgranted] at hends
      exact hends
  | @failed request rest _ layer _ w _ e hfailed =>
      have hends := hrequest request List.mem_cons_self layer w hstart
      rw [hfailed] at hends
      exact hends

/-- What every request keeps, granted or not, holds at the end. -/
theorem Carries.keeps_always {requests : List SinkRequest} {fault : Option StreamError}
    {layer : Layer η} {w : World μ} {ended : Except StreamError Unit × Layer η × World μ}
    {I : Layer η → World μ → Prop}
    (hreport : ∀ layer w event, I layer w → I layer (w.report event))
    (hrequest : ∀ request layer w, I layer w →
      I (carryOut request layer w).2.1 (carryOut request layer w).2.2)
    (h : Carries requests fault layer w ended) (hstart : I layer w) :
    I ended.2.1 ended.2.2 := by
  have hends := h.keeps (Q := fun _ => True) hreport (fun request _ layer w hI => by
    have hnext := hrequest request layer w hI
    rcases hcarry : carryOut request layer w with ⟨e | ⟨⟩, after⟩
    · rw [hcarry] at hnext
      exact fun _ => hnext
    · rw [hcarry] at hnext
      exact hnext) hstart
  rcases ended with ⟨e | ⟨⟩, after⟩
  · exact hends trivial
  · exact hends

end Layer

/-- A recording makes requests until one fails, and comes to a fault after the last one, if there is
one. Neither depends on the tee. -/
def Recording.Asks (requests : List SinkRequest) (fault : Option StreamError)
    (recording : Recording μ η) : Prop :=
  ∀ layer w, Layer.Carries requests fault layer w (recording layer w)

/-- A recording asks for nothing but whole frames of a geometry. -/
def Recording.Fits (g : FrameGeometry) (recording : Recording μ η) : Prop :=
  ∃ requests fault, (∀ request ∈ requests, request.Fits g) ∧ recording.Asks requests fault

namespace Layer

/-- A request alone asks for itself. -/
theorem asks_carryOut (request : SinkRequest) :
    (carryOut request : Recording μ η).Asks [request] none := by
  intro layer w
  rcases hrequest : carryOut request layer w with ⟨e | ⟨⟩, layer', w'⟩
  · exact .failed hrequest
  · exact .next hrequest .done

theorem fits_carryOut {g : FrameGeometry} {request : SinkRequest} (h : request.Fits g) :
    (carryOut request : Recording μ η).Fits g :=
  ⟨[request], none, List.forall_mem_singleton.mpr h, asks_carryOut request⟩

/-- A fault at once asks for nothing. -/
theorem fits_fault (g : FrameGeometry) {recording : Recording μ η} (e : StreamError)
    (h : ∀ layer w, recording layer w = (.error e, layer, w)) : recording.Fits g := by
  refine ⟨[], some e, List.forall_mem_nil _, fun layer w => ?_⟩
  rw [h]
  exact .fault e

end Layer

/-- A device reports no other geometry than this. -/
def Device.Shaped (g : FrameGeometry) (device : δ) : Prop :=
  ∀ s, Device.setup device = .ok s → s.geometry = g

namespace Layer

variable {device : δ} {g : FrameGeometry} {n : Nat}

/-- A device that reports a geometry reports this one. -/
theorem geometry_of_shaped (h : Device.Shaped g device) :
    (∃ e, Device.geometry device = .error e) ∨ Device.geometry device = .ok g := by
  rw [Device.geometry]
  cases hsetup : Device.setup device with
  | error e => exact .inl ⟨e, rfl⟩
  | ok s =>
      rw [← h s hsetup]
      exact .inr rfl

theorem size_of_leadingFrames_eq_ok {buffer data : Bytes}
    (h : leadingFrames g buffer n = .ok data) : data.size = n * g.frameBytes := by
  obtain ⟨-, hsize, rfl⟩ := leadingFrames_eq_ok_iff.mp h
  rw [Array.size_extract, Nat.min_eq_left hsize, Nat.sub_zero]

theorem fits_recordInterleaved (h : Device.Shaped g device) (hn : 0 < n) (buffer : Bytes) :
    (recordInterleaved buffer device n : Recording μ η).Fits g := by
  cases hdata : Device.geometry device >>= (leadingFrames · buffer n) with
  | error e =>
      apply fits_fault g e
      intro layer w
      rw [recordInterleaved, hdata]
  | ok data =>
      have hrecord : (recordInterleaved buffer device n : Recording μ η) =
          carryOut (.write data n) := by
        funext layer w
        rw [recordInterleaved, hdata, carryOut]
      rw [hrecord]
      apply fits_carryOut
      obtain ⟨e, hgeometry⟩ | hgeometry := geometry_of_shaped h
      · rw [hgeometry] at hdata
        cases hdata
      · rw [hgeometry] at hdata
        exact ⟨hn, size_of_leadingFrames_eq_ok hdata⟩

theorem fits_recordPlanar (h : Device.Shaped g device) (hn : 0 < n) (buffers : Array Bytes) :
    (recordPlanar buffers device n : Recording μ η).Fits g := by
  obtain ⟨e, hgeometry⟩ | hgeometry := geometry_of_shaped h
  · apply fits_fault g e
    intro layer w
    rw [recordPlanar, hgeometry]
  · cases hdata : (ChannelAreas.planar buffers g).copyInterleaved g 0 n with
    | error e =>
        apply fits_fault g (.area e)
        intro layer w
        simp only [recordPlanar, hgeometry, hdata]
    | ok data =>
        have hrecord : (recordPlanar buffers device n : Recording μ η) =
            carryOut (.write data n) := by
          funext layer w
          simp only [recordPlanar, hgeometry, hdata, carryOut]
        rw [hrecord]
        exact fits_carryOut ⟨hn, ChannelAreas.size_of_copyInterleaved_eq_ok hdata⟩

theorem fits_recordRewind (h : Device.Shaped g device) (hn : 0 < n) :
    (recordRewind device n : Recording μ η).Fits g := by
  obtain ⟨e, hgeometry⟩ | hgeometry := geometry_of_shaped h
  · apply fits_fault g e
    intro layer w
    rw [recordRewind, hgeometry]
  · cases hbytes : g.framesToBytes? n with
    | none =>
        apply fits_fault g (.invalidArgument (.frameOverflow n))
        intro layer w
        simp only [recordRewind, hgeometry, hbytes]
    | some bytes =>
        have hrecord : (recordRewind device n : Recording μ η) = carryOut (.back n bytes) := by
          funext layer w
          simp only [recordRewind, hgeometry, hbytes, carryOut]
          rfl
        rw [hrecord]
        exact fits_carryOut ⟨hn, (Count.mul?_eq_some_iff.mp hbytes).1.symm⟩

/-- What the spans of a ring ask for: a write each, up to the first that cannot be read. -/
def spanRequests (ring : MappedRing) (g : FrameGeometry) :
    List RingSpan → List SinkRequest × Option StreamError
  | [] => ([], none)
  | span :: rest =>
    match ring.copyInterleaved g span.offset span.frames with
    | .error e => ([], some (.area e))
    | .ok data =>
      let (requests, fault) := spanRequests ring g rest
      (.write data span.frames :: requests, fault)

theorem fits_spanRequests (ring : MappedRing) {spans : List RingSpan}
    (hspans : ∀ span ∈ spans, 0 < span.frames) :
    ∀ request ∈ (spanRequests ring g spans).1, request.Fits g := by
  induction spans with
  | nil => exact List.forall_mem_nil _
  | cons span rest ih =>
      rw [spanRequests]
      cases hdata : ring.copyInterleaved g span.offset span.frames with
      | error e => exact List.forall_mem_nil _
      | ok data =>
          refine List.forall_mem_cons.mpr
            ⟨⟨hspans span List.mem_cons_self, ?_⟩,
              ih fun other hmem => hspans other (List.mem_cons_of_mem _ hmem)⟩
          exact ChannelAreas.size_of_copyInterleaved_eq_ok hdata

theorem carries_visitAll (ring : MappedRing) (g : FrameGeometry) (spans : List RingSpan)
    (layer : Layer η) (w : World μ) :
    Carries (spanRequests ring g spans).1 (spanRequests ring g spans).2 layer w
      (visitAll (recordSpan ring g) spans (layer, w)) := by
  induction spans generalizing layer w with
  | nil => exact .done
  | cons span rest ih =>
      rw [visitAll, recordSpan, spanRequests]
      dsimp only
      cases hdata : ring.copyInterleaved g span.offset span.frames with
      | error e => exact .report _ (.fault _)
      | ok data =>
          dsimp only
          rcases hrecord : record data span.frames layer
              (w.report (.ringSpan span.offset span.frames)) with ⟨e | ⟨⟩, layer', w'⟩
          · exact .report _ (.failed hrecord)
          · exact .report _ (.next hrecord (ih layer' w'))

theorem fits_recordCommit (h : Device.Shaped g device) (position : Nat) :
    (recordCommit position device n : Recording μ η).Fits g := by
  cases hsetup : Device.setup device with
  | error e =>
      apply fits_fault g e
      intro layer w
      rw [recordCommit, hsetup]
  | ok s =>
      obtain rfl := h s hsetup
      by_cases hempty : s.bufferSize = 0
      · apply fits_fault _ (.invalidArgument .emptyRing)
        intro layer w
        simp only [recordCommit, hsetup, if_pos hempty]
      · cases hring : Device.mappedRing device with
        | error e =>
            apply fits_fault _ e
            intro layer w
            simp only [recordCommit, hsetup, if_neg hempty, hring]
        | ok ring =>
            generalize hspans : (RingCursor.ofPosition position s.bufferSize).split n = spans
            refine ⟨(spanRequests ring s.geometry spans.toList).1,
              (spanRequests ring s.geometry spans.toList).2,
              fits_spanRequests ring fun span hspan => (bounds_of_mem_toList hspan).1, ?_⟩
            intro layer w
            simp only [recordCommit, hsetup, if_neg hempty, hring, hspans, walk_eq_visitAll]
            exact carries_visitAll ring s.geometry spans.toList layer w

end Layer

/-- The recording of a transfer asks for nothing but whole frames of the geometry that the device
reports. -/
theorem Transfer.fits_recording {action : Action} {transfer : Transfer δ μ η} {device after : δ}
    {g : FrameGeometry} {n : Nat} (h : action.transfer? μ η device = some transfer)
    (hshaped : Device.Shaped g after) (hn : 0 < n) : (transfer.recording after n).Fits g := by
  obtain ⟨buffer, hrecording⟩ | ⟨buffers, hrecording⟩ | ⟨position, hrecording⟩ | ⟨_, -, rfl⟩ :=
    Action.recording_cases h
  · rw [hrecording]
    exact Layer.fits_recordInterleaved hshaped hn buffer
  · rw [hrecording]
    exact Layer.fits_recordPlanar hshaped hn buffers
  · rw [hrecording]
    exact Layer.fits_recordCommit hshaped position
  · exact Layer.fits_recordRewind hshaped hn

end FrameTee
