import FrameTee.Device.Scripted
import FrameTee.Proofs.Stack.Asking
import FrameTee.Proofs.Storage.Gauge

/-!
# The counters of a tee as a ledger of its sink

The counters of a tee say where its sink is, whatever the device answers: errors, counts that no
buffer can hold, a setup or a ring that cannot be had. `Ledger` is the balance between the counters,
the position of the sink and the calls that the sink has made. Every request of a tee to its sink
keeps it, granted or not, with one exception: after a write that was taken in part the position is
unknown.

## Implementation notes

A recording that fails midway has carried out some of its requests, and its counters are those of
the requests that were granted. So the balance is shown for single requests, and a recording keeps
it because it consists of requests (`Recording.Fits`).
-/

namespace FrameTee

open RingSpans TeeStack

variable {δ μ η : Type} [Device δ] [Medium μ η] [DecidableEq η]

/-- The counters of a tee are in balance with its sink, which was at the position `p₀` when they
were zero and had made no calls. -/
structure Ledger (sink : Sink η) (gauge : Gauge μ sink.handle) (g : FrameGeometry) (p₀ : Nat)
    (layer : Layer η) (w : World (Traced μ η)) : Prop where
  /-- The tee still has its sink. -/
  sink_eq : layer.sink = sink
  /-- What was written and not taken back lies between the first position and the present one. -/
  position : ∃ p, gauge.position w.media.media = some p ∧
    p + layer.stats.framesRewound * g.frameBytes = p₀ + layer.stats.bytesWritten
  /-- Bytes and frames are counted alike. -/
  bytes : layer.stats.bytesWritten = layer.stats.framesTeed * g.frameBytes
  /-- Every write that is counted was a call, if frames have bytes at all. -/
  writes : 0 < g.channelCount → layer.stats.sinkWrites = w.media.fullWrites sink.handle

/-- Whether an error says that a write was taken in part. -/
def StreamError.isShortWrite : StreamError → Bool
  | .sink (.shortWrite ..) => true
  | _ => false

namespace Ledger

variable {sink : Sink η} {gauge : Gauge μ sink.handle} {g : FrameGeometry} {p₀ : Nat}
  {layer : Layer η} {w w' : World (Traced μ η)} {request : SinkRequest}

/-- A balance is only about the position of the sink and its full writes. -/
theorem congr (h : Ledger sink gauge g p₀ layer w)
    (hposition : gauge.position w'.media.media = gauge.position w.media.media)
    (hwrites : w'.media.fullWrites sink.handle = w.media.fullWrites sink.handle) :
    Ledger sink gauge g p₀ layer w' where
  sink_eq := h.sink_eq
  position := by
    rw [hposition]
    exact h.position
  bytes := h.bytes
  writes := by
    rw [hwrites]
    exact h.writes

/-- A request that is granted moves the sink and the counters alike. -/
theorem granted {gauge : Gauge μ layer.sink.handle} (h : Ledger layer.sink gauge g p₀ layer w)
    (hfits : request.Fits g)
    (hcalls : request.Calls)
    (hgranted : request.GrantedBy (request.send layer.sink.handle w.media).1)
    (hmedia : w'.media = (request.send layer.sink.handle w.media).2) :
    Ledger layer.sink gauge g p₀ (layer.counting request) w' := by
  obtain ⟨p, hp, hbalance⟩ := h.position
  rw [SinkRequest.send_traced] at hgranted hmedia
  cases request with
  | write bytes frames =>
      have hfull : (Medium.write layer.sink.handle bytes w.media.media).1 = .ok bytes.size :=
        hgranted
      refine ⟨rfl, ⟨p + bytes.size, ?_, ?_⟩, ?_, fun hpos => ?_⟩
      · rw [hmedia]
        exact gauge.write_full bytes hp hcalls hfull
      · change p + bytes.size + layer.stats.framesRewound * g.frameBytes =
          p₀ + (layer.stats.bytesWritten + bytes.size)
        omega
      · change layer.stats.bytesWritten + bytes.size =
          (layer.stats.framesTeed + frames) * g.frameBytes
        rw [h.bytes, hfits.2, Nat.add_mul]
      · change layer.stats.sinkWrites + 1 = _
        rw [h.writes hpos, hmedia, Traced.fullWrites_append]
        simp [SinkRequest.call, SinkRequest.send, hfull, MediumCall.isFullWrite,
          MediumCall.handle]
  | back frames bytes =>
      obtain ⟨told, htold⟩ := hgranted
      obtain ⟨hle, hback⟩ := gauge.seek_back bytes hp htold
      refine ⟨rfl, ⟨p - bytes, ?_, ?_⟩, h.bytes, fun hpos => ?_⟩
      · rw [hmedia]
        exact hback
      · change p - bytes + (layer.stats.framesRewound + frames) * g.frameBytes =
          p₀ + layer.stats.bytesWritten
        rw [Nat.add_mul, ← hfits.2]
        omega
      · change layer.stats.sinkWrites = _
        rw [h.writes hpos, hmedia, Traced.fullWrites_append]
        simp [SinkRequest.call, MediumCall.isFullWrite]

/-- A request that fails moves neither, unless a write was taken in part. -/
theorem failed {gauge : Gauge μ layer.sink.handle} {e : SinkError}
    (h : Ledger layer.sink gauge g p₀ layer w) (hcalls : request.Calls)
    (hfails : request.Fails layer.sink.label (request.send layer.sink.handle w.media).1 e)
    (hmedia : w'.media = (request.send layer.sink.handle w.media).2)
    (hshort : (StreamError.sink e).isShortWrite = false) :
    Ledger layer.sink gauge g p₀ layer w' := by
  obtain ⟨p, hp, hbalance⟩ := h.position
  rw [SinkRequest.send_traced] at hfails hmedia
  apply h.congr
  · obtain hsame | ⟨expected, written, rfl⟩ := Gauge.position_of_fails hp hcalls hfails
    · rw [hmedia, hp]
      exact hsame
    · cases hshort
  · rw [hmedia, Traced.fullWrites_append]
    generalize (request.send layer.sink.handle w.media.media).1 = reply at hfails
    cases hfails with
    | write | seek => simp [SinkRequest.call, MediumCall.isFullWrite]
    | short => cases hshort

/-- One request of the tee keeps the balance. -/
theorem carryOut (h : Ledger sink gauge g p₀ layer w) (hfits : request.Fits g) :
    Ends (fun after => Ledger sink gauge g p₀ after.1 after.2)
      (fun e after => e.isShortWrite = false → Ledger sink gauge g p₀ after.1 after.2)
      (Layer.carryOut request layer w) := by
  obtain rfl := h.sink_eq
  have hcarried := Layer.carried_carryOut request layer w
  generalize Layer.carryOut request layer w = ended at hcarried
  cases hcarried with
  | nothing frames hrequest hmedia =>
      subst hrequest
      -- Frames without bytes have no channels, so the write need not have been a call.
      have hempty : g.frameBytes = 0 := by
        have hsize : 0 = frames * g.frameBytes := hfits.2
        exact (Nat.mul_eq_zero.mp hsize.symm).resolve_left (Nat.pos_iff_ne_zero.mp hfits.1)
      have hsame : Ledger layer.sink gauge g p₀ layer _ :=
        h.congr (by rw [hmedia]) (by rw [hmedia])
      refine ⟨rfl, hsame.position, ?_, fun hpos => ?_⟩
      · change layer.stats.bytesWritten = (layer.stats.framesTeed + frames) * g.frameBytes
        rw [h.bytes, hempty, Nat.mul_zero, Nat.mul_zero]
      · exact absurd hempty (Nat.pos_iff_ne_zero.mp (g.frameBytes_pos hpos))
  | far frames bytes hrequest hfar => exact fun _ => h
  | granted hcalls hgranted hmedia => exact h.granted hfits hcalls hgranted hmedia
  | failed hcalls hfails hmedia => exact fun hshort => h.failed hcalls hfails hmedia hshort

/-- A recording of the tee keeps the balance. -/
theorem recording {recording : Recording (Traced μ η) η} (h : Ledger sink gauge g p₀ layer w)
    (hfits : recording.Fits g) :
    Ends (fun after => Ledger sink gauge g p₀ after.1 after.2)
      (fun e after => e.isShortWrite = false → Ledger sink gauge g p₀ after.1 after.2)
      (recording layer w) := by
  obtain ⟨requests, fault, hrequests, hasks⟩ := hfits
  exact (hasks layer w).keeps (fun _ _ _ h => h.congr rfl rfl)
    (fun request hmem _ _ h => h.carryOut (hrequests request hmem)) h

variable {below : Layer η}

/-- One request of another tee does not touch the balance. -/
theorem carryOut_below (h : Ledger sink gauge g p₀ layer w)
    (hignores : gauge.Ignores below.sink.handle) (request : SinkRequest) :
    (Layer.carryOut request below w).2.1.sink = below.sink ∧
      Ledger sink gauge g p₀ layer (Layer.carryOut request below w).2.2 := by
  have hsend : ∀ after : World (Traced μ η),
      after.media = (request.send below.sink.handle w.media).2 →
        Ledger sink gauge g p₀ layer after := by
    intro after hmedia
    rw [SinkRequest.send_traced] at hmedia
    apply h.congr
    · rw [hmedia]
      exact hignores.position_send w.media.media request
    · rw [hmedia, Traced.fullWrites_append]
      simp [hignores.ne]
  have hcarried := Layer.carried_carryOut request below w
  generalize Layer.carryOut request below w = ended at hcarried
  cases hcarried with
  | nothing frames hrequest hmedia =>
      exact ⟨rfl, h.congr (by rw [hmedia]) (by rw [hmedia])⟩
  | far frames bytes hrequest hfar => exact ⟨rfl, h⟩
  | granted hcalls hgranted hmedia => exact ⟨rfl, hsend _ hmedia⟩
  | failed hcalls hfails hmedia => exact ⟨rfl, hsend _ hmedia⟩

/-- A recording of another tee does not touch the balance. -/
theorem recording_below {recording : Recording (Traced μ η) η}
    (h : Ledger sink gauge g p₀ layer w) (hignores : gauge.Ignores below.sink.handle)
    (hfits : recording.Fits g) :
    Ledger sink gauge g p₀ layer (recording below w).2.2 := by
  obtain ⟨requests, fault, -, hasks⟩ := hfits
  -- While the other tee records, its sink stays the one whose calls leave the position alone.
  have hkept := (hasks below w).keeps_always
    (I := fun tee w => tee.sink = below.sink ∧ Ledger sink gauge g p₀ layer w)
    (fun _ _ _ h => ⟨h.1, h.2.congr rfl rfl⟩) ?_ ⟨rfl, h⟩
  · exact hkept.2
  · rintro request tee w ⟨hsink, h⟩
    have hother : gauge.Ignores tee.sink.handle := by
      rw [hsink]
      exact hignores
    have hone := h.carryOut_below hother request
    exact ⟨hone.1.trans hsink, hone.2⟩

/-- What the tees below record does not touch the balance. -/
theorem recordAll_below {recording : Recording (Traced μ η) η} {inner : List (Layer η)}
    (h : Ledger sink gauge g p₀ layer w)
    (hinner : ∀ below ∈ inner, gauge.Ignores below.sink.handle) (hfits : recording.Fits g) :
    Ledger sink gauge g p₀ layer (recordAll recording inner w).2.2 := by
  induction inner with
  | nil => exact h
  | cons outer rest ih =>
      have hrest := ih fun below hmem => hinner below (List.mem_cons_of_mem _ hmem)
      rw [recordAll]
      rcases hrecord : recordAll recording rest w with ⟨e | ⟨⟩, rest', w'⟩
      · rw [hrecord] at hrest
        exact hrest
      · rw [hrecord] at hrest
        exact hrest.recording_below (hinner outer List.mem_cons_self) hfits

end Ledger

/-- The outermost tee is in balance, and the tees below it have other sinks. -/
def Balanced (sink : Sink η) (gauge : Gauge μ sink.handle) (g : FrameGeometry) (p₀ : Nat)
    (layers : List (Layer η)) (w : World (Traced μ η)) : Prop :=
  ∃ layer inner, layers = layer :: inner ∧ Ledger sink gauge g p₀ layer w ∧
    ∀ below ∈ inner, gauge.Ignores below.sink.handle

namespace Balanced

variable {sink : Sink η} {gauge : Gauge μ sink.handle} {g : FrameGeometry} {p₀ : Nat}
  {layers : List (Layer η)} {stack : TeeStack δ η} {w w' : World (Traced μ η)}

/-- A balance is only about what the media are. -/
theorem congr (h : Balanced sink gauge g p₀ layers w) (hmedia : w'.media = w.media) :
    Balanced sink gauge g p₀ layers w' := by
  obtain ⟨layer, inner, rfl, hledger, hinner⟩ := h
  exact ⟨layer, inner, rfl, hledger.congr (by rw [hmedia]) (by rw [hmedia]), hinner⟩

/-- What all tees record keeps the balance of the outermost one. -/
theorem recordAll {recording : Recording (Traced μ η) η}
    (h : Balanced sink gauge g p₀ layers w) (hcounts : recording.CountsOnly)
    (hfits : recording.Fits g)
    (havoids : Avoids StreamError.isShortWrite (TeeStack.recordAll recording layers w).1) :
    Balanced sink gauge g p₀ (TeeStack.recordAll recording layers w).2.1
      (TeeStack.recordAll recording layers w).2.2 := by
  obtain ⟨layer, inner, rfl, hledger, hinner⟩ := h
  have hbelow := hledger.recordAll_below hinner hfits
  have hsinks := forall_recordAll (w := w) hcounts (fun _ _ h => h) hinner
  rw [TeeStack.recordAll] at havoids ⊢
  -- If a tee below fails, the outermost one is not asked, and its balance is the one of before.
  rcases hrest : TeeStack.recordAll recording inner w with ⟨e | ⟨⟩, inner', w'⟩
  · rw [hrest] at hbelow hsinks
    exact ⟨layer, inner', rfl, hbelow, hsinks⟩
  · rw [hrest] at hbelow hsinks havoids
    have hends := hbelow.recording hfits
    dsimp only at havoids ⊢
    rcases hrecord : recording layer w' with ⟨e | ⟨⟩, layer', w''⟩
    · rw [hrecord] at hends havoids
      exact ⟨layer', inner', rfl, hends havoids, hsinks⟩
    · rw [hrecord] at hends
      exact ⟨layer', inner', rfl, hends, hsinks⟩

/-- One action keeps the balance, unless it says that a write was taken in part. -/
theorem act (h : Balanced sink gauge g p₀ stack.layers w) (action : Action)
    (hshaped : Device.Shaped g (action.after stack.device))
    (havoids : Avoids StreamError.isShortWrite (stack.act action w).reply.result) :
    Balanced sink gauge g p₀ (stack.act action w).stack.layers (stack.act action w).world := by
  obtain ⟨hlayers, hmedia⟩ | ⟨transfer, n, htransfer, -, hn, hresult, hlayers, hworld⟩ :=
    act_cases action stack w
  · rw [hlayers]
    exact h.congr hmedia
  · have hstart : Balanced sink gauge g p₀ stack.layers (w.reportAll transfer.step.events) :=
      h.congr rfl
    rw [hlayers, hworld]
    apply hstart.recordAll (countsOnly_recording htransfer _ n)
      (Transfer.fits_recording htransfer hshaped hn)
    rw [hresult, avoids_map] at havoids
    exact havoids

end Balanced

/-- In every session of a tee over any device that keeps to one geometry, as long as no answer says
that a write was taken in part, the counters are in balance with the sink. The tee may itself be
over tees with other sinks. -/
theorem ledger_of_session {g : FrameGeometry} {sink : Sink η} (gauge : Gauge μ sink.handle)
    (closeSlave : Bool) {below : TeeStack δ η} {w₀ : World (Traced μ η)} {p₀ : Nat}
    (hposition : gauge.position w₀.media.media = some p₀) (hcalls : w₀.media.calls = [])
    (hbelow : ∀ layer ∈ below.layers, gauge.Ignores layer.sink.handle)
    {stack : TeeStack δ η} {w : World (Traced μ η)}
    (h : Session (Device.Shaped g) StreamError.isShortWrite (below.push sink closeSlave w₀).1
      (below.push sink closeSlave w₀).2 stack w) :
    ∃ layer inner, stack.layers = layer :: inner ∧ Ledger sink gauge g p₀ layer w := by
  have hbalanced : Balanced sink gauge g p₀ stack.layers w := by
    induction h with
    | start =>
        refine ⟨_, _, rfl, ⟨rfl, ⟨p₀, hposition, ?_⟩, ?_, fun _ => ?_⟩, hbelow⟩
        · exact congrArg (p₀ + ·) (Nat.zero_mul _)
        · exact (Nat.zero_mul _).symm
        · change 0 = w₀.media.fullWrites sink.handle
          rw [Traced.fullWrites, hcalls, List.countP_nil]
    | act action h hdevice havoids ih => exact ih.act action hdevice havoids
    | past device events h hdevice ih => exact ih.congr rfl
  obtain ⟨layer, inner, hlayers, hledger, -⟩ := hbalanced
  exact ⟨layer, inner, hlayers, hledger⟩

/-- A device that says that it moved three frames, one and nine, whatever it is asked for, under two
tees. The upper writer takes the first span of a commit and fails at the second, the frame is taken
back, and the nine frames are more than the buffer holds. -/
theorem ledger_of_session_cut_short :
    let device : ScriptedDevice :=
      { name := "scripted", direction := .playback, state := .running
        setup := some ⟨⟨1, .u8⟩, 8000, 4⟩, ring := .ofBytes #[1, 2, 3, 4], areas := #[⟨0, 8⟩]
        applPtr := 3, replies := [.ok 3, .ok 1, .ok 9] }
    let sink : Sink Handle := .ofWriter "copy" (.writer 0)
    let w₀ : World (Traced Storage Handle) :=
      { media := { media := { writers :=
        #[{ data := #[7], position := 1, writeError := some "full", writeErrorFrom := 1 }, {}] } } }
    let lower := (TeeStack.bare device).push (.ofWriter "lower" (.writer 1)) true w₀
    let start := lower.1.push sink true lower.2
    let a := start.1.act (.ask (.commit 3)) start.2
    let b := a.stack.act (.ask (.rewind 1)) a.world
    let c := b.stack.act (.ask (.writeInterleaved #[5] 1)) b.world
    a.reply.result.isOk = false ∧ b.reply.result.isOk = true ∧ c.reply.result.isOk = false ∧
      ∃ layer inner, c.stack.layers = layer :: inner ∧ layer.stats = ⟨1, 1, 1, 1⟩ ∧
        Ledger sink (Storage.gauge (.writer 0)) ⟨1, .u8⟩ 1 layer c.world := by
  intro device sink w₀ lower start a b c
  have hshaped : ∀ d : ScriptedDevice, d.setup = device.setup → Device.Shaped ⟨1, .u8⟩ d := by
    rintro ⟨⟩ hd s hs
    cases hd
    cases hs
    rfl
  have ha : Session (Device.Shaped ⟨1, .u8⟩) StreamError.isShortWrite start.1 start.2 a.stack
      a.world :=
    .act (.ask (.commit 3)) .start (hshaped _ rfl) (by decide +kernel)
  have hb := ha.act (.ask (.rewind 1)) (hshaped _ rfl) (by decide +kernel)
  have hc := hb.act (.ask (.writeInterleaved #[5] 1)) (hshaped _ rfl) (by decide +kernel)
  have hposition : (Storage.gauge (.writer 0)).position lower.2.media.media = some 1 := by
    decide +kernel
  have hbelow : ∀ layer ∈ lower.1.layers,
      (Storage.gauge (.writer 0)).Ignores layer.sink.handle :=
    List.forall_mem_singleton.mpr (Storage.ignores_gauge (by decide))
  obtain ⟨layer, inner, hlayers, hledger⟩ :=
    ledger_of_session (Storage.gauge (.writer 0)) true hposition rfl hbelow hc
  have hstats : c.stack.layers.head?.map (·.stats) = some ⟨1, 1, 1, 1⟩ := by decide +kernel
  rw [hlayers] at hstats
  exact ⟨by decide +kernel, by decide +kernel, by decide +kernel, layer, inner, hlayers,
    Option.some.inj hstats, hledger⟩

end FrameTee
