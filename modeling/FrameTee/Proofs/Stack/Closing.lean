import FrameTee.Proofs.Device.Tally
import FrameTee.Proofs.Sink.Trace
import FrameTee.Stack.Close

/-!
# What closing reaches

Closing a stack reaches the tees from the outermost on, up to and with the first that does not own
what is below it (`TeeStack.reached`). Each of these has its sink flushed once, in this order and
whatever the flushes come to, and the device is closed exactly if every tee owns what is below it.
The first failure in this order is the answer.
-/

namespace FrameTee

variable {δ μ η : Type}

/-- The flush of a sink, with the reply. -/
structure SinkFlush (η : Type) where
  /-- The sink. -/
  sink : Sink η
  /-- What the medium replied. -/
  reply : Except IoError Unit

namespace SinkFlush

/-- The call that a flush makes. -/
def call (flush : SinkFlush η) : MediumCall η :=
  .flush flush.sink.handle flush.reply

/-- What a flush comes to for a stream. -/
def answer (flush : SinkFlush η) : Except StreamError Unit :=
  flush.reply.mapError fun source => .sink (.close flush.sink.label source)

end SinkFlush

/-- `result` is the first failure among `answers`, or success where there is none. -/
structure FirstFailure (answers : List (Except StreamError Unit))
    (result : Except StreamError Unit) : Prop where
  /-- It is a success exactly if all are. -/
  ok_iff : result = .ok () ↔ ∀ answer ∈ answers, answer = .ok ()
  /-- It is a failure exactly if that comes first. -/
  error_iff : ∀ e, result = .error e ↔
    ∃ before after, answers = before ++ .error e :: after ∧ ∀ answer ∈ before, answer = .ok ()

namespace FirstFailure

variable {answers : List (Except StreamError Unit)} {result : Except StreamError Unit}

theorem nil : FirstFailure [] (.ok ()) where
  ok_iff := by simp
  error_iff := by simp

/-- A failure in front of others is the first. -/
theorem error (e : StreamError) (rest : List (Except StreamError Unit)) :
    FirstFailure (.error e :: rest) (.error e) where
  ok_iff := by simp
  error_iff e' := by
    constructor
    · intro h
      exact ⟨[], rest, by rw [h]; rfl, fun answer hanswer => nomatch hanswer⟩
    · rintro ⟨before, after, hsplit, hbefore⟩
      cases before with
      | nil => exact (List.cons.inj hsplit).1
      | cons first before =>
          rw [← (List.cons.inj hsplit).1] at hbefore
          cases hbefore _ List.mem_cons_self

/-- A success in front of others changes nothing. -/
theorem ok (h : FirstFailure answers result) : FirstFailure (.ok () :: answers) result where
  ok_iff := by simp [h.ok_iff]
  error_iff e := by
    rw [h.error_iff]
    constructor
    · rintro ⟨before, after, hsplit, hbefore⟩
      refine ⟨.ok () :: before, after, by rw [hsplit]; rfl, ?_⟩
      rintro answer (_ | ⟨_, hanswer⟩)
      · rfl
      · exact hbefore answer hanswer
    · rintro ⟨before, after, hsplit, hbefore⟩
      cases before with
      | nil => cases (List.cons.inj hsplit).1
      | cons first before =>
          exact ⟨before, after, (List.cons.inj hsplit).2, fun answer hanswer =>
            hbefore answer (List.mem_cons_of_mem _ hanswer)⟩

end FirstFailure

namespace TeeStack

/-- The tees that closing reaches: from the outermost on, up to and with the first that does not own
what is below it. -/
def reached (layers : List (Layer η)) : List (Layer η) :=
  layers.take (layers.findIdx (fun layer => !layer.closeSlave) + 1)

/-- Whether every tee owns what is below it. -/
def owned (layers : List (Layer η)) : Bool :=
  layers.all (·.closeSlave)

theorem owned_cons (layer : Layer η) (inner : List (Layer η)) :
    owned (layer :: inner) = (layer.closeSlave && owned inner) := rfl

theorem reached_of_owned {layer : Layer η} (h : layer.closeSlave = true)
    (inner : List (Layer η)) : reached (layer :: inner) = layer :: reached inner := by
  simp [reached, List.findIdx_cons, h]

theorem reached_of_not_owned {layer : Layer η} (h : layer.closeSlave = false)
    (inner : List (Layer η)) : reached (layer :: inner) = [layer] := by
  simp [reached, List.findIdx_cons, h]

variable [Device δ] [Medium μ η]

/-- The flush that closing a tee makes. -/
def flush (layer : Layer η) (w : World μ) : SinkFlush η :=
  ⟨layer.sink, (Medium.flush layer.sink.handle w.media).1⟩

theorem result_closeSink (device : δ) (layer : Layer η) (w : World μ) :
    (closeSink device layer w).1.mapError .sink = (flush layer w).answer := by
  simp only [closeSink, Sink.close, World.media_report, flush, SinkFlush.answer]
  cases (Medium.flush layer.sink.handle w.media).1 <;> rfl

theorem calls_closeSink (device : δ) (layer : Layer η) (w : World (Traced μ η)) :
    (closeSink device layer w).2.media.calls = w.media.calls ++ [(flush layer w).call] := rfl

/-- Closing a stack closes its device once if every tee owns what is below it, and else leaves it
alone. -/
theorem device_closeAll (device : δ) (layers : List (Layer η)) (w : World μ) :
    (closeAll device layers w).device =
      if owned layers then (Device.close device).device else device := by
  induction layers generalizing w with
  | nil => rfl
  | cons layer inner ih =>
      cases h : layer.closeSlave with
      | false => simp [closeAll, owned_cons, h]
      | true =>
          rw [owned_cons, h, Bool.true_and, ← ih (closeSink device layer w).2]
          simp [closeAll, joinClose, h]

/-- Closing `layers` over `device` came to `outcome` by these flushes. -/
structure ClosedBy (device : δ) (layers : List (Layer η)) (w : World (Traced μ η))
    (outcome : CloseOutcome δ (Traced μ η) Unit) (flushes : List (SinkFlush η)) : Prop where
  /-- The tees that are reached have their sinks flushed, each once and the outermost first. -/
  sinks : flushes.map (·.sink) = (reached layers).map (·.sink)
  /-- Nothing else is asked of the media. -/
  calls : outcome.world.media.calls = w.media.calls ++ flushes.map (·.call)
  /-- The first failure is the answer, that of a device which is closed coming last. -/
  answer : FirstFailure
    (flushes.map (·.answer) ++ if owned layers then [(Device.close device).result] else [])
    outcome.result

variable {device : δ} {layers : List (Layer η)} {layer : Layer η} {w : World (Traced μ η)}
  {outcome : CloseOutcome δ (Traced μ η) Unit} {flushes : List (SinkFlush η)}

/-- Without tees only the device is closed. -/
theorem closedBy_nil (device : δ) (w : World (Traced μ η)) :
    ClosedBy device ([] : List (Layer η)) w (closeAll device ([] : List (Layer η)) w) [] where
  sinks := rfl
  calls := (List.append_nil _).symm
  answer := by
    have hresult : (closeAll device ([] : List (Layer η)) w).result =
        (Device.close device).result := rfl
    simp only [hresult, owned, List.all_nil, if_true, List.map_nil, List.nil_append]
    cases (Device.close device).result with
    | error e => exact .error e []
    | ok done => exact .ok .nil

/-- Nothing below a tee that does not own it is reached. -/
theorem closedBy_of_not_owned (h : layer.closeSlave = false) (device : δ)
    (inner : List (Layer η)) (w : World (Traced μ η)) :
    ClosedBy device (layer :: inner) w (closeAll device (layer :: inner) w) [flush layer w] := by
  have howned : owned (layer :: inner) = false := by rw [owned_cons, h, Bool.false_and]
  have houtcome : closeAll device (layer :: inner) w =
      ⟨(flush layer w).answer, device, (closeSink device layer w).2⟩ := by
    rw [← result_closeSink device layer w, closeAll]
    simp [h]
  rw [houtcome]
  refine ⟨by rw [reached_of_not_owned h]; rfl, rfl, ?_⟩
  simp only [howned, List.map_cons, List.map_nil, List.append_nil, Bool.false_eq_true, if_false]
  cases (flush layer w).answer with
  | error e => exact .error e []
  | ok done => exact .ok .nil

/-- What is below a tee that owns it is closed after the sink of the tee, also when the sink could
not be closed. -/
theorem ClosedBy.cons (h : layer.closeSlave = true)
    (hinner : ClosedBy device layers (closeSink device layer w).2 outcome flushes) :
    ClosedBy device (layer :: layers) w (joinClose (closeSink device layer w).1 outcome)
      (flush layer w :: flushes) := by
  have howned : owned (layer :: layers) = owned layers := by rw [owned_cons, h, Bool.true_and]
  refine ⟨?_, ?_, ?_⟩
  · rw [reached_of_owned h, List.map_cons, List.map_cons, hinner.sinks]
    rfl
  · have hcalls : (joinClose (closeSink device layer w).1 outcome).world.media.calls =
        outcome.world.media.calls := by
      simp only [joinClose]
      cases outcome.result <;> rfl
    rw [hcalls, hinner.calls, calls_closeSink, List.append_assoc]
    rfl
  · rw [howned, List.map_cons, List.cons_append, ← result_closeSink device layer w]
    simp only [joinClose]
    cases (closeSink device layer w).1 with
    | error e => exact .error _ _
    | ok done => exact .ok hinner.answer

/-- Closing a stack of tees makes flushes and answers by them. -/
theorem closedBy_closeAll (device : δ) (layers : List (Layer η)) (w : World (Traced μ η)) :
    ∃ flushes, ClosedBy device layers w (closeAll device layers w) flushes := by
  induction layers generalizing w with
  | nil => exact ⟨[], closedBy_nil device w⟩
  | cons layer inner ih =>
      cases h : layer.closeSlave with
      | false => exact ⟨_, closedBy_of_not_owned h device inner w⟩
      | true =>
          obtain ⟨flushes, hinner⟩ := ih (closeSink device layer w).2
          have houtcome : closeAll device (layer :: inner) w =
              joinClose (closeSink device layer w).1
                (closeAll device inner (closeSink device layer w).2) := by
            rw [closeAll]
            simp [h]
          exact ⟨_, houtcome ▸ hinner.cons h⟩

/-- Closing a tee to keep what it does not own does the same as closing it, and hands that back. -/
theorem close_cons (device : δ) (layer : Layer η) (inner : List (Layer η)) (w : World μ) :
    let closed := closeAll device (layer :: inner) w
    close ⟨layer :: inner, device⟩ w =
      ⟨closed.result.map fun _ => if layer.closeSlave then none else some ⟨inner, device⟩,
        closed.device, closed.world⟩ := by
  cases h : layer.closeSlave with
  | true => simp [close, h]
  | false => simp [close, closeAll, h]

theorem device_close (stack : TeeStack δ η) (w : World μ) :
    (close stack w).device = (closeAll stack.device stack.layers w).device := by
  obtain ⟨layers, device⟩ := stack
  cases layers with
  | nil => rfl
  | cons layer inner => rw [close_cons]

/-- Closing a tee flushes the sinks of the tees from it inwards up to and with the first that does
not own what is below it, each once and the outermost first, also after failures. It closes the
device exactly once if every tee owns what is below it and never otherwise, and answers the error of
the outermost tee that failed. Closing the tee to keep what it does not own does the same, except
that a tee which does not own what is below it and could be closed hands that back untouched. -/
theorem closing_reaches (device : Tallied δ) (layer : Layer η) (inner : List (Layer η))
    (w : World (Traced μ η)) :
    let closed := closeAll device (layer :: inner) w
    (∃ flushes, ClosedBy device (layer :: inner) w closed flushes) ∧
      closed.device =
        (if owned (layer :: inner) then ⟨(Device.close device.device).device, device.closes + 1⟩
        else device) ∧
      close ⟨layer :: inner, device⟩ w =
        ⟨closed.result.map fun _ => if layer.closeSlave then none else some ⟨inner, device⟩,
          closed.device, closed.world⟩ :=
  ⟨closedBy_closeAll device (layer :: inner) w, device_closeAll device (layer :: inner) w,
    close_cons device layer inner w⟩

end TeeStack

end FrameTee
