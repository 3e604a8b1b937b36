import FrameTee.Sink.Basic

/-!
# Alarms of a sink

An alarm is an event at level `error`. `World.Raised` tells the alarms that were raised between two
worlds, in their order, whatever else was reported. Which alarms there are to be can be told from
what a caller is answered (`alarmsOf`): one for a write that was taken in part, and one for a seek
that failed. A sink that refuses a distance without asking for the seek raises none.
-/

namespace FrameTee

variable {μ η : Type}

/-- Whether an event says that a sink no longer holds what its stream has moved. -/
def LogEvent.isAlarm (event : LogEvent) : Bool :=
  event.level = .error

/-- From `w` to `w'` events were reported, and the alarms among them are `alarms`. -/
def World.Raised (w w' : World μ) (alarms : List LogEvent) : Prop :=
  ∃ events, w'.log.toList = w.log.toList ++ events ∧ events.filter LogEvent.isAlarm = alarms

namespace World.Raised

variable {w w' w'' : World μ} {alarms more : List LogEvent}

/-- Only what is reported matters, not what happens to the media. -/
theorem of_log_eq (h : w'.log = w.log) : w.Raised w' [] :=
  ⟨[], by rw [h, List.append_nil], rfl⟩

theorem refl (w : World μ) : w.Raised w [] :=
  of_log_eq rfl

theorem trans (h : w.Raised w' alarms) (h' : w'.Raised w'' more) :
    w.Raised w'' (alarms ++ more) := by
  obtain ⟨events, hlog, rfl⟩ := h
  obtain ⟨events', hlog', rfl⟩ := h'
  exact ⟨events ++ events', by rw [hlog', hlog, List.append_assoc], List.filter_append _ _⟩

/-- What was raised is told by the two logs. -/
theorem unique (h : w.Raised w' alarms) (h' : w.Raised w' more) : alarms = more := by
  obtain ⟨events, hlog, rfl⟩ := h
  obtain ⟨events', hlog', rfl⟩ := h'
  rw [hlog] at hlog'
  rw [List.append_cancel_left hlog']

theorem reportAll (w : World μ) (events : List LogEvent) :
    w.Raised (w.reportAll events) (events.filter LogEvent.isAlarm) :=
  ⟨events, by simp [World.reportAll], rfl⟩

theorem report (w : World μ) (event : LogEvent) :
    w.Raised (w.report event) ([event].filter LogEvent.isAlarm) :=
  ⟨[event], by simp, rfl⟩

theorem nil_trans (h : w.Raised w' []) (h' : w'.Raised w'' alarms) : w.Raised w'' alarms :=
  h.trans h'

theorem trans_nil (h : w.Raised w' alarms) (h' : w'.Raised w'' []) : w.Raised w'' alarms := by
  have hall := h.trans h'
  rwa [List.append_nil] at hall

end World.Raised

/-- The alarms that go with an error, where a sink was to move back by `distance` if at all: one for
a write that was taken in part, and one for a sink that could not be moved back by a distance that a
seek can express. -/
def StreamError.alarms (distance : Option Nat) : StreamError → List LogEvent
  | sink (.shortWrite label expected written) => [.shortWrite label expected written]
  | sink (.seek label _) =>
    match distance with
    | some bytes => if bytes ≤ Sink.maxDistance then [.rewindFailed label bytes] else []
    | none => []
  | _ => []

/-- The alarms that go with an answer. -/
def alarmsOf {α : Type} (distance : Option Nat) : Except StreamError α → List LogEvent
  | .ok _ => []
  | .error e => e.alarms distance

@[simp] theorem alarmsOf_map {α β : Type} (distance : Option Nat) (f : α → β)
    (answer : Except StreamError α) :
    alarmsOf distance (answer.map f) = alarmsOf distance answer := by
  cases answer <;> rfl

namespace Sink

variable [Medium μ η] (sink : Sink η) (w : World μ)

/-- A write raises an alarm exactly if it was taken in part. -/
theorem raised_write (bytes : Bytes) (distance : Option Nat) :
    w.Raised (sink.write bytes w).2
      (alarmsOf distance ((sink.write bytes w).1.mapError .sink)) := by
  rw [write]
  split
  · exact .refl w
  · rcases Medium.write sink.handle bytes w.media with ⟨source | written, media⟩
    · exact .of_log_eq rfl
    · dsimp only
      split
      · exact .of_log_eq rfl
      · exact (World.Raised.of_log_eq rfl).nil_trans (.report { w with media } _)

/-- A move back raises an alarm exactly if the seek failed. One that no seek can express raises
none, though it fails as well. -/
theorem raised_seekBack (bytes : Nat) :
    w.Raised (sink.seekBack bytes w).2
      (alarmsOf (some bytes) ((sink.seekBack bytes w).1.mapError .sink)) := by
  rw [seekBack]
  by_cases hfar : maxDistance < bytes
  · rw [if_pos hfar]
    have hnone : alarmsOf (some bytes) ((Except.error (.seek sink.label .rewindTooFar) :
        Except SinkError Nat).mapError .sink) = [] := if_neg (Nat.not_le.mpr hfar)
    rw [hnone]
    exact .refl w
  · rw [if_neg hfar]
    rcases Medium.seek sink.handle (-(bytes : Int)) w.media with ⟨source | position, media⟩
    · have hone : alarmsOf (some bytes) ((Except.error (.seek sink.label source) :
          Except SinkError Nat).mapError .sink) = [.rewindFailed sink.label bytes] :=
        if_pos (Nat.not_lt.mp hfar)
      dsimp only
      rw [hone]
      exact (World.Raised.of_log_eq rfl).nil_trans (.report { w with media } _)
    · exact .of_log_eq rfl

/-- Closing raises none. -/
theorem raised_close : w.Raised (sink.close w).2 [] :=
  (World.Raised.report w _).trans (.of_log_eq rfl)

end Sink

end FrameTee
