import FrameTee.Device.Scripted
import FrameTee.Proofs.Sink.Alarm
import FrameTee.Proofs.Stack.Closing
import FrameTee.Proofs.Stack.Ledger

/-!
# Alarms of a stack of tees

A tee has lost step with its stream when a write to its sink was taken in part, or when the stream
was taken back and the sink was not. Over any device that does not itself answer with failures of
sinks, every call that says so raises one alarm and no other call raises any, with one exception: a
rewind further back than a seek can express fails like one whose seek has failed, and raises none
(`TeeStack.alarms_of_watch`, `TeeStack.not_forall_raised`).

## Implementation notes

The device may report what it likes, so the alarms of a call are told apart by the alarms of the
same call on the device alone. A recording is described by its answer (`Recording.Raises`): it goes
on only as long as nothing has failed, and so raises the alarm of the request that ends it.
-/

namespace FrameTee

open RingSpans TeeStack

variable {δ μ η α : Type}

/-- An answer that is no failure of a sink goes without an alarm. -/
theorem alarmsOf_of_avoids {answer : Except StreamError α}
    (h : Avoids StreamError.isSinkFailure answer) (distance : Option Nat) :
    alarmsOf distance answer = [] := by
  cases answer with
  | ok value => rfl
  | error e =>
      cases e with
      | sink error => cases h
      | _ => rfl

/-- A recording raises the alarms that go with its answer. -/
def Recording.Raises (distance : Option Nat) (recording : Recording μ η) : Prop :=
  ∀ (layer : Layer η) (w : World μ),
    w.Raised (recording layer w).2.2 (alarmsOf distance (recording layer w).1)

/-- Nothing need be reported of an answer that is no failure of a sink. -/
theorem raised_of_avoids {answer : Except StreamError α}
    (h : Avoids StreamError.isSinkFailure answer) (distance : Option Nat) (w : World μ) :
    w.Raised w (alarmsOf distance answer) := by
  rw [alarmsOf_of_avoids h]
  exact .refl w

/-- Tees raise the alarms of the one that fails. -/
theorem TeeStack.raised_recordAll {recording : Recording μ η} {distance : Option Nat}
    (h : recording.Raises distance) (layers : List (Layer η)) (w : World μ) :
    w.Raised (recordAll recording layers w).2.2
      (alarmsOf distance (recordAll recording layers w).1) := by
  induction layers with
  | nil => exact .refl w
  | cons outer inner ih =>
      rw [recordAll]
      rcases hrest : recordAll recording inner w with ⟨e | ⟨⟩, inner', w'⟩
      · rw [hrest] at ih
        exact ih
      · rw [hrest] at ih
        exact World.Raised.nil_trans ih (h outer w')

variable [Device δ] [Medium μ η]

namespace Layer

variable {device : δ} {n : Nat}

theorem raises_record (bytes : Bytes) (frames : Nat) (distance : Option Nat) :
    (record bytes frames : Recording μ η).Raises distance := by
  intro layer w
  have hwrite := layer.sink.raised_write w bytes distance
  simp only [record]
  rcases hresult : layer.sink.write bytes w with ⟨e | ⟨⟩, w'⟩
  · rw [hresult] at hwrite
    exact hwrite
  · rw [hresult] at hwrite
    exact hwrite.trans (.report w' _)

/-- The spans of a ring raise the alarm of the one that fails. -/
theorem raises_visitAll (ring : MappedRing) (g : FrameGeometry) (spans : List RingSpan)
    (distance : Option Nat) (layer : Layer η) (w : World μ) :
    w.Raised (visitAll (recordSpan ring g) spans (layer, w)).2.2
      (alarmsOf distance (visitAll (recordSpan ring g) spans (layer, w)).1) := by
  induction spans generalizing layer w with
  | nil => exact .refl w
  | cons span rest ih =>
      have hspan : w.Raised (w.report (.ringSpan span.offset span.frames)) [] := .report w _
      rw [visitAll, recordSpan]
      cases ring.copyInterleaved g span.offset span.frames with
      | error e => exact hspan
      | ok data =>
          have hrecord := raises_record data span.frames distance layer
            (w.report (.ringSpan span.offset span.frames))
          dsimp only
          rcases hresult : record data span.frames layer
              (w.report (.ringSpan span.offset span.frames)) with ⟨e | ⟨⟩, layer', w'⟩
          · rw [hresult] at hrecord
            exact hspan.nil_trans hrecord
          · rw [hresult] at hrecord
            exact hspan.nil_trans (World.Raised.nil_trans hrecord (ih layer' w'))

section Sinkless

variable (hsetup : Avoids StreamError.isSinkFailure (Device.setup device))
include hsetup

theorem avoids_geometry : Avoids StreamError.isSinkFailure (Device.geometry device) := by
  rw [Device.geometry]
  cases hs : Device.setup device with
  | error e =>
      rw [hs] at hsetup
      exact hsetup
  | ok s => trivial

theorem avoids_leadingFrames (buffer : Bytes) :
    Avoids StreamError.isSinkFailure (Device.geometry device >>= (leadingFrames · buffer n)) := by
  have hgeometry := avoids_geometry hsetup
  cases hg : Device.geometry device with
  | error e =>
      rw [hg] at hgeometry
      exact hgeometry
  | ok g =>
      change Avoids StreamError.isSinkFailure (leadingFrames g buffer n)
      rw [leadingFrames]
      split
      · rfl
      · split
        · rfl
        · trivial

theorem raises_recordInterleaved (buffer : Bytes) (distance : Option Nat) :
    (recordInterleaved buffer device n : Recording μ η).Raises distance := by
  have hleading := avoids_leadingFrames (n := n) hsetup buffer
  intro layer w
  rw [recordInterleaved]
  cases hdata : Device.geometry device >>= (leadingFrames · buffer n) with
  | error e =>
      rw [hdata] at hleading
      exact raised_of_avoids hleading distance w
  | ok data => exact raises_record data n distance layer w

theorem raises_recordPlanar (buffers : Array Bytes) (distance : Option Nat) :
    (recordPlanar buffers device n : Recording μ η).Raises distance := by
  have hgeometry := avoids_geometry hsetup
  intro layer w
  rw [recordPlanar]
  cases hg : Device.geometry device with
  | error e =>
      rw [hg] at hgeometry
      exact raised_of_avoids hgeometry distance w
  | ok g =>
      dsimp only
      split
      · exact .refl w
      · exact raises_record _ n distance layer w

theorem raises_recordCommit
    (hring : Avoids StreamError.isSinkFailure (Device.mappedRing device)) (position : Nat)
    (distance : Option Nat) :
    (recordCommit position device n : Recording μ η).Raises distance := by
  intro layer w
  rw [recordCommit]
  cases hs : Device.setup device with
  | error e =>
      rw [hs] at hsetup
      exact raised_of_avoids hsetup distance w
  | ok s =>
      dsimp only
      split
      · exact .refl w
      · cases hr : Device.mappedRing device with
        | error e =>
            rw [hr] at hring
            exact raised_of_avoids hring distance w
        | ok ring =>
            dsimp only
            rw [walk_eq_visitAll]
            exact raises_visitAll ring s.geometry _ distance layer w

/-- The distance that a sink moves back is that of the frames in the geometry of the device. -/
theorem raises_recordRewind {distance : Option Nat}
    (hdistance : ∀ g, Device.geometry device = .ok g → distance = some (n * g.frameBytes)) :
    (recordRewind device n : Recording μ η).Raises distance := by
  have hgeometry := avoids_geometry hsetup
  intro layer w
  rw [recordRewind]
  cases hg : Device.geometry device with
  | error e =>
      rw [hg] at hgeometry
      exact raised_of_avoids hgeometry distance w
  | ok g =>
      obtain rfl := hdistance g hg
      dsimp only
      cases hbytes : g.framesToBytes? n with
      | none => exact .refl w
      | some bytes =>
          obtain ⟨rfl, -⟩ := Count.mul?_eq_some_iff.mp hbytes
          have hseek := layer.sink.raised_seekBack w (n * g.frameBytes)
          dsimp only
          rcases hresult : layer.sink.seekBack (n * g.frameBytes) w with ⟨e | position, w'⟩
          · rw [hresult] at hseek
            exact hseek
          · rw [hresult] at hseek
            exact hseek.trans (.report w' _)

end Sinkless

end Layer

/-- The bytes by which a sink is to move back for an action on a device, if it is to move at all. -/
def Action.takenBack? (action : Action) (device : δ) : Option Nat :=
  match action with
  | .ask (.rewind frames) =>
    let step := Device.rewind frames device
    match step.result, Device.geometry step.device with
    | .ok n, .ok g => some (n * g.frameBytes)
    | _, _ => none
  | _ => none

namespace TeeStack

variable {stack : TeeStack δ η} {w : World μ} {action : Action}

/-- No reply of the device to an action is the failure of a sink. -/
structure Sinkless (stack : TeeStack δ η) (action : Action) (w : World μ) : Prop where
  /-- What the device answers is none. -/
  answer : Avoids StreamError.isSinkFailure
    ((bare stack.device : TeeStack δ η).act action w).reply.result
  /-- What it then tells of its setup is none. -/
  setup : Avoids StreamError.isSinkFailure (Device.setup (action.after stack.device))
  /-- What it then tells of its ring is none. -/
  ring : Avoids StreamError.isSinkFailure (Device.mappedRing (action.after stack.device))

/-- The recording of a transfer raises the alarms that go with its answer. -/
theorem Sinkless.raises_recording (h : stack.Sinkless action w) {transfer : Transfer δ μ η}
    (htransfer : action.transfer? μ η stack.device = some transfer) {n : Nat}
    (hstep : transfer.step.result = .ok n) :
    (transfer.recording transfer.step.device n).Raises (action.takenBack? stack.device) := by
  have hdevice := Action.device_of_transfer? htransfer
  have hsetup : Avoids StreamError.isSinkFailure (Device.setup transfer.step.device) :=
    hdevice ▸ h.setup
  obtain ⟨buffer, hrecording⟩ | ⟨buffers, hrecording⟩ | ⟨position, hrecording⟩ | ⟨_, rfl, rfl⟩ :=
    Action.recording_cases htransfer
  · rw [hrecording]
    exact Layer.raises_recordInterleaved hsetup buffer _
  · rw [hrecording]
    exact Layer.raises_recordPlanar hsetup buffers _
  · rw [hrecording]
    exact Layer.raises_recordCommit hsetup (hdevice ▸ h.ring) position _
  · apply Layer.raises_recordRewind hsetup
    intro g hg
    dsimp only at hstep hg
    simp only [Action.takenBack?, hstep, hg]

/-- What goes past the tees is reported and answered by the device, the direction and the
description apart, which are no failures. -/
theorem act_of_pass_eq (hpass : action.transfer? μ η stack.device = none) :
    (∃ events, ((bare stack.device : TeeStack δ η).act action w).world = w.reportAll events ∧
      (stack.act action w).world = w.reportAll events) ∧
    (Avoids StreamError.isSinkFailure
        ((bare stack.device : TeeStack δ η).act action w).reply.result →
      Avoids StreamError.isSinkFailure (stack.act action w).reply.result) := by
  cases action with
  | poke address value => exact ⟨⟨_, rfl, rfl⟩, id⟩
  | ask request =>
      cases request <;>
        first
          | exact ⟨⟨_, rfl, rfl⟩, id⟩
          | exact ⟨⟨[], rfl, rfl⟩, id⟩
          | cases hpass

/-- One action raises what the device alone would have raised, and then the alarms that go with the
answer. -/
theorem Sinkless.raised_act (h : stack.Sinkless action w) :
    ∃ own, w.Raised ((bare stack.device : TeeStack δ η).act action w).world own ∧
      w.Raised (stack.act action w).world
        (own ++ alarmsOf (action.takenBack? stack.device) (stack.act action w).reply.result) := by
  cases htransfer : action.transfer? μ η stack.device with
  | none =>
      obtain ⟨⟨events, hbelow, habove⟩, havoids⟩ := act_of_pass_eq (w := w) htransfer
      rw [alarmsOf_of_avoids (havoids h.answer), hbelow, habove]
      refine ⟨events.filter LogEvent.isAlarm, .reportAll w events, ?_⟩
      rw [List.append_nil]
      exact .reportAll w events
  | some transfer =>
      obtain ⟨hbelow, -, hbelowWorld⟩ := act_of_transfer (bare stack.device) w htransfer
      obtain ⟨habove, -, haboveWorld⟩ := act_of_transfer stack w htransfer
      have havoids := h.answer
      have hreported := World.Raised.reportAll w transfer.step.events
      rw [hbelow] at havoids
      rw [hbelowWorld, haboveWorld, habove, alarmsOf_map]
      refine ⟨transfer.step.events.filter LogEvent.isAlarm, ?_⟩
      obtain ⟨n, hstep, hn⟩ | hstill := moved_or_still transfer.step
      · have hraises := h.raises_recording htransfer hstep
        rw [recorded_of_moved hstep hn, recorded_of_moved hstep hn]
        dsimp only
        rw [alarmsOf_map]
        exact ⟨hreported, hreported.trans (raised_recordAll hraises stack.layers _)⟩
      · rw [recorded_of_still hstill] at havoids
        have hnone := alarmsOf_of_avoids havoids (action.takenBack? stack.device)
        rw [alarmsOf_map] at hnone
        rw [recorded_of_still hstill, recorded_of_still hstill]
        dsimp only at hnone ⊢
        rw [hnone, List.append_nil]
        exact ⟨hreported, hreported⟩

section Close

/-- Closing a sink raises no alarm, and does not fail because a write was taken in part. -/
theorem raised_closeSink (device : δ) (layer : Layer η) (w : World μ) :
    w.Raised (closeSink device layer w).2 [] ∧
      Avoids StreamError.isShortWrite ((closeSink device layer w).1.mapError .sink) := by
  constructor
  · exact World.Raised.nil_trans (.report w _) (layer.sink.raised_close _)
  · rw [result_closeSink, SinkFlush.answer]
    cases (flush layer w).reply with
    | error source => rfl
    | ok done => trivial

/-- The alarms that the device raises when the tees are closed: those of its own closing, if it is
closed. -/
def closingAlarms (device : δ) (layers : List (Layer η)) : List LogEvent :=
  if owned layers then (Device.close device).events.filter LogEvent.isAlarm else []

/-- Closing raises no other alarms than the device, and fails with no write taken in part unless the
device does. -/
theorem raised_closeAll (device : δ) (layers : List (Layer η)) (w : World μ) :
    w.Raised (closeAll device layers w).world (closingAlarms device layers) ∧
      (Avoids StreamError.isShortWrite (Device.close device).result →
        Avoids StreamError.isShortWrite (closeAll device layers w).result) := by
  induction layers generalizing w with
  | nil => exact ⟨.reportAll w _, id⟩
  | cons layer inner ih =>
      obtain ⟨hsink, hanswer⟩ := raised_closeSink device layer w
      rw [closingAlarms, owned_cons, closeAll]
      cases hslave : layer.closeSlave with
      | false => exact ⟨hsink, fun _ => hanswer⟩
      | true =>
          obtain ⟨hbelow, hresult⟩ := ih (closeSink device layer w).2
          simp only [joinClose, Bool.true_and, if_true]
          constructor
          · have hall := hsink.nil_trans hbelow
            cases (closeAll device inner (closeSink device layer w).2).result with
            | error e => exact hall.trans_nil (.report _ (.slaveCloseFailed e))
            | ok done => exact hall
          · intro havoids
            cases hclosed : (closeSink device layer w).1 with
            | error e =>
                rw [hclosed] at hanswer
                exact hanswer
            | ok done => exact hresult havoids

theorem raised_close (stack : TeeStack δ η) (w : World μ) :
    w.Raised (close stack w).world (closingAlarms stack.device stack.layers) ∧
      (Avoids StreamError.isShortWrite (Device.close stack.device).result →
        Avoids StreamError.isShortWrite (close stack w).result) := by
  obtain ⟨layers, device⟩ := stack
  obtain ⟨hraised, hresult⟩ := raised_closeAll device layers w
  cases layers with
  | nil => exact ⟨hraised, fun havoids => avoids_map.mpr (hresult havoids)⟩
  | cons layer inner =>
      rw [close_cons]
      exact ⟨hraised, fun havoids => avoids_map.mpr (hresult havoids)⟩

end Close

section Far

variable {frames bytes : Nat}

/-- Frames that are further back than a seek can express cannot be taken back from a sink. -/
theorem recordAll_recordRewind_far {device : δ} {g : FrameGeometry} {n : Nat}
    (hgeometry : Device.geometry device = .ok g) (hfar : Sink.maxDistance < n * g.frameBytes)
    (hbytes : n * g.frameBytes < Count.limit) {layers : List (Layer η)} (hlayers : layers ≠ [])
    (w : World μ) : ∃ label, (recordAll (Layer.recordRewind device n) layers w).1 =
      .error (.sink (.seek label .rewindTooFar)) := by
  induction layers with
  | nil => exact absurd rfl hlayers
  | cons outer inner ih =>
      cases inner with
      | nil =>
          refine ⟨outer.sink.label, ?_⟩
          simp only [recordAll, Layer.recordRewind, hgeometry,
            FrameGeometry.framesToBytes?_eq_some _ hbytes, Sink.seekBack, if_pos hfar]
      | cons next rest =>
          obtain ⟨label, hlabel⟩ := ih (List.cons_ne_nil next rest)
          refine ⟨label, ?_⟩
          rw [recordAll]
          rcases hrest : recordAll (Layer.recordRewind device n) (next :: rest) w with
            ⟨e | ⟨⟩, inner', w'⟩
          · rw [hrest] at hlabel
            exact hlabel
          · rw [hrest] at hlabel
            cases hlabel

/-- A rewind further back than a seek can express fails as one does whose seek has failed. -/
theorem act_rewind_far (hlayers : stack.layers ≠ [])
    (hbytes : (Action.ask (.rewind frames)).takenBack? stack.device = some bytes)
    (hfar : Sink.maxDistance < bytes) (hcount : bytes < Count.limit) :
    ∃ label, (stack.act (.ask (.rewind frames)) w).reply.result =
      .error (.sink (.seek label .rewindTooFar)) := by
  simp only [Action.takenBack?] at hbytes
  cases hstep : (Device.rewind frames stack.device).result with
  | error e =>
      rw [hstep] at hbytes
      cases hbytes
  | ok n =>
      cases hgeometry : Device.geometry (Device.rewind frames stack.device).device with
      | error e =>
          rw [hstep, hgeometry] at hbytes
          cases hbytes
      | ok g =>
          rw [hstep, hgeometry] at hbytes
          obtain rfl := Option.some.inj hbytes
          have hn : 0 < n := Nat.pos_of_mul_pos_right (Nat.zero_lt_of_lt hfar)
          obtain ⟨hresult, -, -⟩ := act_of_transfer stack w
            (rfl : (Action.ask (.rewind frames)).transfer? μ η stack.device = some _)
          obtain ⟨label, hlabel⟩ := recordAll_recordRewind_far hgeometry hfar hcount hlayers
            (w.reportAll (Device.rewind frames stack.device).events)
          refine ⟨label, ?_⟩
          rw [hresult, recorded_of_moved hstep hn]
          dsimp only
          rw [hlabel]
          rfl

/-- Of such a rewind nothing is raised but what the device raises. -/
theorem raised_act_rewind_far (h : stack.Sinkless (.ask (.rewind frames)) w)
    (hbytes : (Action.ask (.rewind frames)).takenBack? stack.device = some bytes)
    (hfar : Sink.maxDistance < bytes) {label : SinkLabel} {source : IoError}
    (hresult : (stack.act (.ask (.rewind frames)) w).reply.result =
      .error (.sink (.seek label source))) {own : List LogEvent}
    (hown : w.Raised ((bare stack.device : TeeStack δ η).act (.ask (.rewind frames)) w).world own) :
    w.Raised (stack.act (.ask (.rewind frames)) w).world own := by
  obtain ⟨own', hown', hact⟩ := h.raised_act
  obtain rfl := hown.unique hown'
  have hnone : alarmsOf (some bytes) (.error (.sink (.seek label source)) :
      Except StreamError Value) = [] := if_neg (Nat.not_le.mpr hfar)
  rwa [hbytes, hresult, hnone, List.append_nil] at hact

end Far

end TeeStack

/-- The runs of a stack of tees over a device that answers with no failures of sinks, each with the
alarms that it is to raise: what the device raises itself, and what goes with the answers. Besides
the actions of the application, something may happen to the device, which may report events, another
tee may be put on top, and the outermost one may be closed and hand back what is below it. -/
inductive Watch (stack₀ : TeeStack δ η) (w₀ : World μ) :
    List LogEvent → TeeStack δ η → World μ → Prop where
  | start : Watch stack₀ w₀ [] stack₀ w₀
  | act {alarms own : List LogEvent} {stack : TeeStack δ η} {w : World μ} (action : Action)
      (h : Watch stack₀ w₀ alarms stack w) (hsinkless : stack.Sinkless action w)
      (hown : w.Raised ((bare stack.device : TeeStack δ η).act action w).world own) :
      Watch stack₀ w₀ (alarms ++ (own ++
          alarmsOf (action.takenBack? stack.device) (stack.act action w).reply.result))
        (stack.act action w).stack (stack.act action w).world
  | past {alarms : List LogEvent} {stack : TeeStack δ η} {w : World μ} (device : δ)
      (events : List LogEvent) (h : Watch stack₀ w₀ alarms stack w) :
      Watch stack₀ w₀ (alarms ++ events.filter LogEvent.isAlarm) { stack with device }
        (w.reportAll events)
  | push {alarms : List LogEvent} {stack : TeeStack δ η} {w : World μ} (sink : Sink η)
      (closeSlave : Bool) (h : Watch stack₀ w₀ alarms stack w) :
      Watch stack₀ w₀ alarms (stack.push sink closeSlave w).1 (stack.push sink closeSlave w).2
  | handBack {alarms : List LogEvent} {stack below : TeeStack δ η} {w : World μ}
      (h : Watch stack₀ w₀ alarms stack w)
      (hclose : (close stack w).result = .ok (some below)) :
      Watch stack₀ w₀ alarms below (close stack w).world

namespace TeeStack

/-- A tee that hands back what is below it has not closed it. -/
theorem closingAlarms_of_handBack {stack below : TeeStack δ η} {w : World μ}
    (hclose : (close stack w).result = .ok (some below)) :
    closingAlarms stack.device stack.layers = [] := by
  obtain ⟨layers, device⟩ := stack
  cases layers with
  | nil =>
      obtain ⟨-, -, hbelow⟩ := exists_of_map_eq_ok hclose
      cases hbelow
  | cons layer inner =>
      rw [close_cons] at hclose
      obtain ⟨-, -, hbelow⟩ := exists_of_map_eq_ok hclose
      cases hslave : layer.closeSlave with
      | false => rw [closingAlarms, owned_cons, hslave, Bool.false_and, if_neg (by simp)]
      | true =>
          rw [hslave] at hbelow
          cases hbelow

end TeeStack

/-- A run raises the alarms that it is to raise. -/
theorem Watch.raised {stack₀ stack : TeeStack δ η} {w₀ w : World μ} {alarms : List LogEvent}
    (h : Watch stack₀ w₀ alarms stack w) : w₀.Raised w alarms := by
  induction h with
  | start => exact .refl w₀
  | act action h hsinkless hown ih =>
      obtain ⟨own', hown', hact⟩ := hsinkless.raised_act
      obtain rfl := hown.unique hown'
      exact ih.trans hact
  | past device events h ih => exact ih.trans (.reportAll _ events)
  | push sink closeSlave h ih => exact ih.trans_nil (.report _ _)
  | @handBack _ stack below w h hclose ih =>
      have hclosed := (raised_close stack w).1
      rw [closingAlarms_of_handBack hclose] at hclosed
      exact ih.trans_nil hclosed

namespace TeeStack

/-- The alarms in the log of any run of a stack of tees, over any device that answers with no
failures of sinks and any media, are those of the device and those that go with the answers of the
calls, in their order. So an action on the stack raises what the device alone raises, and one alarm
more exactly if it answers that a write was taken in part, or is a rewind that answers that a sink
could not be moved back by a distance which a seek can express. Closing raises no alarm of its own
and has no such answer. A rewind further back than a seek can express answers that the sink could
not be moved back, and raises no alarm of its own either. -/
theorem alarms_of_watch {stack₀ stack : TeeStack δ η} {w₀ w : World μ} {alarms : List LogEvent}
    (h : Watch stack₀ w₀ alarms stack w) :
    w₀.Raised w alarms ∧
      (∀ action, stack.Sinkless action w →
        ∃ own, w.Raised ((bare stack.device : TeeStack δ η).act action w).world own ∧
          w.Raised (stack.act action w).world
            (own ++ alarmsOf (action.takenBack? stack.device) (stack.act action w).reply.result)) ∧
      (w.Raised (close stack w).world (closingAlarms stack.device stack.layers) ∧
        (Avoids StreamError.isShortWrite (Device.close stack.device).result →
          Avoids StreamError.isShortWrite (close stack w).result)) ∧
      ∀ frames bytes, stack.layers ≠ [] → stack.Sinkless (.ask (.rewind frames)) w →
        (Action.ask (.rewind frames)).takenBack? stack.device = some bytes →
        Sink.maxDistance < bytes → bytes < Count.limit →
          ∃ label, (stack.act (.ask (.rewind frames)) w).reply.result =
              .error (.sink (.seek label .rewindTooFar)) ∧
            ∀ own, w.Raised ((bare stack.device : TeeStack δ η).act
                (.ask (.rewind frames)) w).world own →
              w.Raised (stack.act (.ask (.rewind frames)) w).world own := by
  refine ⟨h.raised, fun action hsinkless => hsinkless.raised_act, raised_close stack w, ?_⟩
  intro frames bytes hlayers hsinkless hbytes hfar hcount
  obtain ⟨label, hresult⟩ := act_rewind_far (w := w) hlayers hbytes hfar hcount
  exact ⟨label, hresult, fun own => raised_act_rewind_far hsinkless hbytes hfar hresult⟩

/-- Two tees over a device that says that it moved three frames, two and then more than a seek can
express. The lower writer takes one byte at a time, and the upper one has nothing to take back. The
third answer is that of a sink which could not be moved back, and goes without an alarm. -/
theorem alarms_of_watch_too_far :
    let device : ScriptedDevice :=
      { name := "scripted", direction := .playback, state := .running
        setup := some ⟨⟨1, .u8⟩, 8000, 4⟩, ring := .ofBytes #[1, 2, 3, 4], areas := #[⟨0, 8⟩]
        applPtr := 3, replies := [.ok 3, .ok 2, .ok 0x8000000000000000] }
    let w₀ : World Storage := { media := { writers := #[{}, { writeLimit := some 1 }] } }
    let lower := (bare device : TeeStack ScriptedDevice Handle).push
      (.ofWriter "lower" (.writer 1)) true w₀
    let upper := lower.1.push (.ofWriter "upper" (.writer 0)) true lower.2
    let a := upper.1.act (.ask (.commit 3)) upper.2
    let b := a.stack.act (.ask (.rewind 2)) a.world
    let c := b.stack.act (.ask (.rewind 1)) b.world
    w₀.Raised c.world
        [.shortWrite (.writer "lower") 2 1, .rewindFailed (.writer "upper") 2] ∧
      ∃ label, c.reply.result = .error (.sink (.seek label .rewindTooFar)) := by
  intro device w₀ lower upper a b c
  have hupper : Watch (bare device) w₀ [] upper.1 upper.2 := .push _ _ (.push _ _ .start)
  have hcommit : upper.1.Sinkless (.ask (.commit 3)) upper.2 :=
    ⟨by decide +kernel, by decide +kernel, by decide +kernel⟩
  have hrewind : a.stack.Sinkless (.ask (.rewind 2)) a.world :=
    ⟨by decide +kernel, by decide +kernel, by decide +kernel⟩
  have hfar : b.stack.Sinkless (.ask (.rewind 1)) b.world :=
    ⟨by decide +kernel, by decide +kernel, by decide +kernel⟩
  have ha := hupper.act _ hcommit (.of_log_eq rfl)
  have hb := ha.act _ hrewind (.of_log_eq rfl)
  obtain ⟨-, -, -, hlast⟩ := alarms_of_watch hb
  obtain ⟨hraised, -⟩ := alarms_of_watch (hb.act _ hfar (.of_log_eq rfl))
  constructor
  · convert hraised using 1
    decide +kernel
  · obtain ⟨label, hresult, -⟩ := hlast 1 0x8000000000000000 (by decide +kernel) hfar
      (by decide +kernel) (by decide) (by decide)
    exact ⟨label, hresult⟩

/-- A rewind that fails because a sink could not be moved back does not always raise an alarm. -/
theorem not_forall_raised : ¬ ∀ (stack : TeeStack ScriptedDevice Handle) (w : World Storage)
    (frames : Nat) (label : SinkLabel) (source : IoError),
    stack.Sinkless (.ask (.rewind frames)) w →
    (stack.act (.ask (.rewind frames)) w).reply.result = .error (.sink (.seek label source)) →
      ∃ own alarm, w.Raised ((bare stack.device : TeeStack ScriptedDevice Handle).act
          (.ask (.rewind frames)) w).world own ∧
        w.Raised (stack.act (.ask (.rewind frames)) w).world (own ++ [alarm]) := by
  intro h
  let device : ScriptedDevice :=
    { name := "scripted", direction := .playback, state := .running
      setup := some ⟨⟨1, .u8⟩, 8000, 4⟩, ring := .ofBytes #[0, 1, 2, 3], areas := #[⟨0, 8⟩]
      applPtr := 0, replies := [.ok 0x8000000000000000] }
  let stack : TeeStack ScriptedDevice Handle :=
    ⟨[⟨.ofWriter "copy" (.writer 0), true, .playback, {}⟩], device⟩
  let w : World Storage := { media := { writers := #[{}] } }
  have hsinkless : stack.Sinkless (.ask (.rewind 1)) w :=
    ⟨by decide +kernel, by decide +kernel, by decide +kernel⟩
  obtain ⟨label, hresult⟩ : ∃ label, (stack.act (.ask (.rewind 1)) w).reply.result =
      .error (.sink (.seek label .rewindTooFar)) :=
    act_rewind_far (List.cons_ne_nil _ _) rfl (by decide) (by decide)
  obtain ⟨own, alarm, -, hraised⟩ := h stack w 1 label .rewindTooFar hsinkless hresult
  have hsilent : w.Raised (stack.act (.ask (.rewind 1)) w).world [] := .of_log_eq rfl
  exact absurd (hraised.unique hsilent) (by simp)

end TeeStack

end FrameTee
