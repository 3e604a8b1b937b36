import FrameTee.Proofs.Request.Action
import FrameTee.Proofs.Stack.Recording

/-!
# Actions on a stack of tees

An action on a stack of tees first goes to the device. Some requests may move frames, and then the
tees record: `Request.transfer?` is the operation that such a request comes down to, with the
recording. Everything else the tees only pass on. Either way the device afterwards is what the
action makes of the device alone (`TeeStack.device_act`).

A session is a run of a stack of tees over any device: actions of the application on the stack, in
any order, and between them whatever happens to the device past the tees. Two things are known of a
session: a property that the device has after every turn, and that no answer was an error of a
certain kind (`Session`).
-/

namespace FrameTee

variable {δ μ η : Type}

/-- An answer is told by its value. -/
theorem eq_ok_of_toOption {α ε : Type} {result : Except ε α} {value : α}
    (h : result.toOption = some value) : result = .ok value := by
  cases result with
  | error e => cases h
  | ok other => exact congrArg Except.ok (Option.some.inj h)

/-- An answer that has been mapped to a value was given. -/
theorem exists_of_map_eq_ok {α β ε : Type} {answer : Except ε α} {f : α → β} {value : β}
    (h : answer.map f = .ok value) : ∃ a, answer = .ok a ∧ f a = value := by
  cases answer with
  | error e => cases h
  | ok a => exact ⟨a, rfl, Except.ok.inj h⟩

namespace TeeStack

variable {layers : List (Layer η)} {step : DeviceStep δ Nat}
  {recording : δ → Nat → Recording μ η} {w : World μ}

section RecordAll

variable {record : Recording μ η}

/-- What does not depend on the counters stays true of the tees. -/
theorem forall_recordAll {P : Layer η → Prop} (hrecord : record.CountsOnly)
    (hP : ∀ layer stats, P layer → P { layer with stats }) (hall : ∀ layer ∈ layers, P layer) :
    ∀ layer ∈ (recordAll record layers w).2.1, P layer := by
  induction layers with
  | nil => exact hall
  | cons outer inner ih =>
      have houter := hall outer List.mem_cons_self
      have hinner := ih fun layer hlayer => hall layer (List.mem_cons_of_mem _ hlayer)
      rw [recordAll]
      rcases hrest : recordAll record inner w with ⟨e | ⟨⟩, inner', w'⟩
      · rw [hrest] at hinner
        exact List.forall_mem_cons.mpr ⟨houter, hinner⟩
      · rw [hrest] at hinner
        obtain ⟨stats, hstats⟩ := hrecord outer w'
        have hrecorded : P (record outer w').2.1 := by
          rw [hstats]
          exact hP outer stats houter
        exact List.forall_mem_cons.mpr ⟨hrecorded, hinner⟩

/-- An error of the tees is an error of one of them. -/
theorem exists_of_recordAll_eq_error {e : StreamError}
    (h : (recordAll record layers w).1 = .error e) :
    ∃ layer w', (record layer w').1 = .error e := by
  induction layers with
  | nil => cases h
  | cons outer inner ih =>
      rw [recordAll] at h
      rcases hrest : recordAll record inner w with ⟨e' | ⟨⟩, inner', w'⟩
      · rw [hrest] at h ih
        exact ih h
      · rw [hrest] at h
        exact ⟨outer, w', h⟩

end RecordAll

section Recorded

@[simp] theorem device_recorded :
    (recorded layers step recording w).stack.device = step.device := by
  rw [recorded]
  split <;> rfl

/-- A transfer moved frames, or it failed or moved nothing. -/
theorem moved_or_still (step : DeviceStep δ Nat) :
    (∃ n, step.result = .ok n ∧ 0 < n) ∨ ∀ n, step.result = .ok n → n = 0 := by
  cases step.result with
  | error e => exact .inr nofun
  | ok n =>
      by_cases hn : 0 < n
      · exact .inl ⟨n, rfl, hn⟩
      · apply Or.inr
        intro k hk
        cases hk
        omega

/-- A transfer that failed or moved nothing is not recorded. -/
theorem recorded_of_still (hstill : ∀ n, step.result = .ok n → n = 0) :
    recorded layers step recording w =
      ⟨step.result, ⟨layers, step.device⟩, w.reportAll step.events⟩ := by
  rw [recorded]
  cases hstep : step.result with
  | error e => rfl
  | ok n =>
      obtain rfl := hstill n hstep
      rfl

/-- A transfer that moved frames is recorded by all tees. -/
theorem recorded_of_moved {n : Nat} (hstep : step.result = .ok n) (hn : 0 < n) :
    recorded layers step recording w =
      let after := recordAll (recording step.device n) layers (w.reportAll step.events)
      ⟨after.1.map fun _ => n, ⟨after.2.1, step.device⟩, after.2.2⟩ := by
  rw [recorded, hstep]
  obtain ⟨k, rfl⟩ := Nat.exists_eq_add_one.mpr hn
  rfl

/-- Only what is recorded of frames that were moved matters. -/
theorem recorded_congr {recording' : δ → Nat → Recording μ η}
    (h : ∀ n, step.result = .ok n → 0 < n → recording step.device n = recording' step.device n) :
    recorded layers step recording w = recorded layers step recording' w := by
  obtain ⟨n, hstep, hn⟩ | hstill := moved_or_still step
  · rw [recorded_of_moved hstep hn, recorded_of_moved hstep hn, h n hstep hn]
  · rw [recorded_of_still hstill, recorded_of_still hstill]

/-- Tees answer with no other count than the device. -/
theorem result_of_recorded_eq_ok {n : Nat}
    (h : (recorded layers step recording w).result = .ok n) : step.result = .ok n := by
  obtain ⟨k, hstep, hk⟩ | hstill := moved_or_still step
  · rw [recorded_of_moved hstep hk] at h
    change ((recordAll (recording step.device k) layers _).1.map fun _ => k) = .ok n at h
    cases hall : (recordAll (recording step.device k) layers (w.reportAll step.events)).1 with
    | error e =>
        rw [hall] at h
        cases h
    | ok _ =>
        rw [hall] at h
        exact hstep.trans h
  · rw [recorded_of_still hstill] at h
    exact h

/-- What the tees below have answered with a count, the tee above records over what they left. -/
theorem recorded_cons {outer : Layer η} {n : Nat}
    (h : (recorded layers step recording w).result = .ok n) (hn : 0 < n) :
    let below := recorded layers step recording w
    let own := recording below.stack.device n outer below.world
    recorded (outer :: layers) step recording w =
      ⟨own.1.map fun _ => n, ⟨own.2.1 :: below.stack.layers, below.stack.device⟩, own.2.2⟩ := by
  have hstep := result_of_recorded_eq_ok h
  rw [recorded_of_moved hstep hn] at h ⊢
  rw [recorded_of_moved hstep hn, recordAll]
  generalize recordAll (recording step.device n) layers (w.reportAll step.events) = after at h ⊢
  obtain ⟨e | ⟨⟩, inner, w'⟩ := after
  · cases h
  · rfl

/-- What the tees below have answered with an error, or with no frames, the tee above passes on. -/
theorem recorded_cons_of_still {outer : Layer η}
    (h : ∀ n, (recorded layers step recording w).result = .ok n → n = 0) :
    let below := recorded layers step recording w
    recorded (outer :: layers) step recording w =
      { below with stack := ⟨outer :: below.stack.layers, below.stack.device⟩ } := by
  obtain ⟨n, hstep, hn⟩ | hstill := moved_or_still step
  · rw [recorded_of_moved hstep hn] at h ⊢
    rw [recorded_of_moved hstep hn, recordAll]
    generalize recordAll (recording step.device n) layers (w.reportAll step.events) = after at h ⊢
    obtain ⟨e | ⟨⟩, inner, w'⟩ := after
    · rfl
    · exact absurd (h n rfl) (Nat.pos_iff_ne_zero.mp hn)
  · rw [recorded_of_still hstill, recorded_of_still hstill]

end Recorded

end TeeStack

/-- An operation that may move frames, and what tees record when it has. -/
structure Transfer (δ μ η : Type) where
  /-- The operation of the device. -/
  step : DeviceStep δ Nat
  /-- The recording, for the device afterwards and the frames that were moved. -/
  recording : δ → Nat → Recording μ η

variable [Device δ] [Medium μ η]

variable (μ η) in
/-- The transfer that a request asks for, if it asks for one. -/
def Request.transfer? (request : Request) (device : δ) : Option (Transfer δ μ η) :=
  match request with
  | .writeInterleaved buffer frames =>
    some ⟨Device.writeInterleaved buffer frames device, Layer.recordInterleaved buffer⟩
  | .writePlanar buffers frames =>
    some ⟨Device.writePlanar buffers frames device, Layer.recordPlanar buffers⟩
  | .readInterleaved buffer frames =>
    some ⟨(Device.readInterleaved buffer frames device).1,
      Layer.recordInterleaved (Device.readInterleaved buffer frames device).2⟩
  | .readPlanar buffers frames =>
    some ⟨(Device.readPlanar buffers frames device).1,
      Layer.recordPlanar (Device.readPlanar buffers frames device).2⟩
  | .commit frames =>
    some ⟨Device.commit frames device, Layer.recordCommit (Device.applPtr device)⟩
  | .rewind frames => some ⟨Device.rewind frames device, Layer.recordRewind⟩
  | _ => none

variable (μ η) in
/-- The transfer that an action asks for, if it asks for one. -/
def Action.transfer? (action : Action) (device : δ) : Option (Transfer δ μ η) :=
  match action with
  | .ask request => request.transfer? μ η device
  | .poke .. => none

/-- The device after a transfer is the device after the action. -/
theorem Action.device_of_transfer? {action : Action} {device : δ} {transfer : Transfer δ μ η}
    (h : action.transfer? μ η device = some transfer) :
    transfer.step.device = action.after device := by
  cases action with
  | poke address value => cases h
  | ask request => cases request <;> cases h <;> rfl

/-- What is recorded of a transfer is one interleaved buffer, one buffer per channel or a part of
the ring, or that frames were taken back. -/
theorem Action.recording_cases {action : Action} {device : δ} {transfer : Transfer δ μ η}
    (h : action.transfer? μ η device = some transfer) :
    (∃ buffer, transfer.recording = Layer.recordInterleaved buffer) ∨
      (∃ buffers, transfer.recording = Layer.recordPlanar buffers) ∨
      (∃ position, transfer.recording = Layer.recordCommit position) ∨
      ∃ frames, action = .ask (.rewind frames) ∧
        transfer = ⟨Device.rewind frames device, Layer.recordRewind⟩ := by
  cases action with
  | poke address value => cases h
  | ask request =>
      cases request with
      | writeInterleaved | readInterleaved =>
          cases h
          exact .inl ⟨_, rfl⟩
      | writePlanar | readPlanar =>
          cases h
          exact .inr (.inl ⟨_, rfl⟩)
      | commit frames =>
          cases h
          exact .inr (.inr (.inl ⟨_, rfl⟩))
      | rewind frames =>
          cases h
          exact .inr (.inr (.inr ⟨frames, rfl, rfl⟩))
      | _ => cases h

namespace TeeStack

variable {stack : TeeStack δ η} {w : World μ}

/-- Performs an action on a stack of tees. -/
def act (action : Action) (stack : TeeStack δ η) (w : World μ) : Performed δ μ η :=
  match action with
  | .ask request => stack.perform request w
  | .poke address value =>
    let outcome := stack.pass (Device.poke address value) w
    ⟨⟨outcome.result.map fun _ => .done, .none⟩, outcome.stack, outcome.world⟩

/-- The device after an action on a stack is the device after the action. -/
theorem device_act (action : Action) (stack : TeeStack δ η) (w : World μ) :
    (stack.act action w).stack.device = action.after stack.device := by
  cases action with
  | poke address value => rfl
  | ask request =>
      cases request with
      | writeInterleaved buffer frames => exact device_recorded
      | writePlanar buffers frames => exact device_recorded
      | readInterleaved buffer frames => exact device_recorded
      | readPlanar buffers frames => exact device_recorded
      | commit frames => exact device_recorded
      | rewind frames => exact device_recorded
      | _ => rfl

variable {action : Action} {transfer : Transfer δ μ η}

/-- A transfer is answered by the device and its recording. -/
theorem act_of_transfer (stack : TeeStack δ η) (w : World μ)
    (h : action.transfer? μ η stack.device = some transfer) :
    let outcome := recorded stack.layers transfer.step transfer.recording w
    (stack.act action w).reply.result = outcome.result.map .count ∧
      (stack.act action w).stack = outcome.stack ∧
      (stack.act action w).world = outcome.world := by
  cases action with
  | poke address value => cases h
  | ask request => cases request <;> cases h <;> exact ⟨rfl, rfl, rfl⟩

/-- Any other action goes past the tees: they and what is behind their sinks stay as they are. -/
theorem act_of_pass (h : action.transfer? μ η stack.device = none) :
    (stack.act action w).stack.layers = stack.layers ∧
      (stack.act action w).world.media = w.media := by
  cases action with
  | poke address value => exact ⟨rfl, rfl⟩
  | ask request => cases request <;> first | exact ⟨rfl, rfl⟩ | cases h

/-- An action leaves the tees and what is behind their sinks as they are, or frames were moved and
the tees record them. -/
theorem act_cases (action : Action) (stack : TeeStack δ η) (w : World μ) :
    ((stack.act action w).stack.layers = stack.layers ∧
      (stack.act action w).world.media = w.media) ∨
    ∃ (transfer : Transfer δ μ η) (n : Nat), action.transfer? μ η stack.device = some transfer ∧
      transfer.step = { transfer.step with result := .ok n, device := action.after stack.device } ∧
      0 < n ∧
      let after := recordAll (transfer.recording (action.after stack.device) n) stack.layers
        (w.reportAll transfer.step.events)
      (stack.act action w).reply.result = after.1.map (fun _ => .count n) ∧
        (stack.act action w).stack.layers = after.2.1 ∧ (stack.act action w).world = after.2.2 := by
  cases htransfer : action.transfer? μ η stack.device with
  | none => exact .inl (act_of_pass htransfer)
  | some transfer =>
      obtain ⟨hresult, hstack, hworld⟩ := act_of_transfer stack w htransfer
      have hdevice := Action.device_of_transfer? htransfer
      obtain ⟨n, hstep, hn⟩ | hstill := moved_or_still transfer.step
      · rw [recorded_of_moved hstep hn, hdevice] at hresult hstack hworld
        refine .inr ⟨transfer, n, rfl, ?_, hn, ?_, ?_, hworld⟩
        · rw [← hstep, ← hdevice]
        · rw [hresult]
          dsimp only
          cases (recordAll (transfer.recording (action.after stack.device) n) stack.layers
            (w.reportAll transfer.step.events)).1 <;> rfl
        · rw [hstack]
      · rw [recorded_of_still hstill] at hstack hworld
        refine .inl ⟨?_, ?_⟩
        · rw [hstack]
        · rw [hworld]
          rfl

/-- The recording of a transfer changes nothing of a tee but its counters. -/
theorem countsOnly_recording {device : δ} (h : action.transfer? μ η device = some transfer)
    (after : δ) (frames : Nat) : (transfer.recording after frames).CountsOnly := by
  obtain ⟨buffer, hrecording⟩ | ⟨buffers, hrecording⟩ | ⟨position, hrecording⟩ | ⟨_, -, rfl⟩ :=
    Action.recording_cases h
  · rw [hrecording]
    exact Layer.countsOnly_recordInterleaved buffer after frames
  · rw [hrecording]
    exact Layer.countsOnly_recordPlanar buffers after frames
  · rw [hrecording]
    exact Layer.countsOnly_recordCommit position after frames
  · exact Layer.countsOnly_recordRewind after frames

/-- What does not depend on the counters stays true of the tees whatever is done. -/
theorem forall_act {P : Layer η → Prop} (action : Action)
    (hP : ∀ layer stats, P layer → P { layer with stats })
    (hall : ∀ layer ∈ stack.layers, P layer) :
    ∀ layer ∈ (stack.act action w).stack.layers, P layer := by
  cases htransfer : action.transfer? μ η stack.device with
  | none =>
      rw [(act_of_pass htransfer).1]
      exact hall
  | some transfer =>
      obtain ⟨-, hstack, -⟩ := act_of_transfer stack w htransfer
      rw [hstack]
      obtain ⟨n, hstep, hn⟩ | hstill := moved_or_still transfer.step
      · rw [recorded_of_moved hstep hn]
        exact forall_recordAll (countsOnly_recording htransfer _ n) hP hall
      · rw [recorded_of_still hstill]
        exact hall

end TeeStack

section Session

variable {α : Type}

/-- An answer is no error of the kind `fatal`. -/
def Avoids (fatal : StreamError → Bool) : Except StreamError α → Prop
  | .ok _ => True
  | .error e => fatal e = false

instance (fatal : StreamError → Bool) (answer : Except StreamError α) :
    Decidable (Avoids fatal answer) :=
  match answer with
  | .ok _ => .isTrue trivial
  | .error e => inferInstanceAs (Decidable (fatal e = false))

@[simp] theorem avoids_map {β : Type} {fatal : StreamError → Bool} {answer : Except StreamError α}
    {f : α → β} : Avoids fatal (answer.map f) ↔ Avoids fatal answer := by
  cases answer <;> exact .rfl

/-- The runs of a stack of tees from a start on in which the device always is as `P` says and no
answer is an error of the kind `fatal`. Between the actions of the application something may happen
to the device, which may report events. -/
inductive Session (P : δ → Prop) (fatal : StreamError → Bool) (stack₀ : TeeStack δ η)
    (w₀ : World μ) : TeeStack δ η → World μ → Prop where
  | start : Session P fatal stack₀ w₀ stack₀ w₀
  | act {stack : TeeStack δ η} {w : World μ} (action : Action)
      (h : Session P fatal stack₀ w₀ stack w) (hdevice : P (action.after stack.device))
      (hanswer : Avoids fatal (stack.act action w).reply.result) :
      Session P fatal stack₀ w₀ (stack.act action w).stack (stack.act action w).world
  | past {stack : TeeStack δ η} {w : World μ} (device : δ) (events : List LogEvent)
      (h : Session P fatal stack₀ w₀ stack w) (hdevice : P device) :
      Session P fatal stack₀ w₀ { stack with device } (w.reportAll events)

end Session

end FrameTee
