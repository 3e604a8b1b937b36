import FrameTee.Device.Scripted
import FrameTee.Proofs.Stack.Answers
import FrameTee.Proofs.Stack.Memory
import FrameTee.Storage.Basic

/-!
# Tees are transparent

Whatever an application does with a stack of tees, the device in it goes through the same states as
it would alone, reads fill the same buffers, and answers are the same. There is one exception: where
the device has moved frames, a tee may answer that they could not be recorded (`Excused`). Over a
memory device that is always a failure of the sink. Over a device that claims to have moved more
frames than there can be room for, a tee may even not answer at all (`Action.Vast`).

## Implementation notes

The proof compares one action on a stack with the same action on its device alone
(`transparent_act`). What a run has to keep for that is the direction of the tees, which each tee
has found when it was opened.
-/

namespace FrameTee

open MemoryDevice

variable {δ μ η : Type}

/-- Reads, writes, commits and rewinds. -/
def Action.IsTransfer : Action → Prop
  | .ask (.writeInterleaved ..) | .ask (.writePlanar ..) => True
  | .ask (.readInterleaved ..) | .ask (.readPlanar ..) => True
  | .ask (.commit _) | .ask (.rewind _) => True
  | _ => False

/-- The answer `above` of tees goes with the answer `below` of the device: it is the same, or frames
were moved and could not be recorded, for a reason that goes with their number. -/
inductive Excused (P : Nat → StreamError → Prop) (action : Action)
    (below above : Except StreamError Value) : Prop where
  | same (h : above = below)
  | failed (n : Nat) (e : StreamError) (htransfer : action.IsTransfer) (hn : 0 < n)
      (hbelow : below = .ok (.count n)) (habove : above = .error e) (he : P n e)

/-- An action on tees came to the same as on the device alone, failures to record apart, which are
such as `P` says of the device afterwards. -/
structure Transparent (P : δ → Nat → StreamError → Prop) (action : Action)
    (below above : Performed δ μ η) : Prop where
  /-- The device is in the same state. -/
  device : above.stack.device = below.stack.device
  /-- Buffers hold the same bytes. -/
  buffers : above.reply.buffers = below.reply.buffers
  /-- Answers are the same, failures to record apart. -/
  result : Excused (P below.stack.device) action below.reply.result above.reply.result

namespace ScriptedDevice

theorem direction_reply (d : ScriptedDevice) : d.reply.device.direction = d.direction := by
  rw [reply]
  cases d.replies <;> rfl

/-- The direction of a scripted device stays fixed. -/
theorem direction_after (action : Action) (d : ScriptedDevice) :
    Device.direction (action.after d) = Device.direction d := by
  cases action with
  | poke address value => rfl
  | ask request =>
      cases request with
      | storeMapped offset src =>
          change Device.direction (Device.storeMapped offset src d).device = _
          rw [Device.storeMapped]
          cases Device.geometry d <;> rfl
      | availUpdate | prepare | start | stop | drain | pause | setNonblocking | writeInterleaved
      | writePlanar | readInterleaved | readPlanar | commit | rewind => exact d.direction_reply
      | _ => rfl

/-- A scripted device answers for its setup and its ring. -/
theorem answers (d : ScriptedDevice) : Device.Answers d where
  setup := by
    intro e herror
    obtain ⟨name, direction, state, setup, ring, areas, applPtr, replies, closeError⟩ := d
    cases setup with
    | none =>
        obtain rfl := Except.error.inj herror
        rfl
    | some s => cases herror
  ring := by
    intro e herror
    cases herror

end ScriptedDevice

namespace TeeStack

variable {stack : TeeStack δ η} {w w' : World μ}

theorem eq_bare_of_layers (h : stack.layers = []) : stack = bare stack.device := by
  obtain ⟨layers, device⟩ := stack
  obtain rfl : layers = [] := h
  rfl

variable [Device δ]

/-- A device under tees, one for each sink, the first one outermost. Each says whether closing it
closes what is below. -/
def layered (device : δ) (w : World μ) : List (Sink η × Bool) → TeeStack δ η × World μ
  | [] => (bare device, w)
  | (sink, closeSlave) :: inner =>
    let (stack, w) := layered device w inner
    stack.push sink closeSlave w

/-- Every tee has found the direction of the device when it was opened. -/
def Directed (stack : TeeStack δ η) : Prop :=
  ∀ layer ∈ stack.layers, layer.direction = Device.direction stack.device

theorem Directed.direction_eq (h : stack.Directed) :
    stack.direction = Device.direction stack.device := by
  obtain ⟨layers, device⟩ := stack
  cases layers with
  | nil => rfl
  | cons outer inner => exact h outer List.mem_cons_self

theorem device_layered (device : δ) (w : World μ) (tees : List (Sink η × Bool)) :
    (layered device w tees).1.device = device := by
  induction tees with
  | nil => rfl
  | cons tee inner ih => exact ih

theorem directed_layered (device : δ) (w : World μ) (tees : List (Sink η × Bool)) :
    (layered device w tees).1.Directed := by
  induction tees with
  | nil => exact fun layer hlayer => nomatch hlayer
  | cons tee inner ih =>
      intro layer hlayer
      obtain rfl | hinner := List.mem_cons.mp hlayer
      · exact ih.direction_eq
      · exact ih layer hinner

variable [Medium μ η]

/-- What a run of actions leaves behind. -/
def run : List Action → TeeStack δ η × World μ → TeeStack δ η × World μ
  | [], state => state
  | action :: rest, (stack, w) =>
    let performed := stack.act action w
    run rest (performed.stack, performed.world)

/-- The buffers of the caller are filled by the device. -/
theorem buffers_act (action : Action) :
    (stack.act action w).reply.buffers =
      ((bare stack.device : TeeStack δ η).act action w').reply.buffers := by
  cases action with
  | poke address value => rfl
  | ask request => cases request <;> rfl

/-- What goes past the tees is answered by the device. -/
theorem reply_of_pass (h : stack.Directed) {action : Action} (hdump : action ≠ .ask .dump)
    (hpass : action.transfer? μ η stack.device = none) :
    (stack.act action w).reply.result =
      ((bare stack.device : TeeStack δ η).act action w').reply.result := by
  cases action with
  | poke address value => rfl
  | ask request =>
      cases request with
      | direction =>
          change Except.ok (Value.direction stack.direction) = _
          rw [h.direction_eq]
          rfl
      | dump => exact absurd rfl hdump
      | writeInterleaved | writePlanar | readInterleaved | readPlanar | commit | rewind =>
          cases hpass
      | _ => rfl

theorem isTransfer_of_transfer? {action : Action} {transfer : Transfer δ μ η} {device : δ}
    (h : action.transfer? μ η device = some transfer) : action.IsTransfer := by
  cases action with
  | poke address value => cases h
  | ask request => cases request <;> first | exact trivial | cases h

/-- One action on a stack of tees compared with the action on the device alone. -/
theorem transparent_act {P : δ → Nat → StreamError → Prop} (h : stack.Directed) {action : Action}
    (hdump : action ≠ .ask .dump)
    (hP : ∀ transfer n, action.transfer? μ η stack.device = some transfer →
      transfer.step.result = .ok n → ∀ layer (w : World μ) e,
        (transfer.recording transfer.step.device n layer w).1 = .error e →
          P transfer.step.device n e) :
    Transparent P action ((bare stack.device : TeeStack δ η).act action w')
      (stack.act action w) := by
  constructor
  · rw [device_act, device_act]
    rfl
  · exact buffers_act action
  cases htransfer : action.transfer? μ η stack.device with
  | none => exact .same (reply_of_pass h hdump htransfer)
  | some transfer =>
      obtain ⟨habove, -, -⟩ := act_of_transfer stack w htransfer
      obtain ⟨hbelow, hstack, -⟩ := act_of_transfer (bare stack.device) w' htransfer
      rw [habove, hbelow, hstack, device_recorded]
      obtain ⟨n, hstep, hn⟩ | hstill := moved_or_still transfer.step
      · rw [recorded_of_moved hstep hn, recorded_of_moved hstep hn]
        dsimp only
        cases hrecord : (recordAll (transfer.recording transfer.step.device n) stack.layers
            (w.reportAll transfer.step.events)).1 with
        | ok _ => exact .same rfl
        | error e =>
            obtain ⟨layer, w'', hlayer⟩ := exists_of_recordAll_eq_error hrecord
            exact .failed n e (isTransfer_of_transfer? htransfer) hn rfl rfl
              (hP transfer n htransfer hstep layer w'' e hlayer)
      · rw [recorded_of_still hstill, recorded_of_still hstill]
        exact .same rfl

section Run

variable {I : δ → Prop}
  (hI : ∀ (action : Action) (device : δ), I device →
    I (action.after device) ∧ Device.direction (action.after device) = Device.direction device)

/-- The device after a run is the same under all tees. -/
theorem device_run (actions : List Action) (stack : TeeStack δ η) (w : World μ) :
    (run actions (stack, w)).1.device =
      actions.foldl (fun device action => action.after device) stack.device := by
  induction actions generalizing stack w with
  | nil => rfl
  | cons action rest ih =>
      rw [run, ih, device_act]
      rfl

include hI in
/-- A device whose direction stays fixed stays under tees that know its direction. -/
theorem directed_run (actions : List Action) (hdevice : I stack.device) (h : stack.Directed) :
    I (run actions (stack, w)).1.device ∧ (run actions (stack, w)).1.Directed := by
  induction actions generalizing stack w with
  | nil => exact ⟨hdevice, h⟩
  | cons action rest ih =>
      obtain ⟨hafter, hdirection⟩ := hI action stack.device hdevice
      apply ih
      · rw [device_act]
        exact hafter
      · intro layer hlayer
        rw [device_act, hdirection]
        exact forall_act (P := fun layer => layer.direction = Device.direction stack.device) action
          (fun _ _ hlayer => hlayer) h layer hlayer

/-- Without tees there are none after a run. -/
theorem layers_run_bare (actions : List Action) (h : stack.layers = []) :
    (run actions (stack, w)).1.layers = [] := by
  induction actions generalizing stack w with
  | nil => exact h
  | cons action rest ih =>
      apply ih
      rw [List.eq_nil_iff_forall_not_mem]
      apply forall_act (P := fun _ => False) action (fun _ _ hlayer => hlayer)
      rw [h]
      exact fun layer hlayer => nomatch hlayer

include hI in
/-- Every action of a run on tees compared with the run on the device alone. -/
theorem transparent_run {P : δ → Nat → StreamError → Prop} {next : Action}
    (hP : ∀ (device : δ) transfer n, I device →
      next.transfer? μ η device = some transfer → transfer.step.result = .ok n →
        ∀ layer (w : World μ) e, (transfer.recording transfer.step.device n layer w).1 = .error e →
          P transfer.step.device n e)
    {device : δ} (hdevice : I device) (tees : List (Sink η × Bool)) (before : List Action)
    (hdump : next ≠ .ask .dump) :
    let above := run before (layered device w tees)
    let below := run before ((bare device : TeeStack δ η), w')
    Transparent P next (below.1.act next below.2) (above.1.act next above.2) := by
  intro above below
  have hlayered : I (layered device w tees).1.device := by
    rw [device_layered]
    exact hdevice
  obtain ⟨hI', hdirected⟩ := directed_run hI (w := (layered device w tees).2) before hlayered
    (directed_layered device w tees)
  have hbelow : below.1 = bare above.1.device := by
    have hdevice' : below.1.device = above.1.device := by
      rw [device_run, device_run, device_layered]
      rfl
    rw [← hdevice']
    exact eq_bare_of_layers (layers_run_bare before rfl)
  rw [hbelow]
  exact transparent_act hdirected hdump fun transfer n htransfer hstep =>
    hP above.1.device transfer n hI' htransfer hstep

end Run

/-- After any run, any action on tees over a device comes to the same as on the device alone,
failures to record apart, if the direction of the device stays fixed and it answers for its setup
and its ring. A tee then answers that the frames could not be recorded, unless there is no room for
them. Over a memory device in any state that it reaches, only the sink makes a recording fail. All
this is said for counters that are counts in the end, and so in between. -/
theorem transparent_layered (tees : List (Sink η × Bool)) (w w' : World μ) (before : List Action)
    {next : Action} (hdump : next ≠ .ask .dump) :
    (∀ {δ : Type} [Device δ] (device : δ),
      (∀ (action : Action) (d : δ), Device.direction (action.after d) = Device.direction d) →
      (∀ d : δ, Device.Answers d) →
        let above := run before (layered device w tees)
        let below := run before ((bare device : TeeStack δ η), w')
        (above.1.act next above.2).stack.Countable →
          Transparent (fun d n e => e.isAnswer = true ∨ next.Vast d n) next
            (below.1.act next below.2) (above.1.act next above.2)) ∧
    ∀ (m : MemoryDevice) (laid : Option RingLayout), Reached m laid →
      let above := run before (layered m w tees)
      let below := run before ((bare m : TeeStack MemoryDevice η), w')
      (above.1.act next above.2).stack.Countable →
        Transparent (fun _ _ e => ∃ error, e = .sink error) next (below.1.act next below.2)
          (above.1.act next above.2) := by
  constructor
  · intro δ _ device hdirection hanswers above below _
    exact transparent_run (I := fun _ => True) (fun action d _ => ⟨trivial, hdirection action d⟩)
      (fun _ _ _ _ htransfer _ _ _ _ herror =>
        Action.isAnswer_or_vast htransfer (hanswers _) herror) trivial tees before hdump
  · intro m laid hreached above below _
    apply transparent_run (I := fun m => ∃ laid, Reached m laid) _ _ ⟨laid, hreached⟩ tees before
      hdump
    · rintro action device ⟨laid', hdevice⟩
      exact ⟨⟨_, .act action hdevice⟩, hdevice.direction_after action⟩
    · rintro device transfer n ⟨laid', hdevice⟩ htransfer hstep layer w'' e herror
      have hfailure : e.isSinkFailure = true :=
        (transfer_outcome hdevice.sound.intact htransfer).isSinkFailure hstep herror
      cases e with
      | sink error => exact ⟨error, rfl⟩
      | _ => cases hfailure

/-- Two tees, the lower one with a writer that takes a single byte, over a player, which writes, and
over a device that claims to have written more than the buffer holds. The tees say that the copy is
incomplete. -/
theorem transparent_layered_short_write :
    let tees : List (Sink Handle × Bool) :=
      [(.ofWriter "upper" (.writer 0), true), (.ofWriter "lower" (.writer 1), false)]
    let w : World Storage := { media := { writers := #[{}, { writeLimit := some 1 }] } }
    let next := Action.ask (.writeInterleaved #[1, 2, 3] 3)
    let above := run [.poke 0 7] (layered readyPlayer w tees)
    let below := run [.poke 0 7] ((bare readyPlayer : TeeStack MemoryDevice Handle), w)
    let device : ScriptedDevice :=
      ⟨"hw", .playback, .running, some ⟨⟨1, .u8⟩, 8000, 4⟩, .zeros 4, #[⟨0, 8⟩], 0, [.ok 9], none⟩
    let above' := run [.poke 0 7] (layered device w tees)
    let below' := run [.poke 0 7] ((bare device : TeeStack ScriptedDevice Handle), w)
    next ≠ .ask .dump ∧ (above.1.act next above.2).stack.Countable ∧
      Transparent (fun _ _ e => ∃ error, e = .sink error) next (below.1.act next below.2)
        (above.1.act next above.2) ∧
      (below.1.act next below.2).reply.result.isOk = true ∧
      (above.1.act next above.2).reply.result.isOk = false ∧
      (above'.1.act next above'.2).stack.Countable ∧
      Transparent (fun d n e => e.isAnswer = true ∨ next.Vast d n) next
        (below'.1.act next below'.2) (above'.1.act next above'.2) ∧
      (below'.1.act next below'.2).reply.result.isOk = true ∧
      (above'.1.act next above'.2).reply.result.isOk = false := by
  intro tees w next above below device above' below'
  have hnext : next ≠ .ask .dump := by simp [next]
  have hcountable : (above.1.act next above.2).stack.Countable := by decide +kernel
  have hcountable' : (above'.1.act next above'.2).stack.Countable := by decide +kernel
  obtain ⟨hany, hmemory⟩ := transparent_layered tees w w [.poke 0 7] hnext
  have hscripted :=
    hany device ScriptedDevice.direction_after ScriptedDevice.answers hcountable'
  exact ⟨hnext, hcountable, hmemory readyPlayer _ reached_readyPlayer hcountable, by decide +kernel,
    by decide +kernel, hcountable', hscripted, by decide +kernel, by decide +kernel⟩

/-- A device whose direction stays fixed and that answers for its setup and its ring may claim to
have written more frames of two buffers than there is room for. The tee over it then neither answers
the same nor that the frames could not be recorded. -/
theorem not_forall_transparent :
    (∀ (action : Action) (d : ScriptedDevice),
      Device.direction (action.after d) = Device.direction d) ∧
    (∀ d : ScriptedDevice, Device.Answers d) ∧
    ¬ ∀ (device : ScriptedDevice) (tees : List (Sink Handle × Bool)) (w : World Storage)
      (next : Action), next ≠ .ask .dump →
        Transparent (fun _ _ e => e.isAnswer = true) next
          ((bare device : TeeStack ScriptedDevice Handle).act next w)
          ((layered device w tees).1.act next (layered device w tees).2) := by
  refine ⟨ScriptedDevice.direction_after, ScriptedDevice.answers, ?_⟩
  intro h
  let device : ScriptedDevice :=
    ⟨"hw", .playback, .running, some ⟨⟨2, .u8⟩, 8000, 4⟩, .zeros 8, #[], 0,
      [.ok 0x4000000000000000], none⟩
  obtain hsame | ⟨n, e, -, -, -, herror, hanswer⟩ :=
    (h device [(.ofWriter "copy" (.writer 0), true)] { media := { writers := #[{}] } }
      (.ask (.writePlanar #[#[1, 2], #[3, 4]] 2)) (by simp)).result
  · cases hsame
  · obtain rfl : .area .capacityOverflow = e := Except.error.inj herror
    cases hanswer

end TeeStack

end FrameTee
