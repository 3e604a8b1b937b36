import FrameTee.Proofs.Sink.Copy
import FrameTee.Proofs.Stack.Turn

/-!
# Courses of a tee over a memory device

A `Course` is a run of a tee over a memory device: actions of the application on the tee and
requests to the hardware side of the device, in any order, for as long as no answer says that the
sink failed. What every turn keeps holds at the end of every course (`Course.keeps`).

## Implementation notes

A course carries along what cannot be seen in the states any more: the highest position that the
application has reached, and all bytes that the device has recorded.
-/

namespace FrameTee

open MemoryDevice

variable {μ η : Type} [Medium μ η]

/-- The runs of a tee over a memory device from a start on, actions of the application on the tee
and requests to the hardware side of the device, with the highest position of the application and
the bytes recorded so far. -/
inductive Course (stack₀ : TeeStack MemoryDevice η) (w₀ : World μ) :
    TeeStack MemoryDevice η → World μ → Nat → Bytes → Prop where
  | start : Course stack₀ w₀ stack₀ w₀ stack₀.device.applPtr #[]
  | act {stack : TeeStack MemoryDevice η} {w : World μ} {peak : Nat} {recorded : Bytes}
      (action : Action) (h : Course stack₀ w₀ stack w peak recorded)
      (hspares : action.Spares stack.device)
      (hsink : ∀ e, (stack.act action w).reply.result = .error e → e.isSinkFailure = false) :
      Course stack₀ w₀ (stack.act action w).stack (stack.act action w).world
        (max peak (stack.act action w).stack.device.applPtr) recorded
  | drive {stack : TeeStack MemoryDevice η} {w : World μ} {peak : Nat} {recorded : Bytes}
      (request : HardwareRequest) (h : Course stack₀ w₀ stack w peak recorded) :
      Course stack₀ w₀ (stack.pass (MemoryDevice.perform request) w).stack
        (stack.pass (MemoryDevice.perform request) w).world
        (max peak (stack.device.perform request).device.applPtr)
        (recorded ++ request.accepted stack.device)

namespace Turn

variable {s : StreamSetup} {m m' : MemoryDevice} {st st' : SinkState} {accepted : Bytes}

theorem setup_eq (h : Turn s m st m' st' accepted) : m'.setup = m.setup := by
  cases h with
  | rest h => exact h.setup
  | forth n ring bytes _ _ _ _ h => exact h.setup
  | back n _ h => exact h.setup
  | play n _ _ h => exact h.setup
  | record n ring bytes _ _ _ _ h => exact h.setup
  | edit ring _ _ h => exact h.setup

theorem inside (h : Turn s m st m' st' accepted) (hinside : st.Inside) : st'.Inside := by
  cases h with
  | forth n ring bytes => exact SinkState.inside_append bytes
  | back n => exact SinkState.inside_back hinside _
  | _ => exact hinside

end Turn

/-- An answer that is no error is no failure of a sink. -/
theorem not_isSinkFailure_of_isOk {α : Type} {result : Except StreamError α}
    (hok : result.isOk = true) : ∀ e, result = .error e → e.isSinkFailure = false := by
  intro e herror
  rw [herror] at hok
  cases hok

/-- An action that the tee does not answer with an error goes on with the course. -/
theorem Course.act_of_isOk {stack₀ stack : TeeStack MemoryDevice η} {w₀ w : World μ} {peak : Nat}
    {recorded : Bytes} (action : Action) (h : Course stack₀ w₀ stack w peak recorded)
    (hspares : action.Spares stack.device) (hok : (stack.act action w).reply.result.isOk = true) :
    Course stack₀ w₀ (stack.act action w).stack (stack.act action w).world
      (max peak (stack.act action w).stack.device.applPtr) recorded :=
  h.act action hspares (not_isSinkFailure_of_isOk hok)

/-- What a start and every turn keep holds at the end of every course. -/
theorem Course.keeps {stack₀ stack : TeeStack MemoryDevice η} {w₀ w : World μ} {peak : Nat}
    {recorded : Bytes} {laid : Option RingLayout} {s : StreamSetup} {sink : Sink η}
    (view : SinkView μ sink.handle) {st₀ : SinkState}
    {I : MemoryDevice → SinkState → Nat → Bytes → Prop}
    (hreached : Reached stack₀.device laid) (hsetup : stack₀.device.setup = some s)
    (htees : stack₀.TeesTo sink) (hlook : view.look w₀.media = some st₀) (hinside : st₀.Inside)
    (hstart : I stack₀.device st₀ stack₀.device.applPtr #[])
    (hturn : ∀ m m' st st' peak recorded accepted, m.Intact → m.setup = some s → st.Inside →
      I m st peak recorded → Turn s m st m' st' accepted →
        I m' st' (max peak m'.applPtr) (recorded ++ accepted))
    (h : Course stack₀ w₀ stack w peak recorded) :
    ∃ st laid, Reached stack.device laid ∧ stack.device.setup = some s ∧ stack.TeesTo sink ∧
      view.look w.media = some st ∧ st.Inside ∧ I stack.device st peak recorded := by
  induction h with
  | start => exact ⟨st₀, laid, hreached, hsetup, htees, hlook, hinside, hstart⟩
  | @act stack w peak recorded action _ hspares hsink ih =>
      obtain ⟨st, laid', hreached', hsetup', htees', hlook', hinside', hI⟩ := ih
      have hintact := hreached'.sound.intact
      obtain ⟨htees'', st', hlook'', hnext⟩ := TeeStack.act_turn hintact hsetup' htees' view hlook'
        hinside' hspares hsink
      have hI' := hturn _ _ _ _ _ _ _ hintact hsetup' hinside' hI hnext
      rw [Array.append_empty] at hI'
      have hreached'' := Reached.act action hreached'
      rw [← TeeStack.device_act action stack w] at hreached''
      exact ⟨st', _, hreached'', hnext.setup_eq.trans hsetup', htees'', hlook'',
        hnext.inside hinside', hI'⟩
  | drive request _ ih =>
      obtain ⟨st, laid', hreached', hsetup', htees', hlook', hinside', hI⟩ := ih
      have hintact := hreached'.sound.intact
      have hnext := turn_perform hintact hsetup' st request
      exact ⟨st, laid', .drive request hreached', hnext.setup_eq.trans hsetup', htees', hlook',
        hinside', hturn _ _ _ _ _ _ _ hintact hsetup' hinside' hI hnext⟩

end FrameTee
