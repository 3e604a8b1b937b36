import FrameTee.Proofs.Device.Recorded
import FrameTee.Proofs.Stack.Course

/-!
# The lifetime of a tee over a memory device

A `Lifetime` is a run of a tee over a memory device in which the stream may be configured and made
ready again as often as the application likes, and the mapped ring may be changed wherever it holds
no frame for the application. What lasts through it is `InStep`: the sink holds, right before its
position, the frames that the ring still holds before the position of the application
(`InStep.turn`, `Lifetime.keeps`).

## Implementation notes

Unlike a `Course`, a lifetime does not go back to one start: when parameters are taken on, or the
stream is made ready, the frames are counted from zero again, and the sink goes on from where it
stands. So `InStep` says nothing of bytes of the sink from before that.
-/

namespace FrameTee

open MappedRing MemoryDevice

/-- The action changes the mapped ring in place at most where it holds no frame for the
application. -/
def Action.SparesHeld (action : Action) (m : MemoryDevice) : Prop :=
  match action with
  | .ask (.storeMapped _ _) | .poke _ _ => ∀ s, m.setup = some s → ∀ j,
      m.firstHeld s * s.geometry.frameBytes ≤ j → j < m.endHeld * s.geometry.frameBytes →
        (action.after m).mapped.streamByte s j = m.mapped.streamByte s j
  | _ => True

/-- The runs of a tee over a memory device in which no sink fails, actions of the application on the
tee and requests to the hardware side of the device, with the bytes that the device has recorded
since the stream last started anew. -/
inductive Lifetime {μ η : Type} [Medium μ η] (stack₀ : TeeStack MemoryDevice η) (w₀ : World μ) :
    TeeStack MemoryDevice η → World μ → Bytes → Prop where
  | start : Lifetime stack₀ w₀ stack₀ w₀ #[]
  | act {stack : TeeStack MemoryDevice η} {w : World μ} {recorded : Bytes} (action : Action)
      (h : Lifetime stack₀ w₀ stack w recorded) (hspares : action.SparesHeld stack.device)
      (hsink : ∀ e, (stack.act action w).reply.result = .error e → e.isSinkFailure = false) :
      Lifetime stack₀ w₀ (stack.act action w).stack (stack.act action w).world
        (if action.startsAnew stack.device then #[] else recorded)
  | drive {stack : TeeStack MemoryDevice η} {w : World μ} {recorded : Bytes}
      (request : HardwareRequest) (h : Lifetime stack₀ w₀ stack w recorded) :
      Lifetime stack₀ w₀ (stack.pass (MemoryDevice.perform request) w).stack
        (stack.pass (MemoryDevice.perform request) w).world
        (recorded ++ request.accepted stack.device)

variable {s : StreamSetup} {m m' : MemoryDevice} {st st' : SinkState} {p₀ n : Nat}
  {recorded recorded' accepted bytes : Bytes} {ring : MappedRing}

/-- A sink that was at `p₀` when the stream started anew is in step with it. -/
structure InStep (s : StreamSetup) (p₀ : Nat) (m : MemoryDevice) (st : SinkState)
    (recorded : Bytes) : Prop where
  /-- The sink is inside its bytes. -/
  inside : st.Inside
  /-- The sink stands where the application does. -/
  position_eq : st.position = p₀ + m.applPtr * s.geometry.frameBytes
  /-- The frames that the ring still holds before the application are in the sink. -/
  copied : ∀ j, m.firstHeld s * s.geometry.frameBytes ≤ j → j < m.applPtr * s.geometry.frameBytes →
    st.contents[p₀ + j]? = some (m.mapped.streamByte s j)
  /-- What a recorder holds are the last of the frames that were recorded. -/
  holds : m.direction = .capture → m.Holds s recorded

namespace MemoryDevice.Becomes

/-- The frames that the ring holds move on with the hardware. -/
theorem firstHeld_le {applPtr hwPtr : Nat} {played : Bytes}
    (h : m.Becomes m' ring applPtr hwPtr played) (hle : m.hwPtr ≤ hwPtr) :
    m.firstHeld s ≤ m'.firstHeld s := by
  cases hdirection : m.direction with
  | playback =>
      rw [firstHeld_of_playback hdirection, firstHeld_of_playback (h.direction.trans hdirection),
        h.hwPtr]
      exact hle
  | capture =>
      rw [firstHeld_of_capture hdirection, firstHeld_of_capture (h.direction.trans hdirection),
        h.hwPtr]
      exact Nat.sub_le_sub_right hle _

end MemoryDevice.Becomes

namespace InStep

/-- A stream that has just started anew is in step with any sink. -/
theorem start (hinside : st.Inside) (happl : m.applPtr = 0) (hhw : m.hwPtr = 0) :
    InStep s st.position m st #[] := by
  constructor
  · exact hinside
  · rw [happl, Nat.zero_mul, Nat.add_zero]
  · intro j _ hj
    rw [happl, Nat.zero_mul] at hj
    exact absurd hj (Nat.not_lt_zero j)
  · intro _
    exact .start hhw

variable (h : InStep s p₀ m st recorded)
include h

/-- As long as the application stays where it is and the frames that are still held stay as they
are, the sink stays in step. -/
theorem keep (happl : m'.applPtr = m.applPtr) (hfirst : m.firstHeld s ≤ m'.firstHeld s)
    (hring : ∀ j, m'.firstHeld s * s.geometry.frameBytes ≤ j →
      j < m.applPtr * s.geometry.frameBytes → m'.mapped.streamByte s j = m.mapped.streamByte s j)
    (hholds : m'.direction = .capture → m'.Holds s recorded') : InStep s p₀ m' st recorded' := by
  constructor
  · exact h.inside
  · rw [happl]
    exact h.position_eq
  · intro j hj hlast
    rw [happl] at hlast
    rw [hring j hj hlast]
    exact h.copied j (Nat.le_trans (Nat.mul_le_mul_right _ hfirst) hj) hlast
  · exact hholds

/-- Frames that move are copied. -/
theorem forth (hsize : bytes.size = n * s.geometry.frameBytes)
    (hstored : Stored s (m.applPtr * s.geometry.frameBytes) (n * s.geometry.frameBytes)
      (bytes.getD · 0) m.mapped ring)
    (hfits : m.applPtr + n ≤ m.firstHeld s + s.bufferSize)
    (hcapture : m.direction = .capture → ring = m.mapped)
    (hbecomes : m.Becomes m' ring (m.applPtr + n) m.hwPtr m.played) :
    InStep s p₀ m' (st.append bytes) recorded := by
  have hfirst := hbecomes.firstHeld_le (s := s) (Nat.le_refl _)
  have hend : (m.applPtr + n) * s.geometry.frameBytes =
      m.applPtr * s.geometry.frameBytes + n * s.geometry.frameBytes := Nat.add_mul _ _ _
  constructor
  · exact SinkState.inside_append bytes
  · rw [SinkState.position_append, h.position_eq, hsize, hbecomes.applPtr, hend, Nat.add_assoc]
  · intro j hj hlast
    have hj' := Nat.le_trans (Nat.mul_le_mul_right s.geometry.frameBytes hfirst) hj
    rw [hbecomes.applPtr, hend] at hlast
    rw [SinkState.getElem?_append h.inside, h.position_eq, hsize, hbecomes.ring]
    by_cases hold : j < m.applPtr * s.geometry.frameBytes
    · rw [if_neg (by omega), hstored.streamByte_before hfits hj' hold]
      exact h.copied j hj' hold
    · obtain ⟨i, rfl⟩ := Nat.exists_eq_add_of_le (Nat.not_lt.mp hold)
      rw [if_pos (by omega), hstored.inside i (by omega)]
      congr 2
      omega
  · intro hdirection
    have hrecorder := hbecomes.direction.symm.trans hdirection
    exact (h.holds hrecorder).congr (hbecomes.ring.trans (hcapture hrecorder)) hbecomes.hwPtr

/-- Frames that are taken back are no longer before the sink. -/
theorem back (hn : n ≤ m.applPtr)
    (hbecomes : m.Becomes m' m.mapped (m.applPtr - n) m.hwPtr m.played) :
    InStep s p₀ m' (st.back (n * s.geometry.frameBytes)) recorded := by
  have hle : n * s.geometry.frameBytes ≤ m.applPtr * s.geometry.frameBytes :=
    Nat.mul_le_mul_right _ hn
  have hend : (m.applPtr - n) * s.geometry.frameBytes =
      m.applPtr * s.geometry.frameBytes - n * s.geometry.frameBytes := Nat.sub_mul _ _ _
  have hfirst := hbecomes.firstHeld_le (s := s) (Nat.le_refl _)
  constructor
  · exact SinkState.inside_back h.inside _
  · change st.position - n * s.geometry.frameBytes = _
    rw [h.position_eq, hbecomes.applPtr, hend, Nat.add_sub_assoc hle]
  · intro j hj hlast
    rw [hbecomes.applPtr, hend] at hlast
    rw [hbecomes.ring]
    exact h.copied j (Nat.le_trans (Nat.mul_le_mul_right _ hfirst) hj) (by omega)
  · intro hdirection
    exact (h.holds (hbecomes.direction.symm.trans hdirection)).congr hbecomes.ring hbecomes.hwPtr

/-- A change of the ring that spares the frames that it holds keeps the sink in step. -/
theorem edit (hwindow : m.direction.Window m.applPtr m.hwPtr s.bufferSize)
    (hspared : ∀ j, m.firstHeld s * s.geometry.frameBytes ≤ j →
      j < m.endHeld * s.geometry.frameBytes → ring.streamByte s j = m.mapped.streamByte s j)
    (hbecomes : m.Becomes m' ring m.applPtr m.hwPtr m.played) : InStep s p₀ m' st recorded := by
  have hfirst := hbecomes.firstHeld_le (s := s) (Nat.le_refl _)
  have hend := Nat.mul_le_mul_right s.geometry.frameBytes (applPtr_le_endHeld hwindow)
  apply h.keep hbecomes.applPtr hfirst
  · intro j hj hlast
    rw [hbecomes.ring]
    exact hspared j (Nat.le_trans (Nat.mul_le_mul_right _ hfirst) hj) (by omega)
  · intro hdirection
    have hrecorder := hbecomes.direction.symm.trans hdirection
    have hholds := h.holds hrecorder
    rw [firstHeld_of_capture hrecorder, endHeld_of_capture hrecorder] at hspared
    constructor
    · rw [hbecomes.hwPtr]
      exact hholds.size
    · rw [hbecomes.hwPtr, hbecomes.ring]
      intro j hj hlast
      rw [hspared j hj hlast]
      exact hholds.last j hj hlast

/-- The frames that a recorder can take back are still as they were recorded. -/
theorem streamBytes_eq (hwindow : m.direction.Window m.applPtr m.hwPtr s.bufferSize)
    (hdirection : m.direction = .capture) (hn : n ≤ m.rewindable s) :
    m.mapped.streamBytes s (m.applPtr - n) n =
      recorded.extract ((m.applPtr - n) * s.geometry.frameBytes)
        (m.applPtr * s.geometry.frameBytes) := by
  have hend : m.applPtr - n + n = m.applPtr := Nat.sub_add_cancel (window_back hwindow hn).1
  rw [hdirection, Direction.window_capture] at hwindow
  rw [rewindable_of_capture hdirection] at hn
  have hfirst : m.hwPtr - s.bufferSize ≤ m.applPtr - n := by omega
  have hlast : m.applPtr - n + n ≤ m.hwPtr := by omega
  rw [(h.holds hdirection).streamBytes_eq hfirst hlast, hend]

/-- Every turn keeps the sink in step. -/
theorem turn (hintact : m.Intact) (hsetup : m.setup = some s)
    (hturn : Turn s m st m' st' accepted) : InStep s p₀ m' st' (recorded ++ accepted) := by
  have hwindow := hintact.window s hsetup
  cases hturn with
  | rest hbecomes =>
      rw [Array.append_empty]
      exact h.edit hwindow (fun _ _ _ => rfl) hbecomes
  | forth n ring bytes havail hsize hstored hcapture hbecomes =>
      rw [Array.append_empty]
      exact h.forth hsize hstored (le_firstHeld_add hwindow havail) hcapture hbecomes
  | back n hrewindable hbecomes =>
      rw [Array.append_empty]
      exact h.back (window_back hwindow hrewindable).1 hbecomes
  | play n hdirection hn hbecomes =>
      apply h.keep hbecomes.applPtr (hbecomes.firstHeld_le (Nat.le_add_right _ _))
      · intro j _ _
        rw [hbecomes.ring]
      · intro hcapture
        rw [hbecomes.direction, hdirection] at hcapture
        cases hcapture
  | record n ring bytes hdirection hn hsize hstored hbecomes =>
      have hholds := (h.holds hdirection).record hsize hstored hbecomes.ring hbecomes.hwPtr
      have hle := hwindow
      rw [hdirection, Direction.window_capture] at hle
      have hend := Nat.mul_le_mul_right s.geometry.frameBytes hle.1
      apply h.keep hbecomes.applPtr (hbecomes.firstHeld_le (Nat.le_add_right _ _))
      · intro j hj hlast
        rw [firstHeld_of_capture (hbecomes.direction.trans hdirection), hbecomes.hwPtr] at hj
        rw [hbecomes.ring]
        exact hstored.streamByte_before (by omega) hj (by omega)
      · exact fun _ => hholds
  | edit ring hdirection hspared hbecomes =>
      rw [Array.append_empty]
      apply h.edit hwindow _ hbecomes
      rw [firstHeld_of_playback hdirection, endHeld_of_playback hdirection]
      exact hspared

end InStep

section Keeps

variable {μ η : Type} [Medium μ η] {sink : Sink η} {stack₀ stack : TeeStack MemoryDevice η}
  {w₀ w : World μ} {floor : Nat}

/-- A single tee over a memory device is in step with the stream, and its sink was at `floor` or
behind when the stream last started anew. -/
structure TeeStack.Tracks (view : SinkView μ sink.handle) (floor : Nat)
    (stack : TeeStack MemoryDevice η) (w : World μ) (s : StreamSetup) (st : SinkState)
    (recorded : Bytes) : Prop where
  /-- The device got here. -/
  reached : ∃ laid, Reached stack.device laid
  /-- Parameters are set. -/
  setup : stack.device.setup = some s
  /-- There is one tee. -/
  tees : stack.TeesTo sink
  /-- What is behind its sink. -/
  look : view.look w.media = some st
  /-- The sink is in step. -/
  inStep : ∃ p₀, floor ≤ p₀ ∧ InStep s p₀ stack.device st recorded

variable {view : SinkView μ sink.handle}

namespace TeeStack.Tracks

variable (h : stack.Tracks view floor w s st recorded)
include h

/-- The sink was at `floor` or behind ever since. -/
theorem floor_le : floor ≤ st.position := by
  obtain ⟨p₀, hfloor, hstep⟩ := h.inStep
  rw [hstep.position_eq]
  exact Nat.le_trans hfloor (Nat.le_add_right _ _)

/-- The tee is in step after an action that turns frames. -/
theorem act_turn {action : Action} (hspares : action.Spares stack.device)
    (hsink : ∀ e, (stack.act action w).reply.result = .error e → e.isSinkFailure = false) :
    ∃ st', (stack.act action w).stack.Tracks view floor (stack.act action w).world s st'
      recorded := by
  obtain ⟨laid, hreached⟩ := h.reached
  obtain ⟨p₀, hfloor, hstep⟩ := h.inStep
  obtain ⟨htees, st', hlook, hturn⟩ := TeeStack.act_turn hreached.sound.intact h.setup h.tees view
    h.look hstep.inside hspares hsink
  have hnext := hstep.turn hreached.sound.intact h.setup hturn
  rw [Array.append_empty] at hnext
  refine ⟨st', ?_, hturn.setup_eq.trans h.setup, htees, hlook, p₀, hfloor, hnext⟩
  rw [device_act]
  exact ⟨_, .act action hreached⟩

/-- The tee is in step after an action that goes past it, if the stream is. -/
theorem act_pass {action : Action} {s' : StreamSetup}
    (hpass : action.transfer? μ η stack.device = none)
    (hsetup : (action.after stack.device).setup = some s')
    (hstep : ∃ p₀, floor ≤ p₀ ∧ InStep s' p₀ (action.after stack.device) st recorded') :
    (stack.act action w).stack.Tracks view floor (stack.act action w).world s' st recorded' := by
  obtain ⟨laid, hreached⟩ := h.reached
  obtain ⟨hlayers, hmedia⟩ := act_of_pass (w := w) hpass
  constructor
  · rw [device_act]
    exact ⟨_, .act action hreached⟩
  · rw [device_act]
    exact hsetup
  · rw [TeesTo, hlayers]
    exact h.tees
  · rw [hmedia]
    exact h.look
  · rw [device_act]
    exact hstep

/-- The tee is in step after a change of the ring that spares the frames that it holds. -/
theorem act_edit {action : Action} (hpass : action.transfer? μ η stack.device = none)
    (hspared : ∀ j, stack.device.firstHeld s * s.geometry.frameBytes ≤ j →
      j < stack.device.endHeld * s.geometry.frameBytes →
        (action.after stack.device).mapped.streamByte s j = stack.device.mapped.streamByte s j)
    (hbecomes : stack.device.Becomes (action.after stack.device) (action.after stack.device).mapped
      stack.device.applPtr stack.device.hwPtr stack.device.played) :
    (stack.act action w).stack.Tracks view floor (stack.act action w).world s st recorded := by
  obtain ⟨laid, hreached⟩ := h.reached
  obtain ⟨p₀, hfloor, hstep⟩ := h.inStep
  apply h.act_pass hpass (hbecomes.setup.trans h.setup)
  exact ⟨p₀, hfloor, hstep.edit (hreached.sound.intact.window s h.setup) hspared hbecomes⟩

/-- The tee is in step after an action after which the stream may have started anew. -/
theorem act_restart {action : Action} (hpass : action.transfer? μ η stack.device = none)
    (hrestarts : action.Restarts stack.device) :
    ∃ s', (stack.act action w).stack.Tracks view floor (stack.act action w).world s' st
      (if action.startsAnew stack.device then #[] else recorded) := by
  obtain ⟨hsame, hdevice⟩ | ⟨hanew, happl, hhw, s', hsetup⟩ := hrestarts
  · rw [hsame]
    refine ⟨s, h.act_pass hpass ?_ ?_⟩
    · rw [hdevice]
      exact h.setup
    · rw [hdevice]
      exact h.inStep
  · rw [hanew]
    obtain ⟨p₀, -, hstep⟩ := h.inStep
    exact ⟨s', h.act_pass hpass hsetup ⟨st.position, h.floor_le, .start hstep.inside happl hhw⟩⟩

/-- The tee is in step after every action that spares the frames that the ring holds. -/
theorem act (action : Action) (hspares : action.SparesHeld stack.device)
    (hsink : ∀ e, (stack.act action w).reply.result = .error e → e.isSinkFailure = false) :
    ∃ s' st', (stack.act action w).stack.Tracks view floor (stack.act action w).world s' st'
      (if action.startsAnew stack.device then #[] else recorded) := by
  cases action with
  | poke address value =>
      exact ⟨s, st, h.act_edit rfl (hspares s h.setup) (becomes_poke address value)⟩
  | ask request =>
      cases request with
      | storeMapped offset src =>
          exact ⟨s, st, h.act_edit rfl (hspares s h.setup) (becomes_storeMapped offset src)⟩
      | setParams params =>
          obtain ⟨s', hnext⟩ := h.act_restart rfl (Action.restarts_setParams _ params)
          exact ⟨s', st, hnext⟩
      | prepare =>
          obtain ⟨laid, hreached⟩ := h.reached
          obtain ⟨s', hnext⟩ := h.act_restart rfl (Action.restarts_prepare hreached.sound.intact)
          exact ⟨s', st, hnext⟩
      | _ => exact ⟨s, h.act_turn trivial hsink⟩

/-- The tee is in step after every request to the hardware side. -/
theorem drive (request : HardwareRequest) :
    (stack.pass (MemoryDevice.perform request) w).stack.Tracks view floor
      (stack.pass (MemoryDevice.perform request) w).world s st
      (recorded ++ request.accepted stack.device) := by
  obtain ⟨laid, hreached⟩ := h.reached
  obtain ⟨p₀, hfloor, hstep⟩ := h.inStep
  have hturn := turn_perform hreached.sound.intact h.setup st request
  exact ⟨⟨laid, .drive request hreached⟩, hturn.setup_eq.trans h.setup, h.tees, h.look, p₀, hfloor,
    hstep.turn hreached.sound.intact h.setup hturn⟩

end TeeStack.Tracks

/-- An action that the tee does not answer with an error goes on with the lifetime. -/
theorem Lifetime.act_of_isOk (action : Action) (h : Lifetime stack₀ w₀ stack w recorded)
    (hspares : action.SparesHeld stack.device)
    (hok : (stack.act action w).reply.result.isOk = true) :
    Lifetime stack₀ w₀ (stack.act action w).stack (stack.act action w).world
      (if action.startsAnew stack.device then #[] else recorded) :=
  h.act action hspares (not_isSinkFailure_of_isOk hok)

/-- A tee that is in step at the start is in step at the end of every lifetime. -/
theorem Lifetime.keeps {s₀ : StreamSetup} {st₀ : SinkState}
    (hstart : stack₀.Tracks view floor w₀ s₀ st₀ #[]) (h : Lifetime stack₀ w₀ stack w recorded) :
    ∃ s st, stack.Tracks view floor w s st recorded := by
  induction h with
  | start => exact ⟨s₀, st₀, hstart⟩
  | act action _ hspares hsink ih =>
      obtain ⟨s, st, hbefore⟩ := ih
      exact hbefore.act action hspares hsink
  | drive request _ ih =>
      obtain ⟨s, st, hbefore⟩ := ih
      exact ⟨s, st, hbefore.drive request⟩

end Keeps

end FrameTee
