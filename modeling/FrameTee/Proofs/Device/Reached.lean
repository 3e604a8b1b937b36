import FrameTee.Proofs.Device.Sound
import Mathlib.Algebra.Group.Nat.Defs

/-!
# States that a memory device reaches

`MemoryDevice.Reached` are the states that a new device reaches by actions of an application and
requests to its hardware side, in any order. All of them are sound (`MemoryDevice.Reached.sound`).
Two actions can take the stream back to its start (`Action.Restarts`).
-/

namespace FrameTee.MemoryDevice

variable {m : MemoryDevice} {laid : Option RingLayout}

/-- The states that a new device reaches by actions of the application, by requests to the hardware
side and at its end, each with the layout in force when parameters were last taken on. -/
inductive Reached : MemoryDevice → Option RingLayout → Prop where
  | new (name : String) (direction : Direction) : Reached (new name direction) none
  | act {m : MemoryDevice} {laid : Option RingLayout} (action : Action) :
      Reached m laid → Reached (action.after m) (m.layoutAfter action laid)
  | drive {m : MemoryDevice} {laid : Option RingLayout} (request : HardwareRequest) :
      Reached m laid → Reached (m.perform request).device laid
  | close {m : MemoryDevice} {laid : Option RingLayout} :
      Reached m laid → Reached m.close.device laid

/-- Every state that is reached is sound. -/
theorem Reached.sound (h : Reached m laid) : m.Sound m.direction laid := by
  induction h with
  | new name direction => exact sound_new name direction
  | act action _ ih => exact (sound_after ih action).own
  | drive request _ ih => exact (sound_perform ih request).own
  | @close m laid _ ih =>
      exact (ih.settings m.nonblocking true m.layout m.transferLimit m.fault).own

/-- Frames go on flowing the way they do. -/
theorem Reached.direction_after (h : Reached m laid) (action : Action) :
    (action.after m).direction = m.direction :=
  (sound_after h.sound action).direction_eq

/-- What holds in every state that a memory device reaches, by any actions of an application and any
requests to its hardware side. -/
theorem invariant_of_reached (h : Reached m laid) :
    (m.setup = none ↔ m.state = .opened) ∧
      (m.state ≠ .draining ∧ m.state ≠ .suspended ∧ m.state ≠ .disconnected) ∧
      (m.state = .xrun → m.direction = .capture) ∧
      (m.state = .prepared → m.applPtr = 0) ∧
      (m.setup = none → m.applPtr = 0 ∧ m.hwPtr = 0) ∧
      ∀ s, m.setup = some s →
        (1 ≤ s.geometry.channelCount ∧ s.geometry.channelCount ≤ 32) ∧
        (1 ≤ s.bufferSize ∧ s.bufferSize ≤ 2 ^ 20) ∧
        m.ring.size = s.bufferSize * s.geometry.frameBytes ∧
        m.areas.size = s.geometry.channelCount ∧
        (∃ layout, laid = some layout ∧ m.areas = channelLayouts layout s) ∧
        (m.direction = .playback →
          m.hwPtr ≤ m.applPtr ∧ m.applPtr ≤ m.hwPtr + s.bufferSize) ∧
        (m.direction = .capture →
          m.applPtr ≤ m.hwPtr ∧ m.hwPtr ≤ m.applPtr + s.bufferSize) := by
  have hsound := h.sound
  refine ⟨hsound.opened_iff, hsound.settled, hsound.capture_of_xrun, hsound.applPtr_of_prepared,
    hsound.start, ?_⟩
  intro s hsetup
  obtain ⟨layout, hlayout, hlaid⟩ := hsound.laid s hsetup
  have hs := hlaid.supported
  have hwindow := hsound.window s hsetup
  have hareas : m.areas = channelLayouts layout s := hlaid.layouts
  refine ⟨⟨hs.channels_pos, hs.channels_le⟩, ⟨hs.bufferSize_pos, hs.bufferSize_le⟩, hlaid.size, ?_,
    ⟨layout, hlayout, hareas⟩, ?_, ?_⟩
  · rw [hareas, RingLayout.size_channelLayouts]
  · intro hdirection
    rw [hdirection] at hwindow
    exact hwindow
  · intro hdirection
    rw [hdirection] at hwindow
    exact hwindow

/-- A recorder of two frames, laid out channel by channel, that three frames were recorded into. -/
def overrun : MemoryDevice :=
  let fresh := (new "hw" .capture).withLayout .planar
  (((Action.ask (.setParams ⟨.s16le, 2, 8000, 2⟩)).after fresh).perform
    (.inject (Bytes.zeros 12))).device

theorem reached_overrun : Reached overrun (some .planar) :=
  .drive (.inject (Bytes.zeros 12))
    (.act (.ask (.setParams ⟨.s16le, 2, 8000, 2⟩))
      (.drive (.setLayout .planar) (.new "hw" .capture)))

/-- The recorder has run over and holds a full ring. -/
theorem invariant_of_reached_overrun :
    overrun.state = .xrun ∧ overrun.direction = .capture ∧ overrun.hwPtr = 2 ∧
      overrun.hwPtr ≤ overrun.applPtr + 2 ∧ overrun.ring.size = 8 := by
  have hstate : overrun.state = .xrun := by decide +kernel
  have hsetup : overrun.setup = some ⟨⟨2, .s16le⟩, 8000, 2⟩ := by decide +kernel
  obtain ⟨-, -, hcapture, -, -, hset⟩ := invariant_of_reached reached_overrun
  obtain ⟨-, -, hsize, -, -, -, hwindow⟩ := hset _ hsetup
  exact ⟨hstate, hcapture hstate, by decide +kernel, (hwindow (hcapture hstate)).2, hsize⟩

/-- A player of four frames that is ready to start. -/
def readyPlayer : MemoryDevice :=
  (Action.ask .prepare).after
    ((Action.ask (.setParams ⟨.u8, 1, 8000, 4⟩)).after (new "hw" .playback))

theorem reached_readyPlayer : Reached readyPlayer (some .interleaved) :=
  .act (.ask .prepare) (.act (.ask (.setParams ⟨.u8, 1, 8000, 4⟩)) (.new "hw" .playback))

end FrameTee.MemoryDevice

namespace FrameTee.Action

open MemoryDevice

variable {m : MemoryDevice} {action : Action}

/-- Whether the stream starts anew with the action: parameters are taken on, or it is made ready. -/
def startsAnew (action : Action) (m : MemoryDevice) : Bool :=
  match action with
  | .ask (.setParams params) => (m.setParams params).result.isOk
  | .ask .prepare => m.prepare.result.isOk
  | _ => false

/-- An action after which the stream may have started anew leaves it at the start, or as it was. -/
def Restarts (action : Action) (m : MemoryDevice) : Prop :=
  action.startsAnew m = false ∧ action.after m = m ∨
    action.startsAnew m = true ∧ (action.after m).applPtr = 0 ∧ (action.after m).hwPtr = 0 ∧
      ∃ s, (action.after m).setup = some s

/-- Where the stream has not started anew, nothing has changed. -/
theorem Restarts.after_eq (h : action.Restarts m) (hnot : action.startsAnew m = false) :
    action.after m = m := by
  obtain ⟨-, hsame⟩ | ⟨hanew, -⟩ := h
  · exact hsame
  · rw [hnot] at hanew
    cases hanew

/-- A stream that has started anew is at its start. -/
theorem Restarts.start (h : action.Restarts m) (hanew : action.startsAnew m = true) :
    (action.after m).applPtr = 0 ∧ (action.after m).hwPtr = 0 := by
  obtain ⟨hnot, -⟩ | ⟨-, happl, hhw, -⟩ := h
  · rw [hnot] at hanew
    cases hanew
  · exact ⟨happl, hhw⟩

theorem restarts_setParams (m : MemoryDevice) (params : StreamParams) :
    (Action.ask (.setParams params)).Restarts m := by
  obtain ⟨e, hstep⟩ | ⟨-, hresult, hdevice⟩ := m.setParams_cases params
  · refine .inl ⟨?_, ?_⟩
    · simp only [startsAnew, hstep]
      rfl
    · change (m.setParams params).device = m
      rw [hstep]
      rfl
  · refine .inr ⟨?_, ?_⟩
    · simp only [startsAnew, hresult]
      rfl
    · change (m.setParams params).device.applPtr = 0 ∧ (m.setParams params).device.hwPtr = 0 ∧
        ∃ s, (m.setParams params).device.setup = some s
      rw [hdevice]
      exact ⟨rfl, rfl, _, rfl⟩

theorem restarts_prepare (h : m.Intact) : (Action.ask .prepare).Restarts m := by
  obtain ⟨e, hstep⟩ | ⟨⟨s, hsetup⟩, hstep⟩ := prepare_cases h
  · refine .inl ⟨?_, ?_⟩
    · simp only [startsAnew, hstep]
      rfl
    · change m.prepare.device = m
      rw [hstep]
      rfl
  · refine .inr ⟨?_, ?_⟩
    · simp only [startsAnew, hstep]
      rfl
    · change m.prepare.device.applPtr = 0 ∧ m.prepare.device.hwPtr = 0 ∧
        ∃ s, m.prepare.device.setup = some s
      rw [hstep]
      exact ⟨rfl, rfl, s, hsetup⟩

end FrameTee.Action
