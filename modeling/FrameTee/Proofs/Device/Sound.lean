import FrameTee.Proofs.Device.Operations
import FrameTee.Proofs.Request.Action
import FrameTee.Request.Hardware

/-!
# What every operation of a memory device keeps

`MemoryDevice.Sound` is what the states of a memory device have in common: which states of the
stream occur, the ring laid out for the setup, and positions at most a ring apart. Every action of
an application (`sound_after`) and every request to the hardware side (`sound_perform`) keeps it.

## Implementation notes

Which layout the ring has is not part of the device, only which one the next parameters will use. So
the layout in force when parameters were last taken on is carried along with the device.
-/

namespace FrameTee.MemoryDevice

open MappedRing

variable {m : MemoryDevice} {direction : Direction} {laid : Option RingLayout} {s : StreamSetup}
  {n frames : Nat}

/-- The layout in force when parameters were last taken on, after an action. -/
def layoutAfter (action : Action) (m : MemoryDevice) (laid : Option RingLayout) :
    Option RingLayout :=
  match action with
  | .ask (.setParams params) =>
    match (m.setParams params).result with
    | .ok _ => some m.layout
    | .error _ => laid
  | _ => laid

/-- What the states of a memory device have in common. -/
structure Sound (m : MemoryDevice) (direction : Direction) (laid : Option RingLayout) : Prop where
  /-- Frames flow the way they always did. -/
  direction_eq : m.direction = direction
  /-- Only a device that has just been opened is without a setup. -/
  opened_iff : m.setup = none ↔ m.state = .opened
  /-- Before there is a setup no frame has moved. -/
  start : m.setup = none → m.applPtr = 0 ∧ m.hwPtr = 0
  /-- States that an operation passes through, or that memory does not get into, do not last. -/
  settled : m.state ≠ .draining ∧ m.state ≠ .suspended ∧ m.state ≠ .disconnected
  /-- Only a recording can run over. -/
  capture_of_xrun : m.state = .xrun → m.direction = .capture
  /-- A stream that is ready to start has moved no frame. -/
  applPtr_of_prepared : m.state = .prepared → m.applPtr = 0
  /-- The ring is laid out for the setup, with the layout in force when it was taken on. -/
  laid : ∀ s, m.setup = some s → ∃ layout, laid = some layout ∧ m.mapped.Laid layout s
  /-- The positions are at most one ring apart. -/
  window : ∀ s, m.setup = some s → m.direction.Window m.applPtr m.hwPtr s.bufferSize

namespace Sound

theorem intact (h : m.Sound direction laid) : m.Intact := by
  refine ⟨h.opened_iff, ?_, h.window⟩
  intro s hsetup
  obtain ⟨layout, -, hlaid⟩ := h.laid s hsetup
  exact ⟨layout, hlaid⟩

theorem own (h : m.Sound direction laid) : m.Sound m.direction laid := by
  rw [h.direction_eq]
  exact h

theorem opened_ne (h : m.Sound direction laid) (hsetup : m.setup = some s) : m.state ≠ .opened := by
  intro hstate
  rw [h.opened_iff.mpr hstate] at hsetup
  cases hsetup

/-- A device with a setup may go on to another state, other positions and another content of the
ring. -/
theorem move (h : m.Sound direction laid) (hsetup : m.setup = some s) {state : StreamState}
    {applPtr hwPtr : Nat} {ring : Memory} (played : Bytes) (fault : Option StreamError)
    (hopened : state ≠ .opened)
    (hsettled : state ≠ .draining ∧ state ≠ .suspended ∧ state ≠ .disconnected)
    (hxrun : state = .xrun → m.direction = .capture) (hprepared : state = .prepared → applPtr = 0)
    (hring : ring.size = m.ring.size)
    (hwindow : m.direction.Window applPtr hwPtr s.bufferSize) :
    Sound { m with state, applPtr, hwPtr, ring, played, fault } direction laid := by
  constructor
  · exact h.direction_eq
  · change m.setup = none ↔ state = .opened
    simp [hsetup, hopened]
  · intro hnone
    exact absurd (hsetup.symm.trans hnone) (by simp)
  · exact hsettled
  · exact hxrun
  · exact hprepared
  · intro s' hsetup'
    obtain ⟨layout, hlayout, hlaid⟩ := h.laid s' hsetup'
    exact ⟨layout, hlayout, hlaid.withData hring⟩
  · intro s' hsetup'
    obtain rfl := Option.some.inj (hsetup.symm.trans hsetup')
    exact hwindow

/-- A device with a setup may go on to another lasting state. -/
theorem withState (h : m.Sound direction laid) (hsetup : m.setup = some s) {state : StreamState}
    (hstate : state = .setup ∨ state = .running ∨ state = .paused) :
    Sound { m with state } direction laid := by
  apply h.move hsetup m.played m.fault _ _ _ _ rfl (h.window s hsetup)
  all_goals obtain rfl | rfl | rfl := hstate <;> simp

/-- How later requests will go is of no matter. -/
theorem settings (h : m.Sound direction laid) (nonblocking closed : Bool) (layout : RingLayout)
    (transferLimit : Option Nat) (fault : Option StreamError) :
    Sound { m with nonblocking, closed, layout, transferLimit, fault } direction laid := by
  constructor
  · exact h.direction_eq
  · exact h.opened_iff
  · exact h.start
  · exact h.settled
  · exact h.capture_of_xrun
  · exact h.applPtr_of_prepared
  · exact h.laid
  · exact h.window

/-- An operation that was refused leaves a sound device. -/
theorem refused {α : Type} (h : m.Sound direction laid) {step : DeviceStep MemoryDevice α}
    (hrefuses : m.Refuses step) : step.device.Sound direction laid := by
  obtain ⟨e, state, fault, rfl, rfl | ⟨hready, rfl⟩⟩ := hrefuses
  · exact h.settings m.nonblocking m.closed m.layout m.transferLimit fault
  · have hopened : m.state ≠ .opened := by
      obtain hstate | hstate := hready <;> rw [hstate] <;> decide
    obtain ⟨s, hsetup⟩ := h.intact.exists_setup hopened
    apply h.move hsetup m.played fault _ _ _ _ rfl (h.window s hsetup) <;> simp

/-- A transfer that was granted leaves a sound device. -/
theorem advanced (h : m.Sound direction laid) (hgrants : m.Grants s frames n) {ring : Memory}
    (hring : ring.size = m.ring.size) : (m.advanced n ring).Sound direction laid := by
  have hstate : (m.granted n).state = m.state ∧ n = 0 ∨ (m.granted n).state = .running := by
    by_cases hn : 0 < n
    · exact .inr (if_pos hn)
    · exact .inl ⟨if_neg hn, by omega⟩
  apply h.move hgrants.setup m.played m.fault _ _ _ _ hring
    (window_forward (h.window s hgrants.setup) hgrants.le_avail)
  · obtain ⟨hsame, -⟩ | hrunning := hstate
    · rw [hsame]
      exact h.opened_ne hgrants.setup
    · simp [hrunning]
  · obtain ⟨hsame, -⟩ | hrunning := hstate
    · rw [hsame]
      exact h.settled
    · simp [hrunning]
  · obtain ⟨hsame, -⟩ | hrunning := hstate
    · rw [hsame]
      exact h.capture_of_xrun
    · simp [hrunning]
  · obtain ⟨hsame, rfl⟩ | hrunning := hstate
    · rw [hsame, Nat.add_zero]
      exact h.applPtr_of_prepared
    · simp [hrunning]

end Sound

theorem sound_new (name : String) (direction : Direction) :
    (new name direction).Sound direction none := by
  constructor
  · rfl
  · exact ⟨fun _ => rfl, fun _ => rfl⟩
  · exact fun _ => ⟨rfl, rfl⟩
  · exact ⟨StreamState.noConfusion, StreamState.noConfusion, StreamState.noConfusion⟩
  · exact StreamState.noConfusion
  · exact StreamState.noConfusion
  · exact fun s hsetup => nomatch hsetup
  · exact fun s hsetup => nomatch hsetup

section Operations

variable (h : m.Sound direction laid)
include h

theorem sound_writeInterleaved (buffer : Bytes) (frames : Nat) :
    (m.writeInterleaved buffer frames).device.Sound direction laid := by
  obtain hrefuses | ⟨s, n, ring, -, hgrants, -, hstored, hstep⟩ :=
    writeInterleaved_cases h.intact buffer frames
  · exact h.refused hrefuses
  · rw [hstep]
    exact h.advanced hgrants hstored.size

theorem sound_writePlanar (buffers : Array Bytes) (frames : Nat) :
    (m.writePlanar buffers frames).device.Sound direction laid := by
  obtain hrefuses | ⟨s, n, flat, ring, -, hgrants, -, hstored, hstep⟩ :=
    writePlanar_cases h.intact buffers frames
  · exact h.refused hrefuses
  · rw [hstep]
    exact h.advanced hgrants hstored.size

theorem sound_readInterleaved (buffer : Bytes) (frames : Nat) :
    (m.readInterleaved buffer frames).1.device.Sound direction laid := by
  obtain ⟨hrefuses, -⟩ | ⟨s, n, -, hgrants, -, hstep⟩ :=
    readInterleaved_cases h.intact buffer frames
  · exact h.refused hrefuses
  · rw [hstep]
    exact h.advanced hgrants rfl

theorem sound_readPlanar (buffers : Array Bytes) (frames : Nat) :
    (m.readPlanar buffers frames).1.device.Sound direction laid := by
  obtain ⟨hrefuses, -⟩ | ⟨s, n, -, hgrants, -, -, hstep⟩ := readPlanar_cases h.intact buffers frames
  · exact h.refused hrefuses
  · rw [hstep]
    exact h.advanced hgrants rfl

theorem sound_commit (frames : Nat) : (m.commit frames).device.Sound direction laid := by
  obtain hrefuses | ⟨s, n, hgrants, hstep⟩ := m.commit_cases frames
  · exact h.refused hrefuses
  · rw [hstep]
    exact h.advanced hgrants rfl

theorem sound_rewind (frames : Nat) : (m.rewind frames).device.Sound direction laid := by
  obtain hrefuses | ⟨s, n, hsetup, hn, hstep⟩ := m.rewind_cases frames
  · exact h.refused hrefuses
  · rw [hstep]
    apply h.move hsetup m.played m.fault (h.opened_ne hsetup) h.settled h.capture_of_xrun _ rfl
      (window_back (h.window s hsetup) hn).2
    intro hprepared
    rw [h.applPtr_of_prepared hprepared, Nat.zero_sub]

theorem sound_consume (frames : Nat) : (m.consume frames).device.Sound direction laid := by
  obtain ⟨⟨e, hstep⟩, -⟩ | ⟨s, hsetup, hdirection, hstep⟩ :=
    consume_cases h.intact.laid frames
  · rw [hstep]
    exact h
  · rw [hstep]
    apply h.move hsetup _ m.fault (h.opened_ne hsetup) h.settled h.capture_of_xrun
      h.applPtr_of_prepared rfl
    exact window_play (h.window s hsetup) hdirection (Nat.min_le_right _ _)

theorem sound_inject (data : Bytes) : (m.inject data).device.Sound direction laid := by
  obtain ⟨e, hstep⟩ | ⟨s, n, ring, state, hsetup, hdirection, hn, hstored, hstate, -, hdevice⟩ :=
    inject_cases h.intact data
  · rw [hstep]
    exact h
  · rw [hdevice]
    have hroom : n ≤ s.bufferSize - m.captured := by omega
    have hwindow := window_record (h.window s hsetup) hdirection hroom
    obtain rfl | rfl := hstate
    · exact h.move hsetup m.played m.fault (h.opened_ne hsetup) h.settled h.capture_of_xrun
        h.applPtr_of_prepared hstored.size hwindow
    · apply h.move hsetup m.played m.fault _ _ _ _ hstored.size hwindow <;> simp [hdirection]

theorem sound_drain : m.drain.device.Sound direction laid := by
  obtain ⟨e, hstep⟩ | ⟨s, hsetup, ⟨-, hstep⟩ | ⟨hdirection, hstep⟩⟩ := drain_cases h.intact
  · rw [hstep]
    exact h
  · rw [hstep]
    exact h.withState hsetup (.inl rfl)
  · rw [hstep]
    have hwindow := window_play (h.window s hsetup) hdirection (Nat.le_refl m.pending)
    apply h.move hsetup _ m.fault _ _ _ _ rfl hwindow <;> simp

theorem sound_prepare : m.prepare.device.Sound direction laid := by
  simp only [prepare]
  split
  · exact h
  · exact h
  · rename_i hopened hdisconnected
    obtain ⟨s, hsetup⟩ := h.intact.exists_setup hopened
    have hwindow : m.direction.Window 0 0 s.bufferSize := by
      cases m.direction <;> simp
    apply h.move hsetup m.played m.fault _ _ _ _ rfl hwindow <;> simp

theorem sound_start : m.start.device.Sound direction laid := by
  simp only [start]
  split
  · rename_i hstate
    obtain ⟨s, hsetup⟩ := h.intact.exists_setup (by rw [hstate]; decide)
    exact h.withState hsetup (.inr (.inl rfl))
  · exact h

theorem sound_stop : m.stop.device.Sound direction laid := by
  simp only [stop]
  split
  · exact h
  · exact h
  · rename_i hopened hdisconnected
    obtain ⟨s, hsetup⟩ := h.intact.exists_setup hopened
    exact h.withState hsetup (.inl rfl)

theorem sound_pause (enable : Bool) : (m.pause enable).device.Sound direction laid := by
  simp only [pause]
  split
  · rename_i hstate
    obtain ⟨s, hsetup⟩ := h.intact.exists_setup (by rw [hstate]; decide)
    exact h.withState hsetup (.inr (.inr rfl))
  · rename_i hstate
    obtain ⟨s, hsetup⟩ := h.intact.exists_setup (by rw [hstate]; decide)
    exact h.withState hsetup (.inr (.inl rfl))
  · exact h

theorem sound_setParams (params : StreamParams) :
    (m.setParams params).device.Sound direction
      (m.layoutAfter (.ask (.setParams params)) laid) := by
  obtain ⟨e, hstep⟩ | ⟨hs, hresult, hdevice⟩ := m.setParams_cases params
  · simp only [layoutAfter, hstep]
    exact h
  · simp only [layoutAfter, hresult, hdevice]
    constructor
    · exact h.direction_eq
    · exact ⟨nofun, nofun⟩
    · exact nofun
    · exact ⟨nofun, nofun, nofun⟩
    · exact nofun
    · exact nofun
    · intro s' hsetup
      obtain rfl := Option.some.inj hsetup
      exact ⟨m.layout, rfl, hs, rfl, rfl⟩
    · intro s' hsetup
      cases hdirection : m.direction <;> simp

/-- Other bytes in the ring leave a sound device. -/
theorem sound_putRing {ring : Memory} (hring : ring.size = m.ring.size) :
    ({ m with ring } : MemoryDevice).Sound direction laid := by
  constructor
  · exact h.direction_eq
  · exact h.opened_iff
  · exact h.start
  · exact h.settled
  · exact h.capture_of_xrun
  · exact h.applPtr_of_prepared
  · intro s hsetup
    obtain ⟨layout, hlayout, hlaid⟩ := h.laid s hsetup
    exact ⟨layout, hlayout, hlaid.withData hring⟩
  · exact h.window

theorem sound_storeMapped (offset : Nat) (src : Bytes) :
    (Device.storeMapped offset src m).device.Sound direction laid := by
  simp only [Device.storeMapped]
  split
  · exact h
  · split
    · exact h
    · rename_i ring hring
      obtain rfl := eq_mapped_of_mappedRing hring
      exact sound_putRing h size_storeInterleaved

theorem sound_poke (address : Nat) (value : UInt8) :
    (Device.poke address value m).device.Sound direction laid := by
  simp only [Device.poke]
  split
  · exact h
  · rename_i ring hring
    obtain rfl := eq_mapped_of_mappedRing hring
    exact sound_putRing h (Memory.size_set _ _ _)

theorem sound_after (action : Action) :
    Sound (action.after m) direction (m.layoutAfter action laid) := by
  cases action with
  | poke address value => exact sound_poke h address value
  | ask request =>
      cases request with
      | setParams params => exact sound_setParams h params
      | availUpdate =>
          change (Device.availUpdate m).device.Sound direction laid
          simp only [Device.availUpdate]
          split <;> exact h
      | prepare => exact sound_prepare h
      | start => exact sound_start h
      | stop => exact sound_stop h
      | drain => exact sound_drain h
      | pause enable => exact sound_pause h enable
      | setNonblocking enable =>
          exact h.settings enable m.closed m.layout m.transferLimit m.fault
      | writeInterleaved buffer frames => exact sound_writeInterleaved h buffer frames
      | writePlanar buffers frames => exact sound_writePlanar h buffers frames
      | readInterleaved buffer frames => exact sound_readInterleaved h buffer frames
      | readPlanar buffers frames => exact sound_readPlanar h buffers frames
      | storeMapped offset src => exact sound_storeMapped h offset src
      | commit frames => exact sound_commit h frames
      | rewind frames => exact sound_rewind h frames
      | name | direction | info | paramsRange | setup | channelInfo | status | state | delay
      | pollDescriptor | reduceMask | applPtr | probeRing | loadMapped | dump => exact h

theorem sound_perform (request : HardwareRequest) :
    (m.perform request).device.Sound direction laid := by
  cases request with
  | consume frames => exact sound_consume h frames
  | inject data => exact sound_inject h data
  | setTransferLimit limit => exact h.settings m.nonblocking m.closed m.layout limit m.fault
  | failNext error => exact h.settings m.nonblocking m.closed m.layout m.transferLimit (some error)
  | setLayout layout => exact h.settings m.nonblocking m.closed layout m.transferLimit m.fault
  | played | isNonblocking | inspect => exact h

end Operations

end FrameTee.MemoryDevice
