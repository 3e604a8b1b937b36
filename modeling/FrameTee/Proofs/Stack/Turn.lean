import FrameTee.Proofs.Stack.Memory

/-!
# One turn of a tee over a memory device

What an action of the application or a request to the hardware side does to the frames of a stream
and to its copy is one of six turns (`Turn`): nothing, frames moved on and copied, frames taken back
in both, frames played, frames recorded, or a change of the ring that spares the pending frames.
`act_turn` finds the turn of an action on a tee, provided that the tee has not answered that its
sink failed, and `turn_perform` that of a request to the hardware side.
-/

namespace FrameTee

open MappedRing MemoryDevice

/-- The device `m'` is `m` with this ring, these positions and these bytes played. The state, and
how later requests will go, may differ as well. -/
structure MemoryDevice.Becomes (m m' : MemoryDevice) (ring : MappedRing) (applPtr hwPtr : Nat)
    (played : Bytes) : Prop where
  /-- The direction stays. -/
  direction : m'.direction = m.direction
  /-- The setup stays. -/
  setup : m'.setup = m.setup
  /-- The ring afterwards. -/
  ring : m'.mapped = ring
  /-- The position of the application afterwards. -/
  applPtr : m'.applPtr = applPtr
  /-- The position of the hardware afterwards. -/
  hwPtr : m'.hwPtr = hwPtr
  /-- What has been played afterwards. -/
  played : m'.played = played

/-- What happens at once to a memory device with the setup `s`, to what is behind the sink of a tee
over it, and which bytes the device records meanwhile. No frame moves, or the application moves on,
and the frames are copied, or it takes frames back, also from the copy; or pending frames are
played, or frames are recorded, or the ring of a player changes in other places than its pending
frames. -/
inductive Turn (s : StreamSetup) (m : MemoryDevice) (st : SinkState) :
    MemoryDevice → SinkState → Bytes → Prop where
  | rest {m' : MemoryDevice} (h : m.Becomes m' m.mapped m.applPtr m.hwPtr m.played) :
      Turn s m st m' st #[]
  | forth {m' : MemoryDevice} (n : Nat) (ring : MappedRing) (bytes : Bytes) (havail : n ≤ m.avail s)
      (hsize : bytes.size = n * s.geometry.frameBytes)
      (hstored : Stored s (m.applPtr * s.geometry.frameBytes) (n * s.geometry.frameBytes)
        (bytes.getD · 0) m.mapped ring)
      (hcapture : m.direction = .capture → ring = m.mapped)
      (h : m.Becomes m' ring (m.applPtr + n) m.hwPtr m.played) :
      Turn s m st m' (st.append bytes) #[]
  | back {m' : MemoryDevice} (n : Nat) (hrewindable : n ≤ m.rewindable s)
      (h : m.Becomes m' m.mapped (m.applPtr - n) m.hwPtr m.played) :
      Turn s m st m' (st.back (n * s.geometry.frameBytes)) #[]
  | play {m' : MemoryDevice} (n : Nat) (hdirection : m.direction = .playback) (hn : n ≤ m.pending)
      (h : m.Becomes m' m.mapped m.applPtr (m.hwPtr + n)
        (m.played ++ m.mapped.streamBytes s m.hwPtr n)) : Turn s m st m' st #[]
  | record {m' : MemoryDevice} (n : Nat) (ring : MappedRing) (bytes : Bytes)
      (hdirection : m.direction = .capture) (hn : n ≤ s.bufferSize - m.captured)
      (hsize : bytes.size = n * s.geometry.frameBytes)
      (hstored : Stored s (m.hwPtr * s.geometry.frameBytes) (n * s.geometry.frameBytes)
        (bytes.getD · 0) m.mapped ring)
      (h : m.Becomes m' ring m.applPtr (m.hwPtr + n) m.played) : Turn s m st m' st bytes
  | edit {m' : MemoryDevice} (ring : MappedRing) (hdirection : m.direction = .playback)
      (hspared : ∀ j, m.hwPtr * s.geometry.frameBytes ≤ j → j < m.applPtr * s.geometry.frameBytes →
        ring.streamByte s j = m.mapped.streamByte s j)
      (h : m.Becomes m' ring m.applPtr m.hwPtr m.played) : Turn s m st m' st #[]

/-- The action neither takes on parameters nor starts the stream anew, and it changes the mapped
ring of a player only where no frame is pending, that of a recorder not at all. -/
def Action.Spares (action : Action) (m : MemoryDevice) : Prop :=
  match action with
  | .ask (.setParams _) | .ask .prepare => False
  | .ask (.storeMapped _ _) | .poke _ _ =>
    m.direction = .playback ∧ ∀ s, m.setup = some s → ∀ j, m.hwPtr * s.geometry.frameBytes ≤ j →
      j < m.applPtr * s.geometry.frameBytes →
        (action.after m).mapped.streamByte s j = m.mapped.streamByte s j
  | _ => True

/-- A change of a byte of a player in which no pending frame lies spares the pending frames. -/
theorem Action.spares_poke {m : MemoryDevice} {s : StreamSetup} {layout : RingLayout}
    (hdirection : m.direction = .playback) (hsetup : m.setup = some s)
    (hlaid : m.mapped.Laid layout s) {address : Nat} (value : UInt8)
    (hfree : ∀ j, m.hwPtr * s.geometry.frameBytes ≤ j → j < m.applPtr * s.geometry.frameBytes →
      layout.place s j ≠ address) : (Action.poke address value).Spares m := by
  refine ⟨hdirection, ?_⟩
  intro s' hsetup' j hfirst hlast
  obtain rfl := Option.some.inj (hsetup.symm.trans hsetup')
  have hdevice : (Device.poke address value m).device =
      { m with ring := m.mapped.data.set address value } := by
    have hring : Device.writableRing m = .ok m.mapped := mappedRing_eq_ok hsetup
    rw [Device.poke, hring]
    rfl
  have hlaid' : MappedRing.Laid layout s ⟨m.mapped.data.set address value, m.areas⟩ :=
    hlaid.withData (m.mapped.data.size_set address value)
  change (Device.poke address value m).device.mapped.streamByte s j = _
  rw [hdevice, hlaid.streamByte_eq]
  change MappedRing.streamByte ⟨m.mapped.data.set address value, m.areas⟩ s j = _
  rw [hlaid'.streamByte_eq, Memory.get_set, if_neg]
  rintro ⟨heq, -⟩
  exact hfree j hfirst hlast heq.symm

namespace MemoryDevice

variable {m : MemoryDevice} {s : StreamSetup}

theorem becomes_refused {α : Type} {step : DeviceStep MemoryDevice α} (h : m.Refuses step) :
    m.Becomes step.device m.mapped m.applPtr m.hwPtr m.played := by
  obtain ⟨e, state, fault, rfl, -⟩ := h
  exact ⟨rfl, rfl, rfl, rfl, rfl, rfl⟩

theorem becomes_self (m : MemoryDevice) : m.Becomes m m.mapped m.applPtr m.hwPtr m.played :=
  ⟨rfl, rfl, rfl, rfl, rfl, rfl⟩

theorem becomes_start : m.Becomes m.start.device m.mapped m.applPtr m.hwPtr m.played := by
  simp only [start]
  split <;> exact ⟨rfl, rfl, rfl, rfl, rfl, rfl⟩

theorem becomes_stop : m.Becomes m.stop.device m.mapped m.applPtr m.hwPtr m.played := by
  simp only [stop]
  split <;> exact ⟨rfl, rfl, rfl, rfl, rfl, rfl⟩

theorem becomes_pause (enable : Bool) :
    m.Becomes (m.pause enable).device m.mapped m.applPtr m.hwPtr m.played := by
  simp only [pause]
  split <;> exact ⟨rfl, rfl, rfl, rfl, rfl, rfl⟩

theorem becomes_availUpdate :
    m.Becomes (Device.availUpdate m).device m.mapped m.applPtr m.hwPtr m.played := by
  simp only [Device.availUpdate]
  split <;> exact ⟨rfl, rfl, rfl, rfl, rfl, rfl⟩

theorem becomes_storeMapped (offset : Nat) (src : Bytes) :
    m.Becomes (Device.storeMapped offset src m).device
      (Device.storeMapped offset src m).device.mapped m.applPtr m.hwPtr m.played := by
  simp only [Device.storeMapped]
  split
  · exact ⟨rfl, rfl, rfl, rfl, rfl, rfl⟩
  · split <;> exact ⟨rfl, rfl, rfl, rfl, rfl, rfl⟩

theorem becomes_poke (address : Nat) (value : UInt8) :
    m.Becomes (Device.poke address value m).device (Device.poke address value m).device.mapped
      m.applPtr m.hwPtr m.played := by
  simp only [Device.poke]
  split <;> exact ⟨rfl, rfl, rfl, rfl, rfl, rfl⟩

end MemoryDevice

section Turn

variable {m : MemoryDevice} {s : StreamSetup} (h : m.Intact) (hsetup : m.setup = some s)
  (st : SinkState)
include h hsetup

theorem turn_drain : Turn s m st m.drain.device st #[] := by
  obtain ⟨e, hstep⟩ | ⟨s', hsetup', ⟨-, hstep⟩ | ⟨hdirection, hstep⟩⟩ := drain_cases h
  · rw [hstep]
    exact .rest m.becomes_self
  · rw [hstep]
    exact .rest ⟨rfl, rfl, rfl, rfl, rfl, rfl⟩
  · obtain rfl := Option.some.inj (hsetup.symm.trans hsetup')
    rw [hstep]
    exact .play m.pending hdirection (Nat.le_refl _) ⟨rfl, rfl, rfl, rfl, rfl, rfl⟩

/-- What goes past the tee copies nothing. -/
theorem turn_of_pass {μ η : Type} [Medium μ η] {action : Action}
    (hpass : action.transfer? μ η m = none) (hspares : action.Spares m) :
    Turn s m st (action.after m) st #[] := by
  cases action with
  | poke address value =>
      obtain ⟨hdirection, hspared⟩ := hspares
      exact .edit _ hdirection (hspared s hsetup) (becomes_poke address value)
  | ask request =>
      cases request with
      | setParams | prepare => exact hspares.elim
      | storeMapped offset src =>
          obtain ⟨hdirection, hspared⟩ := hspares
          exact .edit _ hdirection (hspared s hsetup) (becomes_storeMapped offset src)
      | start => exact .rest becomes_start
      | stop => exact .rest becomes_stop
      | pause enable => exact .rest (becomes_pause enable)
      | drain => exact turn_drain h hsetup st
      | availUpdate => exact .rest becomes_availUpdate
      | setNonblocking => exact .rest ⟨rfl, rfl, rfl, rfl, rfl, rfl⟩
      | writeInterleaved | writePlanar | readInterleaved | readPlanar | commit | rewind =>
          cases hpass
      | _ => exact .rest m.becomes_self

end Turn

/-- The bytes that a request to the hardware side records. -/
def HardwareRequest.accepted (request : HardwareRequest) (m : MemoryDevice) : Bytes :=
  match request, m.setup with
  | .inject data, some s =>
    match (m.inject data).result with
    | .ok n => data.extract 0 (n * s.geometry.frameBytes)
    | .error _ => #[]
  | _, _ => #[]

/-- The turn of a request to the hardware side. -/
theorem turn_perform {m : MemoryDevice} {s : StreamSetup} (h : m.Intact) (hsetup : m.setup = some s)
    (st : SinkState) (request : HardwareRequest) :
    Turn s m st (m.perform request).device st (request.accepted m) := by
  cases request with
  | consume frames =>
      obtain ⟨⟨e, hstep⟩, -⟩ | ⟨s', hsetup', hdirection, hstep⟩ := consume_cases h.laid frames
      · change Turn s m st (m.consume frames).device st #[]
        rw [hstep]
        exact .rest m.becomes_self
      · obtain rfl := Option.some.inj (hsetup.symm.trans hsetup')
        change Turn s m st (m.consume frames).device st #[]
        rw [hstep]
        exact .play _ hdirection (Nat.min_le_right _ _) ⟨rfl, rfl, rfl, rfl, rfl, rfl⟩
  | inject data =>
      change Turn s m st (m.inject data).device st _
      simp only [HardwareRequest.accepted, hsetup]
      obtain ⟨e, hstep⟩ |
          ⟨s', n, ring, state, hsetup', hdirection, hn, hstored, -, hresult, hdevice⟩ :=
        inject_cases h data
      · rw [hstep]
        exact .rest m.becomes_self
      · obtain rfl := Option.some.inj (hsetup.symm.trans hsetup')
        rw [hresult, hdevice]
        have hsize : n * s.geometry.frameBytes ≤ data.size :=
          s.geometry.bytes_le_of_le_bytesToFrames (by omega)
        refine .record n ⟨ring, m.areas⟩ _ hdirection (by omega) ?_ hstored
          ⟨rfl, rfl, rfl, rfl, rfl, rfl⟩
        rw [Array.size_extract, Nat.min_eq_left hsize, Nat.sub_zero]
  | _ => exact .rest ⟨rfl, rfl, rfl, rfl, rfl, rfl⟩

section Tee

variable {μ η : Type} {sink : Sink η}

namespace TeeStack

/-- A single tee with this sink. -/
def TeesTo (stack : TeeStack MemoryDevice η) (sink : Sink η) : Prop :=
  ∃ layer, stack.layers = [layer] ∧ layer.sink = sink

variable [Medium μ η] {stack : TeeStack MemoryDevice η} {w : World μ} {s : StreamSetup}
  {st : SinkState} {action : Action}

/-- A single tee that does not answer that its sink failed has recorded what was moved. -/
theorem look_recorded {step : DeviceStep MemoryDevice Nat}
    {recording : MemoryDevice → Nat → Recording μ η} {change : SinkState → SinkState}
    {layer : Layer η} (view : SinkView μ layer.sink.handle) {n : Nat} {device : MemoryDevice}
    (hstep : step = .ok n device) (hdoes : (recording device n).Does change)
    (hstill : n = 0 → change st = st) (hlook : view.look w.media = some st)
    (hinside : 0 < n → st.Inside)
    (hsink : ∀ e, (recorded [layer] step recording w).result = .error e →
      e.isSinkFailure = false) :
    (recorded [layer] step recording w).stack.TeesTo layer.sink ∧
      view.look (recorded [layer] step recording w).world.media = some (change st) := by
  subst hstep
  by_cases hn : 0 < n
  · have hends := hdoes layer (w.reportAll [])
    rw [recorded_of_moved rfl hn] at hsink ⊢
    change ∀ e, ((recording device n layer (w.reportAll [])).1.map fun _ => n) = .error e →
      _ at hsink
    change TeesTo ⟨[(recording device n layer (w.reportAll [])).2.1], device⟩ layer.sink ∧
      view.look (recording device n layer (w.reportAll [])).2.2.media = _
    rcases hresult : recording device n layer (w.reportAll []) with ⟨e | ⟨⟩, after⟩
    · rw [hresult] at hends hsink
      have hfalse := hsink e rfl
      rw [hends.2] at hfalse
      cases hfalse
    · rw [hresult] at hends
      obtain ⟨⟨stats, hstats⟩, hwritten⟩ := hends
      refine ⟨⟨after.1, rfl, ?_⟩, hwritten view st hlook (hinside hn)⟩
      rw [hstats]
  · obtain rfl : n = 0 := by omega
    rw [hstill rfl]
    exact ⟨⟨layer, rfl, rfl⟩, hlook⟩

/-- The turn of an action on a single tee that does not answer that its sink failed. -/
theorem act_turn (h : stack.device.Intact) (hsetup : stack.device.setup = some s)
    (htees : stack.TeesTo sink) (view : SinkView μ sink.handle)
    (hlook : view.look w.media = some st) (hinside : st.Inside)
    (hspares : action.Spares stack.device)
    (hsink : ∀ e, (stack.act action w).reply.result = .error e → e.isSinkFailure = false) :
    (stack.act action w).stack.TeesTo sink ∧
      ∃ st', view.look (stack.act action w).world.media = some st' ∧
        Turn s stack.device st (stack.act action w).stack.device st' #[] := by
  cases htransfer : action.transfer? μ η stack.device with
  | none =>
      obtain ⟨hlayers, hmedia⟩ := act_of_pass (w := w) htransfer
      refine ⟨?_, st, ?_, ?_⟩
      · rw [TeesTo, hlayers]
        exact htees
      · rw [hmedia]
        exact hlook
      · rw [device_act]
        exact turn_of_pass h hsetup st htransfer hspares
  | some transfer =>
      obtain ⟨hresult, hstack, hworld⟩ := act_of_transfer stack w htransfer
      obtain ⟨layer, hlayers, rfl⟩ := htees
      rw [hresult] at hsink
      rw [hstack, hworld]
      rw [hlayers] at hsink ⊢
      have hsink' : ∀ e, (recorded [layer] transfer.step transfer.recording w).result = .error e →
          e.isSinkFailure = false := by
        intro e herror
        exact hsink e (by rw [herror]; rfl)
      cases transfer_outcome h htransfer with
      | refused hrefuses =>
          obtain ⟨e, state, fault, hstep, -⟩ := id hrefuses
          have hstill : ∀ n, transfer.step.result = .ok n → n = 0 := by
            rw [hstep]
            exact nofun
          refine ⟨?_, st, ?_, ?_⟩
          · rw [recorded_of_still hstill]
            exact ⟨layer, rfl, rfl⟩
          · rw [recorded_of_still hstill]
            exact hlook
          · rw [device_recorded]
            exact .rest (becomes_refused hrefuses)
      | forth s' n ring bytes hsetup' havail hsize hstored hcapture hstep hdoes =>
          obtain rfl := Option.some.inj (hsetup.symm.trans hsetup')
          have hstill : n = 0 → st.append bytes = st := by
            rintro rfl
            rw [Nat.zero_mul] at hsize
            rw [Array.eq_empty_of_size_eq_zero hsize, SinkState.append_empty hinside]
          obtain ⟨htees', hlook'⟩ := look_recorded view hstep hdoes hstill hlook
            (fun _ => hinside) hsink'
          refine ⟨htees', _, hlook', ?_⟩
          rw [device_recorded, hstep]
          refine .forth n ⟨ring, stack.device.areas⟩ bytes havail hsize hstored ?_
            ⟨rfl, rfl, rfl, rfl, rfl, rfl⟩
          intro hdirection
          rw [hcapture hdirection]
          rfl
      | back s' n hsetup' hrewindable hstep hdoes =>
          obtain rfl := Option.some.inj (hsetup.symm.trans hsetup')
          have hstill : n = 0 → st.back (n * s.geometry.frameBytes) = st := by
            rintro rfl
            rw [Nat.zero_mul]
            rfl
          obtain ⟨htees', hlook'⟩ := look_recorded view hstep hdoes hstill hlook
            (fun _ => hinside) hsink'
          refine ⟨htees', _, hlook', ?_⟩
          rw [device_recorded, hstep]
          exact .back n hrewindable ⟨rfl, rfl, rfl, rfl, rfl, rfl⟩

end TeeStack

end Tee

end FrameTee
