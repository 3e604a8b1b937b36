import FrameTee.Proofs.Device.Guarded
import FrameTee.Proofs.Device.Planar
import FrameTee.Proofs.Device.Reached

/-!
# Operations that fail

An operation of a memory device that fails leaves the device and the buffers of the caller as they
were (`MemoryDevice.unchanged_of_failed`). A planted error is used up only by the operation that
answers with it, and that operation would have answered with any other in its place
(`MemoryDevice.AnswersPlanted`).

A planar write is the exception (`MemoryDevice.writePlanar_of_failed`). How long its buffers are is
found out only once the transfer is open, and opening a transfer of frames sets the stream running
(`MemoryDevice.Overreaches`).

## Implementation notes

That a planted error is the one that was answered cannot be told by comparing errors, since an
operation may fail by itself with an error like the planted one. So it is told by what the operation
would answer with other errors planted.
-/

namespace FrameTee.MemoryDevice

variable {m : MemoryDevice} {laid : Option RingLayout} {s : StreamSetup} {frames n : Nat}
  {e : StreamError} {α : Type}

/-- The operation answers with the planted error, whichever is planted. -/
def AnswersPlanted (operation : MemoryDevice → DeviceStep MemoryDevice α) (m : MemoryDevice) :
    Prop :=
  ∀ planted, (operation (m.withFault planted)).result = .error planted

/-- An operation that fails with `e` leaves the device `after`, and in it the planted error if it is
not the one that was answered. -/
structure KeepsFault (operation : MemoryDevice → DeviceStep MemoryDevice α) (m : MemoryDevice)
    (e : StreamError) (after : MemoryDevice) : Prop where
  /-- No error is planted anew. -/
  none : m.fault = none → after.fault = none
  /-- The planted error was answered and is gone, or another one was and it is still there. -/
  some : ∀ planted, m.fault = some planted →
    AnswersPlanted operation m ∧ e = planted ∧ after.fault = Option.none ∨
      ¬ AnswersPlanted operation m ∧ after.fault = some planted

/-- An operation that failed with `e` left the device as it was, a planted error apart that struck.
What failed for another reason would have failed with any error planted, or none was. -/
inductive Failed (operation : MemoryDevice → DeviceStep MemoryDevice α) (m : MemoryDevice)
    (e : StreamError) : Prop where
  | struck (hfault : m.fault = some e) (hanswers : AnswersPlanted operation m)
      (hdevice : (operation m).device = { m with fault := none })
  | spared (hany : ∀ fault, (operation { m with fault }).result = .error e)
      (hdevice : (operation m).device = m)
  | clear (hfault : m.fault = none) (hdevice : (operation m).device = m)

/-- There is another error. -/
theorem exists_ne_error (e : StreamError) : ∃ other : StreamError, other ≠ e := by
  by_cases h : e = .xrun
  · exact ⟨.suspended, by rw [h]; exact nofun⟩
  · exact ⟨.xrun, Ne.symm h⟩

namespace Failed

variable {operation : MemoryDevice → DeviceStep MemoryDevice α}

theorem device_eq (h : Failed operation m e) :
    (operation m).device = { m with fault := (operation m).device.fault } := by
  cases h with
  | struck hfault hanswers hdevice => rw [hdevice]
  | spared hany hdevice => rw [hdevice]
  | clear hfault hdevice => rw [hdevice]

theorem keepsFault (h : Failed operation m e) : KeepsFault operation m e (operation m).device := by
  cases h with
  | struck hfault hanswers hdevice =>
      rw [hdevice]
      refine ⟨fun _ => rfl, fun planted hplanted => .inl ⟨hanswers, ?_, rfl⟩⟩
      exact Option.some.inj (hfault.symm.trans hplanted)
  | spared hany hdevice =>
      rw [hdevice]
      refine ⟨id, fun planted hplanted => .inr ⟨fun hanswers => ?_, hplanted⟩⟩
      obtain ⟨other, hother⟩ := exists_ne_error e
      exact hother (Except.error.inj ((hanswers other).symm.trans (hany (.some other))))
  | clear hfault hdevice =>
      rw [hdevice]
      exact ⟨id, fun planted hplanted => absurd (hfault.symm.trans hplanted) nofun⟩

end Failed

/-- An operation that looks at no planted error is spared by it, if it changes nothing unless it
succeeds. -/
theorem failed_of_ignores {operation : MemoryDevice → DeviceStep MemoryDevice α}
    (hignores : ∀ fault, (operation { m with fault }).result = (operation m).result)
    (hcases : (∃ e, operation m = .fail e m) ∨ ∃ value, (operation m).result = .ok value)
    (herror : (operation m).result = .error e) : Failed operation m e := by
  refine .spared (fun fault => (hignores fault).trans herror) ?_
  obtain ⟨e', hstep⟩ | ⟨value, hok⟩ := hcases
  · rw [hstep]
    rfl
  · rw [hok] at herror
    cases herror

/-- A guarded transfer that moves all that it is granted leaves the device as it was when it
fails. -/
theorem failed_guarded {check : MemoryDevice → Except StreamError α}
    {move : α → Nat → MemoryDevice → DeviceStep MemoryDevice Nat} {op : String}
    (hcheck : ∀ fault, check { m with fault } = check m)
    (hmove : ∀ a s n, check m = .ok a → m.fault = none → m.Grants s frames n →
      ∃ k, (move a n (m.granted n)).result = .ok k)
    (herror : (m.guarded (check m) op frames move).result = .error e) :
    Failed (fun m => m.guarded (check m) op frames move) m e := by
  have hpassage := m.passage_guarded (check m) op frames move
  generalize hstep : m.guarded (check m) op frames move = step at hpassage herror
  cases hpassage with
  | unchecked hfails =>
      cases herror
      refine .spared (fun fault => ?_) ?_
      · rw [hcheck, hfails]
        rfl
      · rw [hstep]
        rfl
  | struck hpasses hfault =>
      cases herror
      refine .struck hfault (fun planted => ?_) ?_
      · have hpasses' : check (m.withFault planted) = .ok _ := (hcheck (some planted)).trans hpasses
        rw [hpasses', guarded, beginTransfer_of_fault (m := m.withFault planted) rfl]
        rfl
      · rw [hstep]
        rfl
  | refused hpasses hfault =>
      refine .clear hfault ?_
      rw [hstep]
      rfl
  | granted hpasses hfault hgrants =>
      obtain ⟨k, hk⟩ := hmove _ _ _ hpasses hfault hgrants
      rw [hk] at herror
      cases herror

section Operations

theorem failed_setParams (params : StreamParams) (herror : (m.setParams params).result = .error e) :
    Failed (·.setParams params) m e := by
  apply failed_of_ignores _ _ herror
  · intro fault
    simp only [setParams, badState]
    cases m.state <;> dsimp only <;> (try split) <;> (try split) <;> rfl
  · obtain hfails | ⟨-, hok, -⟩ := m.setParams_cases params
    · exact .inl hfails
    · exact .inr ⟨(), hok⟩

theorem failed_prepare (herror : m.prepare.result = .error e) : Failed prepare m e := by
  apply failed_of_ignores _ _ herror
  · intro fault
    simp only [prepare, badState]
    cases m.state <;> rfl
  · rw [prepare]
    split
    · exact .inl ⟨_, rfl⟩
    · exact .inl ⟨_, rfl⟩
    · exact .inr ⟨(), rfl⟩

theorem failed_start (herror : m.start.result = .error e) : Failed start m e := by
  apply failed_of_ignores _ _ herror
  · intro fault
    simp only [start, badState]
    cases m.state <;> rfl
  · rw [start]
    split
    · exact .inr ⟨(), rfl⟩
    · exact .inl ⟨_, rfl⟩

theorem failed_stop (herror : m.stop.result = .error e) : Failed stop m e := by
  apply failed_of_ignores _ _ herror
  · intro fault
    simp only [stop, badState]
    cases m.state <;> rfl
  · rw [stop]
    split
    · exact .inl ⟨_, rfl⟩
    · exact .inl ⟨_, rfl⟩
    · exact .inr ⟨(), rfl⟩

theorem failed_pause (enable : Bool) (herror : (m.pause enable).result = .error e) :
    Failed (·.pause enable) m e := by
  apply failed_of_ignores _ _ herror
  · intro fault
    simp only [pause, badState]
    cases enable <;> cases m.state <;> rfl
  · unfold pause
    split
    · exact .inr ⟨(), rfl⟩
    · exact .inr ⟨(), rfl⟩
    · exact .inl ⟨_, rfl⟩

/-- Whether and how frames are played does not depend on a planted error. -/
theorem result_consume_withFault (m : MemoryDevice) (frames : Nat) (fault : Option StreamError) :
    (consume { m with fault } frames).result = (m.consume frames).result := by
  have hload : ({ m with fault } : MemoryDevice).loadOnto = m.loadOnto := rfl
  have hpending : ({ m with fault } : MemoryDevice).pending = m.pending := rfl
  simp only [consume, badState, hload, hpending]
  cases m.setup with
  | none => rfl
  | some s =>
      dsimp only
      split
      · rfl
      · rcases m.loadOnto s m.hwPtr (min frames m.pending) m.played with ⟨e | ⟨⟩, played⟩ <;> rfl

theorem failed_consume (h : m.Intact) (herror : (m.consume frames).result = .error e) :
    Failed (·.consume frames) m e := by
  apply failed_of_ignores (result_consume_withFault m frames) _ herror
  obtain ⟨hfails, -⟩ | ⟨s, -, -, hstep⟩ := consume_cases h.laid frames
  · exact .inl hfails
  · exact .inr ⟨_, congrArg DeviceStep.result hstep⟩

theorem failed_inject (h : m.Intact) (data : Bytes) (herror : (m.inject data).result = .error e) :
    Failed (·.inject data) m e := by
  apply failed_of_ignores _ _ herror
  · intro fault
    have hstore : ({ m with fault } : MemoryDevice).storeAt = m.storeAt := rfl
    have hcaptured : ({ m with fault } : MemoryDevice).captured = m.captured := rfl
    simp only [inject, badState, hstore, hcaptured]
    cases m.setup with
    | none => rfl
    | some s =>
        dsimp only
        split
        · rfl
        · split
          · rfl
          · split <;> rfl
  · obtain hfails | ⟨s, n, ring, state, -, -, -, -, -, hok, -⟩ := inject_cases h data
    · exact .inl hfails
    · exact .inr ⟨n, hok⟩

theorem failed_drain (h : m.Intact) (herror : m.drain.result = .error e) : Failed drain m e := by
  apply failed_of_ignores _ _ herror
  · intro fault
    have hconsume := result_consume_withFault { m with state := .draining } m.pending fault
    have hpending : ({ m with fault } : MemoryDevice).pending = m.pending := rfl
    simp only [drain, badState, hpending, hconsume]
    generalize (consume { m with state := .draining } m.pending).result = result
    cases m.state <;> cases m.direction <;> cases result <;> rfl
  · obtain hfails | ⟨s, -, ⟨-, hstep⟩ | ⟨-, hstep⟩⟩ := drain_cases h
    · exact .inl hfails
    · exact .inr ⟨(), congrArg DeviceStep.result hstep⟩
    · exact .inr ⟨(), congrArg DeviceStep.result hstep⟩

theorem failed_rewind (herror : (m.rewind frames).result = .error e) :
    Failed (·.rewind frames) m e := by
  cases hfault : m.fault with
  | some planted =>
      have hstep := rewind_of_fault hfault frames
      rw [hstep] at herror
      cases herror
      refine .struck hfault (fun planted => rfl) ?_
      rw [hstep]
      rfl
  | none =>
      obtain ⟨e', hstep⟩ | ⟨s, n, -, -, hstep⟩ := rewind_of_no_fault hfault frames
      · refine .clear hfault ?_
        rw [hstep]
        rfl
      · rw [hstep] at herror
        cases herror

theorem failed_commit (herror : (m.commit frames).result = .error e) :
    Failed (·.commit frames) m e := by
  simp only [commit_eq_guarded] at herror ⊢
  exact failed_guarded (fun _ => rfl) (fun _ _ n _ _ _ => ⟨n, rfl⟩) herror

theorem failed_writeInterleaved (h : m.Intact) (buffer : Bytes)
    (herror : (m.writeInterleaved buffer frames).result = .error e) :
    Failed (·.writeInterleaved buffer frames) m e := by
  simp only [writeInterleaved_eq_guarded] at herror ⊢
  refine failed_guarded (fun _ => rfl) ?_ herror
  intro s s' n hcheck _ hgrants
  obtain ⟨-, hlong, hgrants⟩ := hgrants.vetted hcheck
  exact ⟨n, storeNext_extract_granted h hgrants (bytes_of_checkBuffer hlong).2⟩

theorem failed_readInterleaved (h : m.Intact) (buffer : Bytes)
    (herror : (m.readInterleaved buffer frames).1.result = .error e) :
    Failed (fun m => (m.readInterleaved buffer frames).1) m e := by
  simp only [readInterleaved_eq_guarded] at herror ⊢
  refine failed_guarded (fun _ => rfl) (fun s s' n hcheck _ _ => ?_) herror
  exact ⟨n, loadNext_granted h (of_vet_eq_ok hcheck).2.1 n⟩

theorem failed_readPlanar (h : m.Intact) (buffers : Array Bytes)
    (herror : (m.readPlanar buffers frames).1.result = .error e) :
    Failed (fun m => (m.readPlanar buffers frames).1) m e := by
  simp only [readPlanar_eq_guarded] at herror ⊢
  refine failed_guarded (fun _ => rfl) (fun s s' n hcheck _ _ => ?_) herror
  exact ⟨n, loadNext_granted h (of_vet_eq_ok hcheck).2.1 n⟩

end Operations

/-- The operations of a memory device that may fail and change it, planar writes apart. -/
inductive Operation where
  /-- To take on parameters. -/
  | setParams (params : StreamParams)
  /-- To become ready. -/
  | prepare
  /-- To start. -/
  | start
  /-- To stop at once. -/
  | stop
  /-- To stop once all is played. -/
  | drain
  /-- To halt or to go on. -/
  | pause (enable : Bool)
  /-- To write one interleaved buffer. -/
  | writeInterleaved (buffer : Bytes) (frames : Nat)
  /-- To read into one interleaved buffer. -/
  | readInterleaved (buffer : Bytes) (frames : Nat)
  /-- To read into one buffer per channel. -/
  | readPlanar (buffers : Array Bytes) (frames : Nat)
  /-- To hand over frames of the mapped ring. -/
  | commit (frames : Nat)
  /-- To take back frames. -/
  | rewind (frames : Nat)
  /-- To play pending frames. -/
  | consume (frames : Nat)
  /-- To record frames. -/
  | inject (data : Bytes)

namespace Operation

/-- What an operation answers when it succeeds: nothing, or a number of frames. -/
def Answer : Operation → Type
  | setParams _ | prepare | start | stop | drain | pause _ => Unit
  | writeInterleaved .. | readInterleaved .. | readPlanar .. | commit _ | rewind _ => Nat
  | consume _ | inject _ => Nat

/-- The step of a device. -/
def step : (operation : Operation) → MemoryDevice → DeviceStep MemoryDevice operation.Answer
  | setParams params, m => m.setParams params
  | prepare, m => m.prepare
  | start, m => m.start
  | stop, m => m.stop
  | drain, m => m.drain
  | pause enable, m => m.pause enable
  | writeInterleaved buffer frames, m => m.writeInterleaved buffer frames
  | readInterleaved buffer frames, m => (m.readInterleaved buffer frames).1
  | readPlanar buffers frames, m => (m.readPlanar buffers frames).1
  | commit frames, m => m.commit frames
  | rewind frames, m => m.rewind frames
  | consume frames, m => m.consume frames
  | inject data, m => m.inject data

/-- The buffers that an operation is to fill. -/
def buffers : Operation → ReadBuffers
  | readInterleaved buffer _ => .interleaved buffer
  | readPlanar buffers _ => .planar buffers
  | _ => .none

/-- The buffers that an operation was to fill, afterwards. -/
def filled (m : MemoryDevice) : Operation → ReadBuffers
  | readInterleaved buffer frames => .interleaved (m.readInterleaved buffer frames).2
  | readPlanar buffers frames => .planar (m.readPlanar buffers frames).2
  | _ => .none

theorem failed (h : m.Intact) (operation : Operation)
    (herror : (operation.step m).result = .error e) : Failed operation.step m e := by
  cases operation with
  | setParams params => exact failed_setParams params herror
  | prepare => exact failed_prepare herror
  | start => exact failed_start herror
  | stop => exact failed_stop herror
  | drain => exact failed_drain h herror
  | pause enable => exact failed_pause enable herror
  | writeInterleaved buffer frames => exact failed_writeInterleaved h buffer herror
  | readInterleaved buffer frames => exact failed_readInterleaved h buffer herror
  | readPlanar buffers frames => exact failed_readPlanar h buffers herror
  | commit frames => exact failed_commit herror
  | rewind frames => exact failed_rewind herror
  | consume frames => exact failed_consume h herror
  | inject data => exact failed_inject h data herror

/-- Buffers are filled only by a read that succeeds. -/
theorem filled_eq_buffers (h : m.Intact) (operation : Operation)
    (herror : (operation.step m).result = .error e) : operation.filled m = operation.buffers := by
  cases operation with
  | readInterleaved buffer frames =>
      obtain ⟨-, hbuffer⟩ | ⟨s, n, -, -, -, hread⟩ := readInterleaved_cases h buffer frames
      · exact congrArg ReadBuffers.interleaved hbuffer
      · change (m.readInterleaved buffer frames).1.result = .error e at herror
        rw [hread] at herror
        cases herror
  | readPlanar buffers frames =>
      obtain ⟨-, hbuffers⟩ | ⟨s, n, -, -, -, -, hread⟩ := readPlanar_cases h buffers frames
      · exact congrArg ReadBuffers.planar hbuffers
      · change (m.readPlanar buffers frames).1.result = .error e at herror
        rw [hread] at herror
        cases herror
  | _ => rfl

end Operation

/-- In every state that is reached, an operation that fails leaves the device and the buffers of the
caller as they were. A planted error is gone exactly if it is the one that was answered. -/
theorem unchanged_of_failed (h : Reached m laid) (operation : Operation)
    (herror : (operation.step m).result = .error e) :
    (operation.step m).device = { m with fault := (operation.step m).device.fault } ∧
      KeepsFault operation.step m e (operation.step m).device ∧
      operation.filled m = operation.buffers := by
  have hintact := h.sound.intact
  have hfailed := operation.failed hintact herror
  exact ⟨hfailed.device_eq, hfailed.keepsFault, operation.filled_eq_buffers hintact herror⟩

/-- A planted error strikes a write, and is gone then. -/
theorem unchanged_of_failed_planted :
    let m := (readyPlayer.perform (.failNext .xrun)).device
    let write := Operation.writeInterleaved #[1] 1
    Reached m (some .interleaved) ∧ (write.step m).result = .error .xrun ∧
      (write.step m).device = readyPlayer ∧
      KeepsFault write.step m .xrun (write.step m).device := by
  intro m write
  have hreached : Reached m (some .interleaved) := .drive (.failNext .xrun) reached_readyPlayer
  have herror : (write.step m).result = .error .xrun := rfl
  obtain ⟨hdevice, hkeeps, -⟩ := unchanged_of_failed hreached write herror
  exact ⟨hreached, herror, by decide +kernel, hkeeps⟩

section Planar

variable {buffers : Array Bytes}

/-- A planar write would move frames, and a buffer does not hold them. -/
structure Overreaches (m : MemoryDevice) (s : StreamSetup) (buffers : Array Bytes) (frames : Nat) :
    Prop where
  /-- No error is planted. -/
  fault : m.fault = none
  /-- Frames are played. -/
  direction : m.direction = .playback
  /-- Parameters are set. -/
  setup : m.setup = some s
  /-- The stream is ready. -/
  ready : m.Ready
  /-- There is one buffer per channel. -/
  count : buffers.size = s.geometry.channelCount
  /-- One of the buffers is too short for the frames that can be moved. -/
  short : ∃ (c : Nat) (buffer : Bytes), buffers[c]? = some buffer ∧
    buffer.size < m.movable s frames * s.geometry.sampleBytes

/-- A planar write that overreaches sets the stream running and fails then. -/
theorem Overreaches.writePlanar_eq (h : m.Overreaches s buffers frames) :
    ∃ e, m.writePlanar buffers frames = .fail (.area e) { m with state := .running } := by
  obtain ⟨c, buffer, hbuffer, hshort⟩ := h.short
  have hpos : 0 < m.movable s frames := by
    apply Nat.pos_of_ne_zero
    intro hzero
    rw [hzero, Nat.zero_mul] at hshort
    exact absurd hshort (Nat.not_lt_zero _)
  have hbegin := beginTransfer_eq_ok h.fault h.setup h.ready
    (fun hnone => Nat.pos_iff_ne_zero.mp hpos hnone.1) "write"
  have hrunning : m.granted (m.movable s frames) = { m with state := .running } := by
    rw [granted, if_pos hpos]
  obtain ⟨e, hcopy⟩ : ∃ e, (ChannelAreas.planar buffers s.geometry).copyInterleaved s.geometry 0
      (m.movable s frames) = .error e := by
    cases hcopy : (ChannelAreas.planar buffers s.geometry).copyInterleaved s.geometry 0
        (m.movable s frames) with
    | error e => exact ⟨e, rfl⟩
    | ok flat =>
        obtain ⟨-, hflat⟩ := ChannelAreas.interleaves_of_copyInterleaved_eq_ok hpos hcopy
        exact absurd (hflat.long c buffer hbuffer) (Nat.not_le.mpr hshort)
  have hvet : (m.vet .playback "write" fun s => checkCount s buffers.size) = .ok s :=
    vet_eq_ok h.direction h.setup (checkCount_eq_ok h.count) _
  refine ⟨e, ?_⟩
  rw [writePlanar_eq_guarded, hvet, guarded, hbegin]
  dsimp only
  rw [storePlanar, hcopy, hrunning]

theorem Overreaches.device_writePlanar (h : m.Overreaches s buffers frames) :
    (m.writePlanar buffers frames).device = { m with state := .running } := by
  obtain ⟨e, hstep⟩ := h.writePlanar_eq
  rw [hstep]
  rfl

/-- A planar write that was granted and does not overreach moves its frames. -/
theorem result_storePlanar (h : m.Intact) (hover : ¬ ∃ s, m.Overreaches s buffers frames)
    (hfault : m.fault = none)
    (hvet : (m.vet .playback "write" fun s => checkCount s buffers.size) = .ok s)
    {s' : StreamSetup} (hgrants : m.Grants s' frames n) :
    ((m.granted n).storePlanar s buffers n).result = .ok n := by
  obtain ⟨hdirection, hcheck, hgrants⟩ := hgrants.vetted hvet
  have hcount := count_eq_of_checkCount hcheck
  apply storePlanar_granted h hgrants hcount
  intro c buffer hbuffer
  apply Nat.le_of_not_lt
  intro hshort
  rw [hgrants.eq_movable] at hshort
  exact hover ⟨s, hfault, hdirection, hgrants.setup, hgrants.ready, hcount, c, buffer, hbuffer,
    hshort⟩

/-- A planar write that fails overreaches, or leaves the device as it was. -/
theorem failed_writePlanar (h : m.Intact)
    (herror : (m.writePlanar buffers frames).result = .error e) :
    Failed (·.writePlanar buffers frames) m e ∨ ∃ s, m.Overreaches s buffers frames := by
  by_cases hover : ∃ s, m.Overreaches s buffers frames
  · exact .inr hover
  · refine .inl ?_
    simp only [writePlanar_eq_guarded] at herror ⊢
    exact failed_guarded (fun _ => rfl)
      (fun s s' n hvet hfault hgrants => ⟨n, result_storePlanar h hover hfault hvet hgrants⟩) herror

/-- In every state that is reached, a planar write that fails moves nothing and deals with a planted
error as other operations do. But it leaves the stream running if it overreached, and in its state
only if it did not. -/
theorem writePlanar_of_failed (h : Reached m laid)
    (herror : (m.writePlanar buffers frames).result = .error e) :
    let after := (m.writePlanar buffers frames).device
    after = { m with state := after.state, fault := after.fault } ∧
      KeepsFault (·.writePlanar buffers frames) m e after ∧
      ((∃ s, m.Overreaches s buffers frames) → after.state = .running) ∧
      ((¬ ∃ s, m.Overreaches s buffers frames) → after.state = m.state) := by
  intro after
  by_cases hover : ∃ s, m.Overreaches s buffers frames
  · obtain ⟨s, hover⟩ := hover
    have hafter : after = { m with state := .running } := hover.device_writePlanar
    rw [hafter]
    refine ⟨rfl, ⟨id, ?_⟩, fun _ => rfl, fun hnot => absurd ⟨s, hover⟩ hnot⟩
    intro planted hplanted
    exact absurd (hover.fault.symm.trans hplanted) nofun
  · obtain hfailed | hover' := failed_writePlanar h.sound.intact herror
    · have hdevice : after = { m with fault := after.fault } := hfailed.device_eq
      have hstate : after.state = m.state := by
        rw [hdevice]
      refine ⟨?_, hfailed.keepsFault, fun hover' => absurd hover' hover, fun _ => hstate⟩
      rw [hstate]
      exact hdevice
    · exact absurd hover' hover

/-- A player that is ready to start is given two frames to write and a buffer that holds none. -/
theorem writePlanar_of_failed_short :
    (readyPlayer.writePlanar #[#[]] 2).result = .error (.area (.shortBuffer 2 0)) ∧
      readyPlayer.Overreaches ⟨⟨1, .u8⟩, 8000, 4⟩ #[#[]] 2 ∧
      readyPlayer.state = .prepared ∧
      (readyPlayer.writePlanar #[#[]] 2).device.state = .running := by
  have herror : (readyPlayer.writePlanar #[#[]] 2).result = .error (.area (.shortBuffer 2 0)) := by
    cbv
  have hover : readyPlayer.Overreaches ⟨⟨1, .u8⟩, 8000, 4⟩ #[#[]] 2 := by
    refine ⟨by decide +kernel, by decide +kernel, by decide +kernel, .inl (by decide +kernel),
      by decide +kernel, 0, #[], rfl, by decide +kernel⟩
  obtain ⟨-, -, hrunning, -⟩ := writePlanar_of_failed reached_readyPlayer herror
  exact ⟨herror, hover, by decide +kernel, hrunning ⟨_, hover⟩⟩

/-- A planar write that fails does not always leave the stream in its state. -/
theorem not_forall_state_writePlanar_eq :
    ¬ ∀ (m : MemoryDevice) (laid : Option RingLayout) (buffers : Array Bytes) (frames : Nat)
      (e : StreamError), Reached m laid → (m.writePlanar buffers frames).result = .error e →
        (m.writePlanar buffers frames).device.state = m.state := by
  intro hall
  have herror : (readyPlayer.writePlanar #[#[]] 2).result = .error (.area (.shortBuffer 2 0)) := by
    cbv
  have hstate := hall readyPlayer _ #[#[]] 2 _ reached_readyPlayer herror
  have hstate' : (readyPlayer.writePlanar #[#[]] 2).device.state ≠ readyPlayer.state := by
    decide +kernel
  exact hstate' hstate

end Planar

end FrameTee.MemoryDevice
