import FrameTee.Proofs.Device.Failed

/-!
# Where errors of channel areas come from

A memory device copies between channel areas: the buffers of the caller on one side, its ring on the
other. The ring is always long enough for its layout, so no operation fails in it
(`MemoryDevice.FitsAreas`). An operation answers that a channel area does not fit its memory only if
that very error was planted, or if it is a planar write that overreaches
(`MemoryDevice.Operation.fault_of_area`, `MemoryDevice.area_of_writePlanar`).
-/

namespace FrameTee.MemoryDevice

variable {m : MemoryDevice} {s : StreamSetup} {frames n : Nat} {e : AreaError} {α β : Type}

/-- The answer is not that a channel area does not fit its memory. -/
def FitsAreas (result : Except StreamError α) : Prop :=
  ∀ e, result ≠ .error (.area e)

namespace FitsAreas

theorem ok (value : α) : FitsAreas (.ok value) := by
  intro e h
  cases h

theorem badState (op : String) : FitsAreas (.error (m.badState op) : Except StreamError α) := by
  intro e h
  cases h

theorem invalidArgument (fault : ArgumentFault) :
    FitsAreas (.error (.invalidArgument fault) : Except StreamError α) := by
  intro e h
  cases h

/-- Whether an error is one of an area does not depend on what would have been answered without
it. -/
theorem ofError {error : StreamError} (h : FitsAreas (.error error : Except StreamError α)) :
    FitsAreas (.error error : Except StreamError β) :=
  fun e he => h e (congrArg _ (Except.error.inj he))

theorem map {result : Except StreamError α} (h : FitsAreas result) (f : α → β) :
    FitsAreas (result.map f) := by
  cases result with
  | error error => exact h.ofError
  | ok value => exact ok (f value)

theorem bind {result : Except StreamError α} {f : α → Except StreamError β} (h : FitsAreas result)
    (hf : ∀ value, FitsAreas (f value)) : FitsAreas (result >>= f) := by
  cases result with
  | error error => exact h.ofError
  | ok value => exact hf value

theorem forM {f : α → Except StreamError Unit} (hf : ∀ value, FitsAreas (f value)) :
    (values : List α) → FitsAreas (values.forM f)
  | [] => ok ()
  | value :: values => bind (hf value) fun _ => forM hf values

end FitsAreas

section Checks

theorem fitsAreas_byteLength (s : StreamSetup) (frames : Nat) :
    FitsAreas (byteLength s frames) := by
  rw [byteLength]
  split
  · exact .ok _
  · exact .invalidArgument _

theorem fitsAreas_checkBuffer (needed available : Nat) :
    FitsAreas (checkBuffer needed available) := by
  rw [checkBuffer]
  split
  · exact .invalidArgument _
  · exact .ok ()

theorem fitsAreas_checkCount (s : StreamSetup) (count : Nat) : FitsAreas (checkCount s count) := by
  rw [checkCount]
  split
  · exact .invalidArgument _
  · exact .ok ()

theorem fitsAreas_checkPlanar (s : StreamSetup) (buffers : Array Bytes) (frames : Nat) :
    FitsAreas (checkPlanar s buffers frames) := by
  have hlength : FitsAreas (sampleLength s frames) := by
    rw [sampleLength]
    split
    · exact .ok _
    · exact .invalidArgument _
  exact (fitsAreas_checkCount s _).bind fun _ =>
    hlength.bind fun _ => .forM (fun _ => fitsAreas_checkBuffer _ _) _

theorem fitsAreas_vet {direction : Direction} {op : String}
    {check : StreamSetup → Except StreamError Unit} (h : ∀ s, FitsAreas (check s)) :
    FitsAreas (m.vet direction op check) := by
  rw [vet]
  split
  · split
    · exact (h _).map _
    · exact .badState op
  · exact .badState op

end Checks

/-- A transfer does not open with an error of an area, if none is planted. -/
theorem fitsAreas_beginTransfer (hfault : m.fault = none) (op : String) (frames : Nat) :
    FitsAreas (m.beginTransfer op frames).1 := by
  have hready : ∀ s running, FitsAreas
      (if m.movable s frames = 0 ∧ 0 < frames ∧ m.nonblocking = true then (.error .wouldBlock, m)
      else if 0 < m.movable s frames then (.ok (m.movable s frames), running)
      else (.ok (m.movable s frames), m) : Except StreamError Nat × MemoryDevice).1 := by
    intro s running
    split_ifs
    · intro e h
      cases h
    · exact .ok _
    · exact .ok _
  rw [beginTransfer, hfault]
  cases m.setup with
  | none => exact .badState op
  | some s =>
      cases m.state with
      | prepared => exact hready s _
      | running => exact hready s _
      | _ =>
          intro e h
          cases h

/-- A guarded transfer whose check and whose move fit their areas does not answer with an error of
an area, if none is planted. -/
theorem fault_of_guarded {check : Except StreamError α} {op : String}
    {move : α → Nat → MemoryDevice → DeviceStep MemoryDevice Nat} (hcheck : FitsAreas check)
    (hmove : ∀ a s n, check = .ok a → m.fault = none → m.Grants s frames n →
      FitsAreas (move a n (m.granted n)).result)
    (harea : (m.guarded check op frames move).result = .error (.area e)) :
    m.fault = some (.area e) := by
  cases hpasses : check with
  | error e' =>
      rw [hpasses] at harea
      cases harea
      exact absurd hpasses (hcheck e)
  | ok a =>
      rw [hpasses, guarded] at harea
      cases hfault : m.fault with
      | some planted =>
          rw [beginTransfer_of_fault hfault] at harea
          exact congrArg some (Except.error.inj harea)
      | none =>
          obtain ⟨e', hbegin⟩ | ⟨s, n, hgrants, hbegin⟩ :=
            beginTransfer_of_no_fault hfault op frames
          · have hopens := fitsAreas_beginTransfer hfault op frames
            rw [hbegin] at harea hopens
            exact absurd harea (hopens e)
          · rw [hbegin] at harea
            exact absurd harea (hmove a s n hpasses hfault hgrants e)

section Operations

theorem fitsAreas_requireSetup (m : MemoryDevice) (op : String) :
    FitsAreas (m.requireSetup op) := by
  rw [requireSetup]
  split
  · exact .ok _
  · exact .badState op

theorem fitsAreas_channelInfo (m : MemoryDevice) (channel : UInt16) :
    FitsAreas (m.channelInfo channel) := by
  have hsetup := fitsAreas_requireSetup m "channel_info"
  rw [channelInfo]
  split
  · rename_i error herror
    rw [herror] at hsetup
    exact hsetup.ofError
  · split
    · exact .ok _
    · exact .invalidArgument _

theorem fitsAreas_availUpdate (m : MemoryDevice) : FitsAreas (Device.availUpdate m).result := by
  have hsetup := fitsAreas_requireSetup m "avail_update"
  simp only [Device.availUpdate]
  split
  · exact .ok _
  · rename_i error herror
    rw [herror] at hsetup
    exact hsetup.ofError

theorem fitsAreas_setParams (m : MemoryDevice) (params : StreamParams) :
    FitsAreas (m.setParams params).result := by
  rw [setParams]
  split <;> try exact .badState _
  all_goals
    split
    · rename_i haccepts
      dsimp only
      rw [byteLength_of_accepts haccepts]
      exact .ok ()
    · exact .invalidArgument _

theorem fitsAreas_prepare (m : MemoryDevice) : FitsAreas m.prepare.result := by
  rw [prepare]
  split
  · exact .badState _
  · exact .badState _
  · exact .ok ()

theorem fitsAreas_start (m : MemoryDevice) : FitsAreas m.start.result := by
  rw [start]
  split
  · exact .ok ()
  · exact .badState _

theorem fitsAreas_stop (m : MemoryDevice) : FitsAreas m.stop.result := by
  rw [stop]
  split
  · exact .badState _
  · exact .badState _
  · exact .ok ()

theorem fitsAreas_pause (m : MemoryDevice) (enable : Bool) : FitsAreas (m.pause enable).result := by
  unfold pause
  split
  · exact .ok ()
  · exact .ok ()
  · exact .badState _

theorem fitsAreas_consume (h : m.Intact) (frames : Nat) : FitsAreas (m.consume frames).result := by
  obtain hsetup | ⟨s, hsetup⟩ := Option.eq_none_or_eq_some m.setup
  · rw [consume, hsetup]
    exact .badState _
  · obtain ⟨layout, hlaid⟩ := h.laid s hsetup
    rw [consume, hsetup]
    dsimp only
    rw [loadOnto_eq_ok hlaid]
    split
    · exact .badState _
    · exact .ok _

theorem fitsAreas_inject (h : m.Intact) (data : Bytes) : FitsAreas (m.inject data).result := by
  obtain hsetup | ⟨s, hsetup⟩ := Option.eq_none_or_eq_some m.setup
  · rw [inject, hsetup]
    exact .badState _
  · by_cases hdirection : m.direction = .capture
    · obtain ⟨ring, -, hresult, -⟩ := inject_eq_ok h hsetup hdirection data
      rw [hresult]
      exact .ok _
    · rw [inject, hsetup]
      dsimp only
      rw [if_pos hdirection]
      exact .badState _

theorem fitsAreas_drain (h : m.Intact) : FitsAreas m.drain.result := by
  by_cases hdrains : m.Ready ∨ m.state = .paused
  · obtain ⟨s, -, ⟨-, hstep⟩ | ⟨-, hstep⟩⟩ := drain_eq_ok h hdrains
    · rw [hstep]
      exact .ok ()
    · rw [hstep]
      exact .ok ()
  · rw [drain_eq_fail hdrains]
    exact .badState _

theorem fault_of_rewind (harea : (m.rewind frames).result = .error (.area e)) :
    m.fault = some (.area e) := by
  rw [rewind] at harea
  split at harea
  · rename_i planted hfault
    cases harea
    exact hfault
  · split at harea
    · cases harea
    · split at harea <;> cases harea

/-- An operation other than a planar write answers with an error of an area only where that error
was planted. -/
theorem Operation.fault_of_area (h : m.Intact) (operation : Operation)
    (harea : (operation.step m).result = .error (.area e)) : m.fault = some (.area e) := by
  cases operation with
  | setParams params => exact absurd harea (fitsAreas_setParams m params e)
  | prepare => exact absurd harea (fitsAreas_prepare m e)
  | start => exact absurd harea (fitsAreas_start m e)
  | stop => exact absurd harea (fitsAreas_stop m e)
  | drain => exact absurd harea (fitsAreas_drain h e)
  | pause enable => exact absurd harea (fitsAreas_pause m enable e)
  | consume frames => exact absurd harea (fitsAreas_consume h frames e)
  | inject data => exact absurd harea (fitsAreas_inject h data e)
  | rewind frames => exact fault_of_rewind harea
  | commit frames =>
      simp only [step, commit_eq_guarded] at harea
      exact fault_of_guarded (.ok ()) (fun _ _ n _ _ _ => .ok n) harea
  | writeInterleaved buffer frames =>
      simp only [step, writeInterleaved_eq_guarded] at harea
      refine fault_of_guarded ?_ ?_ harea
      · exact fitsAreas_vet fun s =>
          (fitsAreas_byteLength s frames).bind fun _ => fitsAreas_checkBuffer _ _
      · intro s s' n hvet _ hgrants
        obtain ⟨-, hcheck, hgrants⟩ := hgrants.vetted hvet
        rw [storeNext_extract_granted h hgrants (bytes_of_checkBuffer hcheck).2]
        exact .ok n
  | readInterleaved buffer frames =>
      simp only [step, readInterleaved_eq_guarded] at harea
      refine fault_of_guarded ?_ ?_ harea
      · exact fitsAreas_vet fun s =>
          (fitsAreas_byteLength s frames).bind fun _ => fitsAreas_checkBuffer _ _
      · intro s s' n hvet _ _
        rw [loadNext_granted h (of_vet_eq_ok hvet).2.1 n]
        exact .ok n
  | readPlanar buffers frames =>
      simp only [step, readPlanar_eq_guarded] at harea
      refine fault_of_guarded ?_ ?_ harea
      · exact fitsAreas_vet fun s => fitsAreas_checkPlanar s buffers frames
      · intro s s' n hvet _ _
        rw [loadNext_granted h (of_vet_eq_ok hvet).2.1 n]
        exact .ok n

/-- A planar write answers with an error of an area if it overreaches, or if that error was
planted. -/
theorem area_of_writePlanar (h : m.Intact) {buffers : Array Bytes}
    (harea : (m.writePlanar buffers frames).result = .error (.area e)) :
    m.fault = some (.area e) ∨ ∃ s, m.Overreaches s buffers frames := by
  by_cases hover : ∃ s, m.Overreaches s buffers frames
  · exact .inr hover
  · refine .inl ?_
    rw [writePlanar_eq_guarded] at harea
    refine fault_of_guarded (fitsAreas_vet fun s => fitsAreas_checkCount s _) ?_ harea
    intro s s' n hvet hfault hgrants
    rw [result_storePlanar h hover hfault hvet hgrants]
    exact .ok n

end Operations

end FrameTee.MemoryDevice
