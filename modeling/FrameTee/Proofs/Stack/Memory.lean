import FrameTee.Proofs.Area.Interleaving
import FrameTee.Proofs.Device.Reached
import FrameTee.Proofs.Stack.Transfer

/-!
# Transfers over a memory device

Over a memory device a transfer is refused, moves frames on or takes frames back
(`Transfer.Outcome`). In the last two cases the recording of a tee asks the sink for exactly those
frames, so it can fail in no other way than by the sink.
-/

namespace FrameTee

open MappedRing MemoryDevice

variable {μ η : Type} [Medium μ η] {m : MemoryDevice} {s : StreamSetup}

/-- What a transfer of a memory device comes to, and what tees record of it. It is refused, or it
moves on by frames that are in the ring then, and a tee writes them, or it takes frames back, and a
tee moves back over them. -/
inductive Transfer.Outcome (m : MemoryDevice) (transfer : Transfer MemoryDevice μ η) : Prop where
  | refused (hrefuses : m.Refuses transfer.step)
  | forth (s : StreamSetup) (n : Nat) (ring : Memory) (bytes : Bytes) (hsetup : m.setup = some s)
      (havail : n ≤ m.avail s) (hsize : bytes.size = n * s.geometry.frameBytes)
      (hstored : Stored s (m.applPtr * s.geometry.frameBytes) (n * s.geometry.frameBytes)
        (bytes.getD · 0) m.mapped ⟨ring, m.areas⟩)
      (hcapture : m.direction = .capture → ring = m.ring)
      (hstep : transfer.step = .ok n (m.advanced n ring))
      (hdoes : (transfer.recording (m.advanced n ring) n).Does (·.append bytes))
  | back (s : StreamSetup) (n : Nat) (hsetup : m.setup = some s) (hrewindable : n ≤ m.rewindable s)
      (hstep : transfer.step = .ok n { m with applPtr := m.applPtr - n })
      (hdoes : (transfer.recording { m with applPtr := m.applPtr - n } n).Does
        (·.back (n * s.geometry.frameBytes)))

/-- What is in the ring already need not be stored. -/
theorem stored_self {ring : MappedRing} (position n : Nat) :
    Stored s (position * s.geometry.frameBytes) (n * s.geometry.frameBytes)
      ((ring.streamBytes s position n).getD · 0) ring ring :=
  ⟨rfl, rfl, fun _ hi => (getD_streamBytes hi).symm, fun _ _ => rfl⟩

section Outcome

variable (h : m.Intact)
include h

theorem outcome_writeInterleaved (buffer : Bytes) (frames : Nat) :
    (⟨m.writeInterleaved buffer frames, Layer.recordInterleaved buffer⟩ :
      Transfer MemoryDevice μ η).Outcome m := by
  obtain hrefuses | ⟨s, n, ring, hdirection, hgrants, hsize, hstored, hstep⟩ :=
    writeInterleaved_cases h buffer frames
  · exact .refused hrefuses
  · obtain ⟨layout, hlaid⟩ := h.laid s hgrants.setup
    refine .forth s n ring _ hgrants.setup hgrants.le_avail ?_ hstored ?_ hstep ?_
    · rw [Array.size_extract, Nat.min_eq_left hsize, Nat.sub_zero]
    · intro hcapture
      rw [hdirection] at hcapture
      cases hcapture
    · exact Layer.does_recordInterleaved (m := m.advanced n ring) hgrants.setup hlaid.supported
        (h.le_bufferSize hgrants) hsize

theorem outcome_writePlanar (buffers : Array Bytes) (frames : Nat) :
    (⟨m.writePlanar buffers frames, Layer.recordPlanar buffers⟩ :
      Transfer MemoryDevice μ η).Outcome m := by
  obtain hrefuses | ⟨s, n, flat, ring, hdirection, hgrants, hflat, hstored, hstep⟩ :=
    writePlanar_cases h buffers frames
  · exact .refused hrefuses
  · refine .forth s n ring flat hgrants.setup hgrants.le_avail
      (ChannelAreas.size_of_copyInterleaved_eq_ok hflat) hstored ?_ hstep ?_
    · intro hcapture
      rw [hdirection] at hcapture
      cases hcapture
    · exact Layer.does_recordPlanar (m := m.advanced n ring) hgrants.setup hflat

/-- The tee records what the read has put at the start of the buffer. -/
theorem outcome_readInterleaved (buffer : Bytes) (frames : Nat) :
    (⟨(m.readInterleaved buffer frames).1,
      Layer.recordInterleaved (m.readInterleaved buffer frames).2⟩ :
      Transfer MemoryDevice μ η).Outcome m := by
  obtain ⟨hrefuses, -⟩ | ⟨s, n, hdirection, hgrants, hsize, hstep⟩ :=
    readInterleaved_cases h buffer frames
  · exact .refused hrefuses
  · obtain ⟨layout, hlaid⟩ := h.laid s hgrants.setup
    have hback := Bytes.extract_blit (m.mapped.streamBytes s m.applPtr n) buffer
      (by rwa [size_streamBytes])
    have hlong := Bytes.size_blit (m.mapped.streamBytes s m.applPtr n) 0 buffer 0
      (n * s.geometry.frameBytes)
    rw [size_streamBytes] at hback
    rw [hstep]
    refine .forth s n m.ring (m.mapped.streamBytes s m.applPtr n) hgrants.setup hgrants.le_avail
      (size_streamBytes _ _) (stored_self _ _) (fun _ => rfl) rfl ?_
    have hdoes := Layer.does_recordInterleaved (μ := μ) (η := η) (m := m.advanced n m.ring)
      hgrants.setup hlaid.supported (h.le_bufferSize hgrants)
      (Nat.le_trans hsize (Nat.le_of_eq hlong.symm))
    rw [hback] at hdoes
    exact hdoes

/-- The tee records the frames that the read has taken apart, put together again. -/
theorem outcome_readPlanar (buffers : Array Bytes) (frames : Nat) :
    (⟨(m.readPlanar buffers frames).1, Layer.recordPlanar (m.readPlanar buffers frames).2⟩ :
      Transfer MemoryDevice μ η).Outcome m := by
  obtain ⟨hrefuses, -⟩ | ⟨s, n, hdirection, hgrants, hcount, hsize, hstep⟩ :=
    readPlanar_cases h buffers frames
  · exact .refused hrefuses
  · obtain ⟨layout, hlaid⟩ := h.laid s hgrants.setup
    have hfits := h.bytes_le_maxSize hgrants
    rw [hstep]
    refine .forth s n m.ring (m.mapped.streamBytes s m.applPtr n) hgrants.setup hgrants.le_avail
      (size_streamBytes _ _) (stored_self _ _) (fun _ => rfl) rfl ?_
    exact Layer.does_recordPlanar (m := m.advanced n m.ring) hgrants.setup
      (copyInterleaved_spread hcount hlaid.supported.channels_pos hsize hfits
        (size_streamBytes _ _))

theorem outcome_commit (frames : Nat) :
    (⟨m.commit frames, Layer.recordCommit m.applPtr⟩ : Transfer MemoryDevice μ η).Outcome m := by
  obtain hrefuses | ⟨s, n, hgrants, hstep⟩ := m.commit_cases frames
  · exact .refused hrefuses
  · obtain ⟨layout, hlaid⟩ := h.laid s hgrants.setup
    refine .forth s n m.ring (m.mapped.streamBytes s m.applPtr n) hgrants.setup hgrants.le_avail
      (size_streamBytes _ _) (stored_self _ _) (fun _ => rfl) hstep ?_
    exact Layer.does_recordCommit (m := m.advanced n m.ring) hgrants.setup hlaid m.applPtr

theorem outcome_rewind (frames : Nat) :
    (⟨m.rewind frames, Layer.recordRewind⟩ : Transfer MemoryDevice μ η).Outcome m := by
  obtain hrefuses | ⟨s, n, hsetup, hn, hstep⟩ := m.rewind_cases frames
  · exact .refused hrefuses
  · obtain ⟨layout, hlaid⟩ := h.laid s hsetup
    have hle := rewindable_le_bufferSize (h.window s hsetup)
    refine .back s n hsetup hn hstep ?_
    exact Layer.does_recordRewind (m := { m with applPtr := m.applPtr - n }) hsetup
      hlaid.supported (Nat.le_trans hn hle)

/-- Every transfer of a memory device has an outcome. -/
theorem transfer_outcome {action : Action} {transfer : Transfer MemoryDevice μ η}
    (htransfer : action.transfer? μ η m = some transfer) : transfer.Outcome m := by
  cases action with
  | poke address value => cases htransfer
  | ask request =>
      cases request with
      | writeInterleaved buffer frames =>
          cases htransfer
          exact outcome_writeInterleaved h buffer frames
      | writePlanar buffers frames =>
          cases htransfer
          exact outcome_writePlanar h buffers frames
      | readInterleaved buffer frames =>
          cases htransfer
          exact outcome_readInterleaved h buffer frames
      | readPlanar buffers frames =>
          cases htransfer
          exact outcome_readPlanar h buffers frames
      | commit frames =>
          cases htransfer
          exact outcome_commit h frames
      | rewind frames =>
          cases htransfer
          exact outcome_rewind h frames
      | _ => cases htransfer

end Outcome

/-- Frames that have moved and were in the ring before are written by a tee. -/
theorem Transfer.Outcome.does_append {transfer : Transfer MemoryDevice μ η} {n : Nat}
    (h : transfer.Outcome m) (hsetup : m.setup = some s) (hn : 0 < n)
    (hmoved : transfer.step = .ok n (m.advanced n m.ring)) :
    (transfer.recording (m.advanced n m.ring) n).Does
      (·.append (m.mapped.streamBytes s m.applPtr n)) := by
  cases h with
  | refused hrefuses => exact absurd (congrArg DeviceStep.result hmoved) hrefuses.result_ne_ok
  | forth s' n' ring bytes hsetup' _ hsize hstored _ hstep hdoes =>
      obtain rfl := Option.some.inj (hsetup.symm.trans hsetup')
      have hsame := hmoved.symm.trans hstep
      obtain rfl : n = n' := Except.ok.inj (congrArg DeviceStep.result hsame)
      obtain rfl : m.ring = ring := congrArg (fun step => step.device.ring) hsame
      rwa [← hstored.streamBytes_inside hsize] at hdoes
  | back s' n' _ _ hstep hdoes =>
      have hsame := hmoved.symm.trans hstep
      have happl : m.applPtr + n = m.applPtr - n' :=
        congrArg (fun step => step.device.applPtr) hsame
      omega

/-- Frames that a memory device has moved are recorded, or the sink failed. -/
theorem Transfer.Outcome.isSinkFailure {transfer : Transfer MemoryDevice μ η} {n : Nat}
    {layer : Layer η} {w : World μ} {e : StreamError} (h : transfer.Outcome m)
    (hstep : transfer.step.result = .ok n)
    (herror : (transfer.recording transfer.step.device n layer w).1 = .error e) :
    e.isSinkFailure = true := by
  cases h with
  | refused hrefuses =>
      obtain ⟨e', state, fault, hfail, -⟩ := hrefuses
      rw [hfail] at hstep
      cases hstep
  | forth s n' ring bytes _ _ _ _ _ hmoved hdoes =>
      rw [hmoved] at hstep herror
      obtain rfl := Except.ok.inj hstep
      exact hdoes.isSinkFailure herror
  | back s n' _ _ hmoved hdoes =>
      rw [hmoved] at hstep herror
      obtain rfl := Except.ok.inj hstep
      exact hdoes.isSinkFailure herror

end FrameTee
