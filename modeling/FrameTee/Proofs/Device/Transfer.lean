import FrameTee.Device.Memory
import FrameTee.Proofs.Area.Planar
import FrameTee.Proofs.Device.Frames

/-!
# Granting a transfer

A transfer of a memory device is refused or granted, and a granted one moves as many frames as can
be moved (`MemoryDevice.Grants`). What is needed of the device for that, and kept by it, is that its
ring is laid out for its setup and that its positions are at most a ring apart
(`MemoryDevice.Intact`).
-/

namespace FrameTee

/-- The positions of a stream are at most one ring apart, the one that leads in front. -/
def Direction.Window (direction : Direction) (applPtr hwPtr bufferSize : Nat) : Prop :=
  match direction with
  | .playback => hwPtr ≤ applPtr ∧ applPtr ≤ hwPtr + bufferSize
  | .capture => applPtr ≤ hwPtr ∧ hwPtr ≤ applPtr + bufferSize

namespace Direction

variable {applPtr hwPtr bufferSize : Nat}

@[simp] theorem window_playback : Direction.playback.Window applPtr hwPtr bufferSize ↔
    hwPtr ≤ applPtr ∧ applPtr ≤ hwPtr + bufferSize :=
  Iff.rfl

@[simp] theorem window_capture : Direction.capture.Window applPtr hwPtr bufferSize ↔
    applPtr ≤ hwPtr ∧ hwPtr ≤ applPtr + bufferSize :=
  Iff.rfl

end Direction

namespace MemoryDevice

open MappedRing

variable {m : MemoryDevice} {s : StreamSetup} {frames n : Nat}

/-- There is a setup unless the device has just been opened, the ring is laid out for it, and the
positions are at most one ring apart. -/
structure Intact (m : MemoryDevice) : Prop where
  /-- Only a device that has just been opened is without a setup. -/
  opened_iff : m.setup = none ↔ m.state = .opened
  /-- The ring is laid out for the setup. -/
  laid : ∀ s, m.setup = some s → ∃ layout, m.mapped.Laid layout s
  /-- The positions are at most one ring apart. -/
  window : ∀ s, m.setup = some s → m.direction.Window m.applPtr m.hwPtr s.bufferSize

/-- The states in which frames can be transferred. -/
def Ready (m : MemoryDevice) : Prop :=
  m.state = .prepared ∨ m.state = .running

/-- The device after a transfer of `n` frames was granted. -/
def granted (m : MemoryDevice) (n : Nat) : MemoryDevice :=
  { m with state := if 0 < n then .running else m.state }

/-- The device after `n` frames were moved, with the ring as this left it. -/
def advanced (m : MemoryDevice) (n : Nat) (ring : Memory) : MemoryDevice :=
  { m.granted n with ring, applPtr := m.applPtr + n }

/-- The device after `n` frames were taken back. -/
def rewound (m : MemoryDevice) (n : Nat) : MemoryDevice :=
  { m with applPtr := m.applPtr - n }

/-- The first frame that the ring holds for the application: the oldest one that is pending, or the
oldest one that was recorded and has not been overwritten. -/
def firstHeld (m : MemoryDevice) (s : StreamSetup) : Nat :=
  match m.direction with
  | .playback => m.hwPtr
  | .capture => m.hwPtr - s.bufferSize

/-- The frame behind the last one that the ring holds for the application. -/
def endHeld (m : MemoryDevice) : Nat :=
  match m.direction with
  | .playback => m.applPtr
  | .capture => m.hwPtr

/-- A transfer of up to `frames` frames may move `n` frames. -/
structure Grants (m : MemoryDevice) (s : StreamSetup) (frames n : Nat) : Prop where
  /-- Parameters are set. -/
  setup : m.setup = some s
  /-- The stream is ready. -/
  ready : m.Ready
  /-- As many frames as can be moved are granted. -/
  eq_movable : n = m.movable s frames

/-- Nothing stands in the way of a transfer but the number of frames that are available. -/
structure Unhindered (m : MemoryDevice) (s : StreamSetup) : Prop where
  /-- Parameters are set. -/
  setup : m.setup = some s
  /-- The stream is ready. -/
  ready : m.Ready
  /-- No error is planted. -/
  fault : m.fault = none
  /-- There is no limit to a transfer. -/
  transferLimit : m.transferLimit = none

/-- An operation failed and moved nothing. -/
def Refuses {α : Type} (m : MemoryDevice) (step : DeviceStep MemoryDevice α) : Prop :=
  ∃ e state fault, step = .fail e { m with state, fault } ∧
    (state = m.state ∨ m.Ready ∧ state = .running)

theorem Refuses.fail {α : Type} (m : MemoryDevice) (e : StreamError) (fault : Option StreamError) :
    m.Refuses (DeviceStep.fail e { m with fault } : DeviceStep MemoryDevice α) :=
  ⟨e, m.state, fault, rfl, .inl rfl⟩

theorem Refuses.result_ne_ok {α : Type} {step : DeviceStep MemoryDevice α} (h : m.Refuses step)
    {value : α} : step.result ≠ .ok value := by
  obtain ⟨e, state, fault, rfl, -⟩ := h
  exact nofun

theorem movable_le_frames : m.movable s frames ≤ frames := by
  simp only [movable]
  split <;> omega

theorem movable_le_avail : m.movable s frames ≤ m.avail s := by
  simp only [movable]
  split <;> omega

namespace Grants

theorem le_frames (h : m.Grants s frames n) : n ≤ frames := by
  rw [h.eq_movable]
  exact movable_le_frames

theorem le_avail (h : m.Grants s frames n) : n ≤ m.avail s := by
  rw [h.eq_movable]
  exact movable_le_avail

end Grants

section Direction

theorem avail_of_playback (h : m.direction = .playback) :
    m.avail s = s.bufferSize - (m.applPtr - m.hwPtr) := by
  simp only [avail, pending, h]

theorem avail_of_capture (h : m.direction = .capture) : m.avail s = m.hwPtr - m.applPtr := by
  simp only [avail, captured, h]

theorem rewindable_of_playback (h : m.direction = .playback) :
    m.rewindable s = m.applPtr - m.hwPtr := by
  simp only [rewindable, pending, h]

theorem rewindable_of_capture (h : m.direction = .capture) :
    m.rewindable s = m.applPtr - (m.hwPtr - s.bufferSize) := by
  simp only [rewindable, h]

theorem firstHeld_of_playback (h : m.direction = .playback) : m.firstHeld s = m.hwPtr := by
  simp only [firstHeld, h]

theorem firstHeld_of_capture (h : m.direction = .capture) :
    m.firstHeld s = m.hwPtr - s.bufferSize := by
  simp only [firstHeld, h]

theorem endHeld_of_playback (h : m.direction = .playback) : m.endHeld = m.applPtr := by
  simp only [endHeld, h]

theorem endHeld_of_capture (h : m.direction = .capture) : m.endHeld = m.hwPtr := by
  simp only [endHeld, h]

/-- The frames that can be taken back are those that the ring still holds. -/
theorem rewindable_eq (m : MemoryDevice) (s : StreamSetup) :
    m.rewindable s = m.applPtr - m.firstHeld s := by
  cases h : m.direction with
  | playback => rw [rewindable_of_playback h, firstHeld_of_playback h]
  | capture => rw [rewindable_of_capture h, firstHeld_of_capture h]

end Direction

section Window

variable (hwindow : m.direction.Window m.applPtr m.hwPtr s.bufferSize)
include hwindow

theorem avail_le_bufferSize : m.avail s ≤ s.bufferSize := by
  cases hdirection : m.direction with
  | playback =>
      rw [avail_of_playback hdirection]
      exact Nat.sub_le _ _
  | capture =>
      rw [hdirection, Direction.window_capture] at hwindow
      rw [avail_of_capture hdirection]
      omega

/-- The free room of a recorder does not fall below zero. -/
theorem captured_le_bufferSize (hdirection : m.direction = .capture) :
    m.captured ≤ s.bufferSize := by
  have havail : m.captured = m.avail s := (avail_of_capture hdirection).symm
  rw [havail]
  exact avail_le_bufferSize hwindow

theorem rewindable_le_bufferSize : m.rewindable s ≤ s.bufferSize := by
  cases hdirection : m.direction with
  | playback =>
      rw [hdirection, Direction.window_playback] at hwindow
      rw [rewindable_of_playback hdirection]
      omega
  | capture =>
      rw [hdirection, Direction.window_capture] at hwindow
      rw [rewindable_of_capture hdirection]
      omega

/-- Moving on by frames that are available keeps the positions a ring apart. -/
theorem window_forward (hn : n ≤ m.avail s) :
    m.direction.Window (m.applPtr + n) m.hwPtr s.bufferSize := by
  cases hdirection : m.direction with
  | playback =>
      rw [hdirection, Direction.window_playback] at hwindow
      rw [avail_of_playback hdirection] at hn
      rw [Direction.window_playback]
      omega
  | capture =>
      rw [hdirection, Direction.window_capture] at hwindow
      rw [avail_of_capture hdirection] at hn
      rw [Direction.window_capture]
      omega

/-- Moving back by frames that can be taken back keeps the positions a ring apart. -/
theorem window_back (hn : n ≤ m.rewindable s) :
    n ≤ m.applPtr ∧ m.direction.Window (m.applPtr - n) m.hwPtr s.bufferSize := by
  cases hdirection : m.direction with
  | playback =>
      rw [hdirection, Direction.window_playback] at hwindow
      rw [rewindable_of_playback hdirection] at hn
      rw [Direction.window_playback]
      omega
  | capture =>
      rw [hdirection, Direction.window_capture] at hwindow
      rw [rewindable_of_capture hdirection] at hn
      rw [Direction.window_capture]
      omega

/-- Frames that were taken back are available, besides those that were. -/
theorem avail_rewound (hn : n ≤ m.rewindable s) : (m.rewound n).avail s = m.avail s + n := by
  cases hdirection : m.direction with
  | playback =>
      rw [hdirection, Direction.window_playback] at hwindow
      rw [rewindable_of_playback hdirection] at hn
      rw [avail_of_playback hdirection, avail_of_playback (m := m.rewound n) hdirection]
      change s.bufferSize - (m.applPtr - n - m.hwPtr) = _
      omega
  | capture =>
      rw [hdirection, Direction.window_capture] at hwindow
      rw [rewindable_of_capture hdirection] at hn
      rw [avail_of_capture hdirection, avail_of_capture (m := m.rewound n) hdirection]
      change m.hwPtr - (m.applPtr - n) = _
      omega

theorem le_avail_rewound (hn : n ≤ m.rewindable s) : n ≤ (m.rewound n).avail s := by
  rw [avail_rewound hwindow hn]
  exact Nat.le_add_left _ _

/-- The application is among the frames that the ring holds, or right behind them. -/
theorem applPtr_le_endHeld : m.applPtr ≤ m.endHeld := by
  cases hdirection : m.direction with
  | playback => exact Nat.le_of_eq (endHeld_of_playback hdirection).symm
  | capture =>
      rw [hdirection, Direction.window_capture] at hwindow
      rw [endHeld_of_capture hdirection]
      exact hwindow.1

/-- Moving on by frames that are available stays within a ring of the frames that are held. -/
theorem le_firstHeld_add (hn : n ≤ m.avail s) : m.applPtr + n ≤ m.firstHeld s + s.bufferSize := by
  cases hdirection : m.direction with
  | playback =>
      rw [hdirection, Direction.window_playback] at hwindow
      rw [avail_of_playback hdirection] at hn
      rw [firstHeld_of_playback hdirection]
      omega
  | capture =>
      rw [hdirection, Direction.window_capture] at hwindow
      rw [avail_of_capture hdirection] at hn
      rw [firstHeld_of_capture hdirection]
      omega

/-- Playing pending frames keeps the positions a ring apart. -/
theorem window_play (hdirection : m.direction = .playback) (hn : n ≤ m.pending) :
    m.direction.Window m.applPtr (m.hwPtr + n) s.bufferSize := by
  have hn' : n ≤ m.applPtr - m.hwPtr := hn
  rw [hdirection, Direction.window_playback] at hwindow ⊢
  omega

/-- Recording frames that have room keeps the positions a ring apart. -/
theorem window_record (hdirection : m.direction = .capture) (hn : n ≤ s.bufferSize - m.captured) :
    m.direction.Window m.applPtr (m.hwPtr + n) s.bufferSize := by
  have hn' : n ≤ s.bufferSize - (m.hwPtr - m.applPtr) := hn
  rw [hdirection, Direction.window_capture] at hwindow ⊢
  omega

end Window

/-- A planted error strikes before anything else. -/
theorem beginTransfer_of_fault {planted : StreamError} (h : m.fault = some planted) (op : String)
    (frames : Nat) : m.beginTransfer op frames = (.error planted, { m with fault := none }) := by
  rw [beginTransfer, h]

/-- A transfer that no planted error strikes is refused and changes nothing, or it is granted. -/
theorem beginTransfer_of_no_fault (h : m.fault = none) (op : String) (frames : Nat) :
    (∃ e, m.beginTransfer op frames = (.error e, m)) ∨
      ∃ s n, m.Grants s frames n ∧ m.beginTransfer op frames = (.ok n, m.granted n) := by
  rw [beginTransfer]
  split
  · rename_i hfault
    exact absurd (h.symm.trans hfault) nofun
  · split
    · exact .inl ⟨_, rfl⟩
    · rename_i s hsetup
      -- Only in the two states in which the stream is ready is anything left to be decided.
      split <;> try exact .inl ⟨_, rfl⟩
      all_goals
        rename_i hstate
        have hready : m.Ready := by simp [Ready, hstate]
        dsimp only
        split
        · exact .inl ⟨_, rfl⟩
        · refine .inr ⟨s, _, ⟨hsetup, hready, rfl⟩, ?_⟩
          simp only [granted]
          split <;> rfl

/-- A transfer is refused or granted. -/
theorem beginTransfer_cases (m : MemoryDevice) (op : String) (frames : Nat) :
    (∃ e fault, m.beginTransfer op frames = (.error e, { m with fault })) ∨
      ∃ s n, m.Grants s frames n ∧ m.beginTransfer op frames = (.ok n, m.granted n) := by
  cases hfault : m.fault with
  | some planted => exact .inl ⟨planted, none, beginTransfer_of_fault hfault op frames⟩
  | none =>
      obtain ⟨e, hbegin⟩ | hgranted := beginTransfer_of_no_fault hfault op frames
      · exact .inl ⟨e, m.fault, hbegin⟩
      · exact .inr hgranted

/-- A transfer of a ready stream is granted, unless it would have to wait. -/
theorem beginTransfer_eq_ok (hfault : m.fault = none) (hsetup : m.setup = some s)
    (hready : m.Ready)
    (hmoves : ¬ (m.movable s frames = 0 ∧ 0 < frames ∧ m.nonblocking = true)) (op : String) :
    m.beginTransfer op frames = (.ok (m.movable s frames), m.granted (m.movable s frames)) := by
  rw [beginTransfer]
  split
  · rename_i hplanted
    exact absurd (hfault.symm.trans hplanted) nofun
  · split
    · rename_i hnone
      exact absurd (hsetup.symm.trans hnone) nofun
    · rename_i s' hsetup'
      obtain rfl := Option.some.inj (hsetup.symm.trans hsetup')
      obtain hstate | hstate := hready
      all_goals
        rw [hstate]
        dsimp only
        rw [if_neg hmoves]
        simp only [granted]
        split <;> rfl

/-- A transfer that nothing hinders is granted the frames it asks for, if they are available. -/
theorem Unhindered.beginTransfer_eq_ok (h : m.Unhindered s) (hn : n ≤ m.avail s) (op : String) :
    m.beginTransfer op n = (.ok n, m.granted n) := by
  have hall : m.movable s n = n := by
    rw [movable, h.transferLimit]
    exact Nat.min_eq_left hn
  have hmoves : ¬ (m.movable s n = 0 ∧ 0 < n ∧ m.nonblocking = true) := by omega
  have hbegin := MemoryDevice.beginTransfer_eq_ok h.fault h.setup h.ready hmoves op
  rwa [hall] at hbegin

/-- Moving on by the frames that were taken back gives the device back. -/
theorem advanced_rewound (hle : n ≤ m.applPtr) (hstate : 0 < n → m.state = .running) :
    (m.rewound n).advanced n m.ring = m := by
  have happl : m.applPtr - n + n = m.applPtr := Nat.sub_add_cancel hle
  have hsame : (if 0 < n then .running else m.state) = m.state := by
    split
    · rename_i hn
      exact (hstate hn).symm
    · rfl
  simp only [advanced, granted, rewound, happl, hsame]

section Checks

variable {available count : Nat}

/-- A buffer that passes its check holds the frames, and their bytes are a count. -/
theorem bytes_of_checkBuffer
    (h : (byteLength s frames >>= (checkBuffer · available)) = .ok ()) :
    frames * s.geometry.frameBytes < Count.limit ∧
      frames * s.geometry.frameBytes ≤ available := by
  cases hlength : byteLength s frames with
  | error e =>
      rw [hlength] at h
      cases h
  | ok needed =>
      have hneeded : frames * s.geometry.frameBytes = needed ∧ needed < Count.limit := by
        simp only [byteLength] at hlength
        split at hlength
        · rename_i bytes hbytes
          cases hlength
          exact Count.mul?_eq_some_iff.mp hbytes
        · cases hlength
      rw [hlength] at h
      change checkBuffer needed available = .ok () at h
      simp only [checkBuffer] at h
      split at h
      · cases h
      · omega

theorem count_eq_of_checkCount (h : checkCount s count = .ok ()) :
    count = s.geometry.channelCount := by
  simp only [checkCount] at h
  split at h
  · cases h
  · rename_i heq
    exact Decidable.not_not.mp heq

theorem le_of_forM_checkBuffer {needed : Nat} {buffers : List Bytes}
    (h : buffers.forM (fun buffer => checkBuffer needed buffer.size) = .ok ()) {buffer : Bytes}
    (hmem : buffer ∈ buffers) : needed ≤ buffer.size := by
  induction buffers with
  | nil => cases hmem
  | cons first rest ih =>
      change (checkBuffer needed first.size >>= fun _ =>
        rest.forM fun buffer => checkBuffer needed buffer.size) = .ok () at h
      simp only [checkBuffer] at h
      split at h
      · cases h
      · obtain rfl | hrest := List.mem_cons.mp hmem
        · omega
        · exact ih h hrest

/-- The buffers that a planar read takes are one per channel, each long enough, and the bytes of
the samples of a channel are a count. -/
theorem buffers_of_checkPlanar {buffers : Array Bytes} (h : checkPlanar s buffers frames = .ok ()) :
    buffers.size = s.geometry.channelCount ∧ frames * s.geometry.sampleBytes < Count.limit ∧
      ∀ (c : Nat) (buffer : Bytes), buffers[c]? = some buffer →
        frames * s.geometry.sampleBytes ≤ buffer.size := by
  simp only [checkPlanar] at h
  cases hcount : checkCount s buffers.size with
  | error e =>
      rw [hcount] at h
      cases h
  | ok _ =>
      rw [hcount] at h
      refine ⟨count_eq_of_checkCount hcount, ?_⟩
      simp only [sampleLength] at h
      split at h
      · rename_i needed hneeded
        obtain ⟨rfl, hlt⟩ := Count.mul?_eq_some_iff.mp hneeded
        refine ⟨hlt, ?_⟩
        intro c buffer hbuffer
        apply le_of_forM_checkBuffer h
        exact Array.mem_toList_iff.mpr (Array.mem_of_getElem? hbuffer)
      · cases h

end Checks

end MemoryDevice

end FrameTee
