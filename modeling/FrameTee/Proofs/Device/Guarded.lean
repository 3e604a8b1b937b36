import FrameTee.Proofs.Device.Operations

/-!
# Guarded transfers

The reads and writes of a memory device go alike: the buffers are checked, the transfer is opened,
and then the frames that were granted are moved. `MemoryDevice.guarded` is that pattern, and
`MemoryDevice.Passage` all that can come of it.
-/

namespace FrameTee.MemoryDevice

variable {m : MemoryDevice} {s : StreamSetup} {frames n : Nat} {α ρ : Type}

/-- A transfer that is checked, then opened, and then moves the frames that it was granted. -/
def guarded (m : MemoryDevice) (check : Except StreamError α) (op : String) (frames : Nat)
    (move : α → Nat → MemoryDevice → DeviceStep MemoryDevice Nat) : DeviceStep MemoryDevice Nat :=
  match check with
  | .error e => .fail e m
  | .ok a =>
    match m.beginTransfer op frames with
    | (.error e, m) => .fail e m
    | (.ok n, m) => move a n m

/-- A guarded transfer that comes to more than a step of the device, such as a read with its
buffers. -/
def attempt (m : MemoryDevice) (check : Except StreamError α) (op : String) (frames : Nat)
    (refuse : StreamError → MemoryDevice → ρ) (move : α → Nat → MemoryDevice → ρ) : ρ :=
  match check with
  | .error e => refuse e m
  | .ok a =>
    match m.beginTransfer op frames with
    | (.error e, m) => refuse e m
    | (.ok n, m) => move a n m

theorem guarded_eq_attempt (m : MemoryDevice) (check : Except StreamError α) (op : String)
    (frames : Nat) (move : α → Nat → MemoryDevice → DeviceStep MemoryDevice Nat) :
    m.guarded check op frames move = m.attempt check op frames .fail move :=
  rfl

/-- The step of a read is a guarded transfer, whatever is put in the buffers. -/
theorem attempt_fst {β : Type} (m : MemoryDevice) (check : Except StreamError α) (op : String)
    (frames : Nat) (buffers : β)
    (move : α → Nat → MemoryDevice → DeviceStep MemoryDevice Nat × β) :
    (m.attempt check op frames (fun e m => (.fail e m, buffers)) move).1 =
      m.guarded check op frames fun a n m => (move a n m).1 := by
  cases check with
  | error e => rfl
  | ok a =>
      rw [attempt, guarded]
      rcases m.beginTransfer op frames with ⟨e | n, m'⟩ <;> rfl

/-- What can come of a guarded transfer: it does not pass its check, a planted error strikes, it is
refused, or it is granted. -/
inductive Passage (m : MemoryDevice) (check : Except StreamError α) (frames : Nat)
    (move : α → Nat → MemoryDevice → DeviceStep MemoryDevice Nat) :
    DeviceStep MemoryDevice Nat → Prop where
  | unchecked {e : StreamError} (hcheck : check = .error e) :
      Passage m check frames move (.fail e m)
  | struck {a : α} {planted : StreamError} (hcheck : check = .ok a)
      (hfault : m.fault = some planted) :
      Passage m check frames move (.fail planted { m with fault := none })
  | refused {a : α} {e : StreamError} (hcheck : check = .ok a) (hfault : m.fault = none) :
      Passage m check frames move (.fail e m)
  | granted {a : α} {s : StreamSetup} {n : Nat} (hcheck : check = .ok a) (hfault : m.fault = none)
      (hgrants : m.Grants s frames n) : Passage m check frames move (move a n (m.granted n))

theorem passage_guarded (m : MemoryDevice) (check : Except StreamError α) (op : String)
    (frames : Nat) (move : α → Nat → MemoryDevice → DeviceStep MemoryDevice Nat) :
    m.Passage check frames move (m.guarded check op frames move) := by
  cases hcheck : check with
  | error e => exact .unchecked rfl
  | ok a =>
      cases hfault : m.fault with
      | some planted =>
          rw [guarded, beginTransfer_of_fault hfault]
          exact .struck rfl hfault
      | none =>
          obtain ⟨e, hbegin⟩ | ⟨s, n, hgrants, hbegin⟩ :=
            beginTransfer_of_no_fault hfault op frames
          · rw [guarded, hbegin]
            exact .refused rfl hfault
          · rw [guarded, hbegin]
            exact .granted rfl hfault hgrants

/-- The setup, if the stream flows the right way and the setup passes a check. -/
def vet (m : MemoryDevice) (direction : Direction) (op : String)
    (check : StreamSetup → Except StreamError Unit) : Except StreamError StreamSetup :=
  match m.setup with
  | some s => if m.direction = direction then (check s).map fun _ => s else .error (m.badState op)
  | none => .error (m.badState op)

/-- Takes `n` frames at the application position and moves the position on. -/
def loadNext (m : MemoryDevice) (s : StreamSetup) (n : Nat) : DeviceStep MemoryDevice Nat :=
  match m.loadAt s m.applPtr n with
  | .error e => .fail e m
  | .ok _ => .ok n { m with applPtr := m.applPtr + n }

/-- Puts `n` frames of one buffer per channel at the application position and moves the position
on. -/
def storePlanar (m : MemoryDevice) (s : StreamSetup) (buffers : Array Bytes) (n : Nat) :
    DeviceStep MemoryDevice Nat :=
  match (ChannelAreas.planar buffers s.geometry).copyInterleaved s.geometry 0 n with
  | .error e => .fail (.area e) m
  | .ok flat => m.storeNext s flat n

theorem vet_eq_ok {direction : Direction} {check : StreamSetup → Except StreamError Unit}
    (hdirection : m.direction = direction) (hsetup : m.setup = some s) (hcheck : check s = .ok ())
    (op : String) : m.vet direction op check = .ok s := by
  rw [vet, hsetup]
  dsimp only
  rw [if_pos hdirection, hcheck]
  rfl

theorem of_vet_eq_ok {direction : Direction} {op : String}
    {check : StreamSetup → Except StreamError Unit} (h : m.vet direction op check = .ok s) :
    m.direction = direction ∧ m.setup = some s ∧ check s = .ok () := by
  rw [vet] at h
  split at h
  · rename_i s' hsetup
    split at h
    · rename_i hdirection
      cases hcheck : check s' with
      | error e =>
          rw [hcheck] at h
          cases h
      | ok _ =>
          rw [hcheck] at h
          obtain rfl := Except.ok.inj h
          exact ⟨hdirection, hsetup, hcheck⟩
    · cases h
  · cases h

/-- A transfer that was vetted and granted flows the right way, passes its check and was granted for
the setup that it was vetted for. -/
theorem Grants.vetted {s' : StreamSetup} (hgrants : m.Grants s' frames n) {direction : Direction}
    {op : String} {check : StreamSetup → Except StreamError Unit}
    (hvet : m.vet direction op check = .ok s) :
    m.direction = direction ∧ check s = .ok () ∧ m.Grants s frames n := by
  obtain ⟨hdirection, hsetup, hcheck⟩ := of_vet_eq_ok hvet
  obtain rfl := Option.some.inj (hsetup.symm.trans hgrants.setup)
  exact ⟨hdirection, hcheck, hgrants⟩

/-- A vetted transfer that moves frames flows the right way, passes its check and is granted. -/
theorem of_guarded_vet_eq_ok {direction : Direction} {op op' : String}
    {check : StreamSetup → Except StreamError Unit}
    {move : StreamSetup → Nat → MemoryDevice → DeviceStep MemoryDevice Nat}
    (hsetup : m.setup = some s) {k : Nat}
    (hok : (m.guarded (m.vet direction op check) op' frames move).result = .ok k) :
    m.direction = direction ∧ check s = .ok () ∧
      ∃ n, m.Grants s frames n ∧ (move s n (m.granted n)).result = .ok k := by
  have hpassage := m.passage_guarded (m.vet direction op check) op' frames move
  generalize m.guarded (m.vet direction op check) op' frames move = step at hpassage hok
  cases hpassage with
  | unchecked | struck | refused => cases hok
  | @granted s' s'' n hvet hfault hgrants =>
      obtain ⟨hdirection, hsetup', hcheck⟩ := of_vet_eq_ok hvet
      obtain rfl := Option.some.inj (hsetup.symm.trans hsetup')
      obtain rfl := Option.some.inj (hsetup.symm.trans hgrants.setup)
      exact ⟨hdirection, hcheck, n, hgrants, hok⟩

/-- Frames that were granted can always be read. -/
theorem loadNext_granted (h : m.Intact) (hsetup : m.setup = some s) (n : Nat) :
    ((m.granted n).loadNext s n).result = .ok n := by
  obtain ⟨layout, hlaid⟩ := h.laid s hsetup
  rw [loadNext, loadAt_eq_ok (m := m.granted n) hlaid]
  rfl

/-- Frames that were granted can always be written, if the buffer holds the frames asked for. -/
theorem storeNext_extract_granted (h : m.Intact) (hgrants : m.Grants s frames n) {buffer : Bytes}
    (hlong : frames * s.geometry.frameBytes ≤ buffer.size) :
    ((m.granted n).storeNext s (buffer.extract 0 (n * s.geometry.frameBytes)) n).result =
      .ok n := by
  obtain ⟨ring, hring, -⟩ := storeNext_granted h hgrants (hgrants.size_extract hlong).2
  rw [hring]
  rfl

theorem writeInterleaved_eq_guarded (m : MemoryDevice) (buffer : Bytes) (frames : Nat) :
    m.writeInterleaved buffer frames =
      m.guarded
        (m.vet .playback "write" fun s => byteLength s frames >>= (checkBuffer · buffer.size))
        "write" frames
        fun s n m => m.storeNext s (buffer.extract 0 (n * s.geometry.frameBytes)) n := by
  rw [writeInterleaved, vet]
  cases m.setup with
  | none => cases m.direction <;> rfl
  | some s =>
      cases m.direction with
      | capture => rfl
      | playback =>
          dsimp only
          rw [if_pos rfl]
          cases byteLength s frames >>= (checkBuffer · buffer.size) <;> rfl

theorem writePlanar_eq_guarded (m : MemoryDevice) (buffers : Array Bytes) (frames : Nat) :
    m.writePlanar buffers frames =
      m.guarded (m.vet .playback "write" fun s => checkCount s buffers.size) "write" frames
        fun s n m => m.storePlanar s buffers n := by
  rw [writePlanar, vet]
  cases m.setup with
  | none => cases m.direction <;> rfl
  | some s =>
      cases m.direction with
      | capture => rfl
      | playback =>
          dsimp only
          rw [if_pos rfl]
          cases checkCount s buffers.size <;> rfl

theorem readInterleaved_eq_attempt (m : MemoryDevice) (buffer : Bytes) (frames : Nat) :
    m.readInterleaved buffer frames =
      m.attempt
        (m.vet .capture "read" fun s => byteLength s frames >>= (checkBuffer · buffer.size))
        "read" frames (fun e m => (.fail e m, buffer))
        fun s n m =>
          match m.loadAt s m.applPtr n with
          | .error e => (.fail e m, buffer)
          | .ok flat =>
            (.ok n { m with applPtr := m.applPtr + n }, Bytes.blit flat 0 buffer 0 flat.size) := by
  rw [readInterleaved, vet]
  cases m.setup with
  | none => cases m.direction <;> rfl
  | some s =>
      cases m.direction with
      | playback => rfl
      | capture =>
          dsimp only
          rw [if_pos rfl]
          cases byteLength s frames >>= (checkBuffer · buffer.size) <;> rfl

theorem readPlanar_eq_attempt (m : MemoryDevice) (buffers : Array Bytes) (frames : Nat) :
    m.readPlanar buffers frames =
      m.attempt (m.vet .capture "read" fun s => checkPlanar s buffers frames) "read" frames
        (fun e m => (.fail e m, buffers))
        fun s n m =>
          match m.loadAt s m.applPtr n with
          | .error e => (.fail e m, buffers)
          | .ok flat =>
            (.ok n { m with applPtr := m.applPtr + n }, spread s.geometry flat n buffers) := by
  rw [readPlanar, vet]
  cases m.setup with
  | none => cases m.direction <;> rfl
  | some s =>
      cases m.direction with
      | playback => rfl
      | capture =>
          dsimp only
          rw [if_pos rfl]
          cases checkPlanar s buffers frames <;> rfl

theorem readInterleaved_eq_guarded (m : MemoryDevice) (buffer : Bytes) (frames : Nat) :
    (m.readInterleaved buffer frames).1 =
      m.guarded
        (m.vet .capture "read" fun s => byteLength s frames >>= (checkBuffer · buffer.size))
        "read" frames fun s n m => m.loadNext s n := by
  rw [readInterleaved_eq_attempt, attempt_fst]
  congr 1
  funext s n m
  rw [loadNext]
  cases m.loadAt s m.applPtr n <;> rfl

theorem readPlanar_eq_guarded (m : MemoryDevice) (buffers : Array Bytes) (frames : Nat) :
    (m.readPlanar buffers frames).1 =
      m.guarded (m.vet .capture "read" fun s => checkPlanar s buffers frames) "read" frames
        fun s n m => m.loadNext s n := by
  rw [readPlanar_eq_attempt, attempt_fst]
  congr 1
  funext s n m
  rw [loadNext]
  cases m.loadAt s m.applPtr n <;> rfl

theorem commit_eq_guarded (m : MemoryDevice) (frames : Nat) :
    m.commit frames =
      m.guarded (.ok ()) "mmap_commit" frames
        fun _ n m => .ok n { m with applPtr := m.applPtr + n } :=
  rfl

end FrameTee.MemoryDevice
