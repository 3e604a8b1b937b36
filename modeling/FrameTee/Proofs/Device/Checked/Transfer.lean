import FrameTee.Proofs.Device.Checked.Ring
import FrameTee.Proofs.Device.Guarded

/-!
# Checked transfers

All reads, writes and commits of a memory device go one way, with checks (`MemoryDevice.attempt?`)
as without (`MemoryDevice.attempt`). In a device that is intact none of the checks fails, as long as
the positions that the transfer leaves behind are counts (`MemoryDevice.Countable`): the checked
transfer has the outcome of the plain one.
-/

namespace FrameTee.MemoryDevice

open MappedRing

variable {m : MemoryDevice} {s : StreamSetup} {frames n : Nat} {α ρ : Type}

section Checked

variable (m : MemoryDevice)

/-- A transfer that is checked, then opened, and then moves the frames that it was granted. -/
def attempt? (check : Except StreamError α) (op : String) (frames : Nat)
    (refuse : StreamError → MemoryDevice → ρ) (move : α → Nat → MemoryDevice → Option ρ) :
    Option ρ :=
  match check with
  | .error e => some (refuse e m)
  | .ok a => do
    match ← m.beginTransfer? op frames with
    | (.error e, m) => some (refuse e m)
    | (.ok n, m) => move a n m

/-- Writes up to `frames` frames of one interleaved buffer. -/
def writeInterleaved? (buffer : Bytes) (frames : Nat) : Option (DeviceStep MemoryDevice Nat) :=
  m.attempt? (m.vet .playback "write" fun s => byteLength s frames >>= (checkBuffer · buffer.size))
    "write" frames .fail
    fun s n m => do
      match byteLength s n with
      | .error e => some (.fail e m)
      | .ok bytes =>
        let src ← buffer.slice? 0 bytes
        m.storeNext? s src n

/-- Writes up to `frames` frames of one buffer per channel. -/
def writePlanar? (buffers : Array Bytes) (frames : Nat) :
    Option (DeviceStep MemoryDevice Nat) :=
  m.attempt? (m.vet .playback "write" fun s => checkCount s buffers.size) "write" frames .fail
    fun s n m => do
      match ← (ChannelAreas.planar buffers s.geometry).copyInterleaved? s.geometry 0 n with
      | .error e => some (.fail (.area e) m)
      | .ok flat => m.storeNext? s flat n

/-- Reads up to `frames` frames into one interleaved buffer. -/
def readInterleaved? (buffer : Bytes) (frames : Nat) :
    Option (DeviceStep MemoryDevice Nat × Bytes) :=
  m.attempt? (m.vet .capture "read" fun s => byteLength s frames >>= (checkBuffer · buffer.size))
    "read" frames (fun e m => (.fail e m, buffer))
    fun s n m => do
      match ← m.loadAt? s m.applPtr n with
      | .error e => some (.fail e m, buffer)
      | .ok flat =>
        let buffer ← Bytes.replace? flat buffer 0 flat.size
        let applPtr ← Count.add? m.applPtr n
        some (.ok n { m with applPtr }, buffer)

/-- Puts samples of one channel into its buffer, each taken and put as a slice. -/
def spreadChannel? (g : FrameGeometry) (flat : Bytes) (channel : Nat) :
    (frame count : Nat) → Bytes → Option Bytes
  | _, 0, buffer => some buffer
  | frame, count + 1, buffer => do
    let (origin, stop) ← g.sampleRange? frame channel
    let next ← Count.add? frame 1
    let before ← Count.mul? frame g.sampleBytes
    let behind ← Count.mul? next g.sampleBytes
    let sample ← flat.slice? origin stop
    let buffer ← Bytes.replace? sample buffer before behind
    spreadChannel? g flat channel next count buffer

/-- Takes `frames` interleaved frames apart into one buffer per channel. -/
def spread? (g : FrameGeometry) (flat : Bytes) (frames : Nat) (buffers : Array Bytes) :
    Option (Array Bytes) :=
  (buffers.toList.zipIdx.mapM fun (buffer, channel) =>
    spreadChannel? g flat channel 0 frames buffer).map List.toArray

/-- Reads up to `frames` frames into one buffer per channel. -/
def readPlanar? (buffers : Array Bytes) (frames : Nat) :
    Option (DeviceStep MemoryDevice Nat × Array Bytes) :=
  m.attempt? (m.vet .capture "read" fun s => checkPlanar s buffers frames) "read" frames
    (fun e m => (.fail e m, buffers))
    fun s n m => do
      match ← m.loadAt? s m.applPtr n with
      | .error e => some (.fail e m, buffers)
      | .ok flat =>
        let buffers ← spread? s.geometry flat n buffers
        let applPtr ← Count.add? m.applPtr n
        some (.ok n { m with applPtr }, buffers)

/-- Hands over up to `frames` frames of the mapped ring. -/
def commit? (frames : Nat) : Option (DeviceStep MemoryDevice Nat) :=
  m.attempt? (.ok ()) "mmap_commit" frames .fail
    fun _ n m => do
      let applPtr ← Count.add? m.applPtr n
      some (.ok n { m with applPtr })

/-- Takes back up to `frames` frames. -/
def rewind? (frames : Nat) : Option (DeviceStep MemoryDevice Nat) :=
  match m.fault with
  | some error => some (.fail error { m with fault := none })
  | none =>
    match m.setup with
    | none => some (.fail (m.badState "rewind") m)
    | some s =>
      match m.state with
      | .prepared | .running | .paused => do
        let n := m.rewindLimit s frames
        let applPtr ← Count.sub? m.applPtr n
        some (.ok n { m with applPtr })
      | .xrun => some (.fail .xrun m)
      | _ => some (.fail (m.badState "rewind") m)

/-- A snapshot of the device. -/
def status? : Option StreamStatus := do
  let avail ← match m.setup with
    | none => some 0
    | some s => m.avail? s
  some ⟨m.state, m.applPtr, m.hwPtr, avail, m.lag⟩

/-- Tells the frames that can be moved. -/
def availUpdate? : Option (DeviceStep MemoryDevice Nat) :=
  match m.requireSetup "avail_update" with
  | .ok s => (m.avail? s).map fun avail => .ok avail m
  | .error e => some (.fail e m)

end Checked

theorem spreadChannel?_eq_some {g : FrameGeometry} {flat : Bytes} {channel frame count : Nat}
    (hflat : flat.size = frames * g.frameBytes) (hlt : frames * g.frameBytes < Count.limit)
    (hchannel : channel < g.channelCount) (hcount : frame + count = frames) {buffer : Bytes}
    (hlong : frames * g.sampleBytes ≤ buffer.size) :
    spreadChannel? g flat channel frame count buffer =
      some (spreadChannel g flat channel frame count buffer) := by
  induction count generalizing frame buffer with
  | zero => rfl
  | succ count ih =>
      have hframe : frame < frames := by omega
      have hstop := g.sample_le hframe hchannel
      have hsamples : frames * g.sampleBytes ≤ frames * g.frameBytes := by
        rw [g.frameBytes_eq]
        exact Nat.mul_le_mul_left _ (Nat.le_mul_of_pos_left _ (Nat.zero_lt_of_lt hchannel))
      have hframes := Nat.le_mul_of_pos_right frames g.sampleBytes_pos
      have hbehind : (frame + 1) * g.sampleBytes ≤ frames * g.sampleBytes :=
        Nat.mul_le_mul_right _ hframe
      rw [Nat.succ_mul] at hbehind
      have hrange := FrameGeometry.sampleRange?_eq_some hframe hchannel hlt
      have hslice := Bytes.slice?_eq_some (Nat.le_add_right _ g.sampleBytes)
        (Nat.le_trans hstop (Nat.le_of_eq hflat.symm))
      have hreplace := Bytes.replace?_extract (Nat.le_trans hstop (Nat.le_of_eq hflat.symm))
        (Nat.le_trans hbehind hlong)
      have hnext : Count.add? frame 1 = some (frame + 1) := Count.add?_eq_some (by omega)
      have hfirst : Count.mul? frame g.sampleBytes = some (frame * g.sampleBytes) :=
        Count.mul?_eq_some (by omega)
      have hsecond : Count.mul? (frame + 1) g.sampleBytes =
          some (frame * g.sampleBytes + g.sampleBytes) := by
        rw [Count.mul?_eq_some (by rw [Nat.succ_mul]; omega), Nat.succ_mul]
      simp only [spreadChannel?, spreadChannel, hrange, hnext, hfirst, hsecond, hslice, hreplace,
        Option.bind_eq_bind, Option.bind_some]
      exact ih (by omega) (by rwa [Bytes.size_blit])

theorem spread?_eq_some {g : FrameGeometry} {flat : Bytes} {buffers : Array Bytes}
    (hflat : flat.size = frames * g.frameBytes) (hlt : frames * g.frameBytes < Count.limit)
    (hcount : buffers.size = g.channelCount)
    (hlong : ∀ (c : Nat) (buffer : Bytes), buffers[c]? = some buffer →
      frames * g.sampleBytes ≤ buffer.size) :
    spread? g flat frames buffers = some (spread g flat frames buffers) := by
  have hmap : buffers.toList.zipIdx.mapM (fun (buffer, channel) =>
      spreadChannel? g flat channel 0 frames buffer) =
        some (buffers.toList.zipIdx.map fun (buffer, channel) =>
          spreadChannel g flat channel 0 frames buffer) := by
    apply mapM_eq_some
    rintro ⟨buffer, channel⟩ hmem
    rw [List.mem_zipIdx_iff_getElem?, Array.getElem?_toList] at hmem
    have hchannel : channel < g.channelCount := by
      rw [← hcount]
      exact (Array.getElem?_eq_some_iff.mp hmem).1
    exact spreadChannel?_eq_some hflat hlt hchannel (Nat.zero_add frames)
      (hlong channel buffer hmem)
  rw [spread?, hmap, Option.map_some, spread]
  congr 1
  apply Array.toList_inj.mp
  rw [Array.toList_mapIdx, List.mapIdx_eq_zipIdx_map]

section Intact

variable (h : m.Intact)
include h

/-- An attempt has an outcome if the move that follows has. -/
theorem attempt?_eq_some {check : Except StreamError α} {op : String}
    {refuse : StreamError → MemoryDevice → ρ} {move : α → Nat → MemoryDevice → ρ}
    {move? : α → Nat → MemoryDevice → Option ρ}
    (hmove : ∀ a s n, check = .ok a → m.Grants s frames n →
      m.attempt check op frames refuse move = move a n (m.granted n) →
        move? a n (m.granted n) = some (move a n (m.granted n))) :
    m.attempt? check op frames refuse move? = some (m.attempt check op frames refuse move) := by
  cases hcheck : check with
  | error e => rfl
  | ok a =>
      subst hcheck
      dsimp only [attempt?]
      rw [beginTransfer?_eq_some h, Option.bind_eq_bind, Option.bind_some]
      obtain ⟨e, fault, hbegin⟩ | ⟨s, n, hgrants, hbegin⟩ := m.beginTransfer_cases op frames
      · simp only [attempt, hbegin]
      · have hattempt : m.attempt (.ok a) op frames refuse move = move a n (m.granted n) := by
          simp only [attempt, hbegin]
        rw [hattempt, hbegin]
        exact hmove a s n rfl hgrants hattempt

theorem writeInterleaved?_eq_some (buffer : Bytes) (frames : Nat)
    (hcountable : (m.writeInterleaved buffer frames).device.Countable) :
    m.writeInterleaved? buffer frames = some (m.writeInterleaved buffer frames) := by
  rw [writeInterleaved_eq_guarded, guarded_eq_attempt] at hcountable ⊢
  apply attempt?_eq_some h
  intro s s' n hvet hgrants hattempt
  obtain ⟨-, hcheck, hgrants⟩ := hgrants.vetted hvet
  obtain ⟨layout, hlaid⟩ := h.laid s hgrants.setup
  obtain ⟨hsize, hextract⟩ := hgrants.size_extract (bytes_of_checkBuffer hcheck).2
  have hlt : (buffer.extract 0 (n * s.geometry.frameBytes)).size < Count.limit := by
    rw [hextract]
    exact h.bytes_lt hgrants
  rw [hlaid.supported.byteLength_eq (h.le_bufferSize hgrants)]
  dsimp only
  rw [Bytes.slice?_eq_some (Nat.zero_le _) hsize, Option.bind_eq_bind, Option.bind_some]
  apply storeNext?_eq_some hlaid.supported hlt
  rw [← hattempt]
  exact hcountable

theorem writePlanar?_eq_some (buffers : Array Bytes) (frames : Nat)
    (hcountable : (m.writePlanar buffers frames).device.Countable) :
    m.writePlanar? buffers frames = some (m.writePlanar buffers frames) := by
  rw [writePlanar_eq_guarded, guarded_eq_attempt] at hcountable ⊢
  apply attempt?_eq_some h
  intro s s' n hvet hgrants hattempt
  obtain ⟨-, -, hgrants⟩ := hgrants.vetted hvet
  obtain ⟨layout, hlaid⟩ := h.laid s hgrants.setup
  have hroom : (ChannelAreas.planar buffers s.geometry).HasRoom s.geometry n :=
    .of_le (hlaid.supported.bytes_le_maxSize (h.le_bufferSize hgrants))
  rw [storePlanar] at hattempt ⊢
  rw [ChannelAreas.copyInterleaved?_eq_some _ _ _ hroom, Option.bind_eq_bind, Option.bind_some]
  cases hcopy : (ChannelAreas.planar buffers s.geometry).copyInterleaved s.geometry 0 n with
  | error e => rfl
  | ok flat =>
      have hlt : flat.size < Count.limit := by
        rw [ChannelAreas.size_of_copyInterleaved_eq_ok hcopy]
        exact h.bytes_lt hgrants
      rw [hcopy] at hattempt
      apply storeNext?_eq_some hlaid.supported hlt
      have hmoved := congrArg DeviceStep.device hattempt
      dsimp only at hmoved ⊢
      rw [← hmoved]
      exact hcountable

theorem readInterleaved?_eq_some (buffer : Bytes) (frames : Nat)
    (hcountable : (m.readInterleaved buffer frames).1.device.Countable) :
    m.readInterleaved? buffer frames = some (m.readInterleaved buffer frames) := by
  rw [readInterleaved_eq_attempt] at hcountable ⊢
  apply attempt?_eq_some h
  intro s s' n hvet hgrants hattempt
  obtain ⟨-, hcheck, hgrants⟩ := hgrants.vetted hvet
  obtain ⟨layout, hlaid⟩ := h.laid s hgrants.setup
  obtain ⟨hsize, -⟩ := hgrants.size_extract (bytes_of_checkBuffer hcheck).2
  have hload := loadAt_eq_ok (m := m.granted n) hlaid (m.granted n).applPtr n
  rw [hattempt, hload] at hcountable
  have happl : (m.granted n).applPtr + n < Count.limit := hcountable.applPtr
  have hflat : ((m.granted n).mapped.streamBytes s (m.granted n).applPtr n).size ≤ buffer.size := by
    rwa [size_streamBytes]
  have hreplace := Bytes.replace?_eq_some (Nat.zero_le _) hflat (Nat.sub_zero _).symm
  simp only [loadAt?_eq_some hlaid.supported, hload, hreplace, Count.add?_eq_some happl,
    Option.bind_eq_bind, Option.bind_some]

theorem readPlanar?_eq_some (buffers : Array Bytes) (frames : Nat)
    (hcountable : (m.readPlanar buffers frames).1.device.Countable) :
    m.readPlanar? buffers frames = some (m.readPlanar buffers frames) := by
  rw [readPlanar_eq_attempt] at hcountable ⊢
  apply attempt?_eq_some h
  intro s s' n hvet hgrants hattempt
  obtain ⟨-, hcheck, hgrants⟩ := hgrants.vetted hvet
  obtain ⟨layout, hlaid⟩ := h.laid s hgrants.setup
  obtain ⟨hcount, -, hlong⟩ := buffers_of_checkPlanar hcheck
  have hload := loadAt_eq_ok (m := m.granted n) hlaid (m.granted n).applPtr n
  rw [hattempt, hload] at hcountable
  have happl : (m.granted n).applPtr + n < Count.limit := hcountable.applPtr
  have hflat : ((m.granted n).mapped.streamBytes s (m.granted n).applPtr n).size =
      n * s.geometry.frameBytes := size_streamBytes _ _
  have hspread := spread?_eq_some hflat (h.bytes_lt hgrants) hcount fun c buffer hbuffer =>
    Nat.le_trans (Nat.mul_le_mul_right _ hgrants.le_frames) (hlong c buffer hbuffer)
  simp only [loadAt?_eq_some hlaid.supported, hload, hspread, Count.add?_eq_some happl,
    Option.bind_eq_bind, Option.bind_some]

theorem commit?_eq_some (frames : Nat) (hcountable : (m.commit frames).device.Countable) :
    m.commit? frames = some (m.commit frames) := by
  rw [commit_eq_guarded] at hcountable ⊢
  rw [commit?, guarded_eq_attempt]
  apply attempt?_eq_some h
  intro _ s n _ hgrants hattempt
  have happl : (m.granted n).applPtr + n < Count.limit := by
    have hmoved : (m.guarded (.ok ()) "mmap_commit" frames
        fun _ n m => .ok n { m with applPtr := m.applPtr + n }).device =
          { m.granted n with applPtr := (m.granted n).applPtr + n } :=
      congrArg DeviceStep.device hattempt
    rw [hmoved] at hcountable
    exact hcountable.applPtr
  rw [Count.add?_eq_some happl]
  rfl

/-- The position of the application does not fall below zero. -/
theorem rewind?_eq_some (frames : Nat) : m.rewind? frames = some (m.rewind frames) := by
  rw [rewind?, rewind]
  cases m.fault with
  | some planted => rfl
  | none =>
      cases hsetup : m.setup with
      | none => rfl
      | some s =>
          have hback : m.rewindLimit s frames ≤ m.applPtr :=
            (window_back (h.window s hsetup) rewindLimit_le_rewindable).1
          cases m.state <;> try rfl
          all_goals
            dsimp only
            rw [Count.sub?_eq_some hback]
            rfl

theorem status?_eq_some : m.status? = some m.status := by
  rw [status?, status]
  cases hsetup : m.setup with
  | none => rfl
  | some s =>
      dsimp only
      rw [avail?_eq_some (h.window s hsetup)]
      rfl

theorem availUpdate?_eq_some : m.availUpdate? = some (Device.availUpdate m) := by
  simp only [availUpdate?, Device.availUpdate, requireSetup]
  cases hsetup : m.setup with
  | none => rfl
  | some s =>
      dsimp only
      rw [avail?_eq_some (h.window s hsetup)]
      rfl

end Intact

end FrameTee.MemoryDevice
