import FrameTee.Device.Memory
import FrameTee.Proofs.Device.Transfer

/-!
# What the operations of a memory device come to

One lemma for each operation that moves a position says all that it can come to: either it is
refused, and then nothing but the state and the planted fault may have changed, or it moves a number
of frames, and then the device afterwards is given field by field. Later arguments cite these lemmas
and open no operation again.
-/

namespace FrameTee.MemoryDevice

open MappedRing

variable {m : MemoryDevice} {layout : RingLayout} {s : StreamSetup} {n : Nat}

theorem Intact.exists_setup (h : m.Intact) (hstate : m.state ≠ .opened) :
    ∃ s, m.setup = some s := by
  cases hsetup : m.setup with
  | none => exact absurd (h.opened_iff.mp hsetup) hstate
  | some s => exact ⟨s, rfl⟩

theorem Intact.le_bufferSize (h : m.Intact) {frames : Nat} (hgrants : m.Grants s frames n) :
    n ≤ s.bufferSize :=
  Nat.le_trans hgrants.le_avail (avail_le_bufferSize (h.window s hgrants.setup))

/-- The bytes of frames that were granted are a byte count. -/
theorem Intact.bytes_lt (h : m.Intact) {frames : Nat} (hgrants : m.Grants s frames n) :
    n * s.geometry.frameBytes < Count.limit := by
  obtain ⟨layout, hlaid⟩ := h.laid s hgrants.setup
  exact hlaid.supported.bytes_lt (h.le_bufferSize hgrants)

/-- There is room for the bytes of frames that were granted. -/
theorem Intact.bytes_le_maxSize (h : m.Intact) {frames : Nat} (hgrants : m.Grants s frames n) :
    n * s.geometry.frameBytes ≤ Bytes.maxSize := by
  obtain ⟨layout, hlaid⟩ := h.laid s hgrants.setup
  exact hlaid.supported.bytes_le_maxSize (h.le_bufferSize hgrants)

theorem storeNext_eq_ok (h : m.mapped.Laid layout s) (src : Bytes)
    (hsrc : src.size = n * s.geometry.frameBytes) (hn : n ≤ s.bufferSize) :
    ∃ ring, m.storeNext s src n = .ok n { m with ring, applPtr := m.applPtr + n } ∧
      Stored s (m.applPtr * s.geometry.frameBytes) (n * s.geometry.frameBytes) (src.getD · 0)
        m.mapped ⟨ring, m.areas⟩ := by
  have hcount : s.geometry.bytesToFrames src.size = n := by
    rw [hsrc, s.geometry.bytesToFrames_mul h.supported.channels_pos]
  obtain ⟨ring, hring, hstored⟩ := storeAt_eq_ok h m.applPtr src (by rwa [hcount])
  rw [hcount] at hstored
  exact ⟨ring, by rw [storeNext, hring], hstored⟩

/-- Frames that were granted can always be stored. -/
theorem storeNext_granted (h : m.Intact) {frames : Nat} (hgrants : m.Grants s frames n)
    {src : Bytes} (hsrc : src.size = n * s.geometry.frameBytes) :
    ∃ ring, (m.granted n).storeNext s src n = .ok n (m.advanced n ring) ∧
      Stored s (m.applPtr * s.geometry.frameBytes) (n * s.geometry.frameBytes) (src.getD · 0)
        m.mapped ⟨ring, m.areas⟩ := by
  obtain ⟨layout, hlaid⟩ := h.laid s hgrants.setup
  exact storeNext_eq_ok (m := m.granted n) hlaid src hsrc (h.le_bufferSize hgrants)

/-- Of a buffer that holds the frames asked for, those that were granted can be taken. -/
theorem Grants.size_extract {frames : Nat} (hgrants : m.Grants s frames n) {buffer : Bytes}
    (hlong : frames * s.geometry.frameBytes ≤ buffer.size) :
    n * s.geometry.frameBytes ≤ buffer.size ∧
      (buffer.extract 0 (n * s.geometry.frameBytes)).size = n * s.geometry.frameBytes := by
  have hsize : n * s.geometry.frameBytes ≤ buffer.size :=
    Nat.le_trans (Nat.mul_le_mul_right _ hgrants.le_frames) hlong
  exact ⟨hsize, by rw [Array.size_extract, Nat.min_eq_left hsize, Nat.sub_zero]⟩

/-- A write of one buffer is refused, or it stores the first frames of the buffer. -/
theorem writeInterleaved_cases (h : m.Intact) (buffer : Bytes) (frames : Nat) :
    m.Refuses (m.writeInterleaved buffer frames) ∨
      ∃ s n ring, m.direction = .playback ∧ m.Grants s frames n ∧
        n * s.geometry.frameBytes ≤ buffer.size ∧
        Stored s (m.applPtr * s.geometry.frameBytes) (n * s.geometry.frameBytes)
          ((buffer.extract 0 (n * s.geometry.frameBytes)).getD · 0) m.mapped ⟨ring, m.areas⟩ ∧
        m.writeInterleaved buffer frames = .ok n (m.advanced n ring) := by
  simp only [writeInterleaved]
  split
  · rename_i s hdirection hsetup
    split
    · exact .inl (.fail m _ m.fault)
    · rename_i hcheck
      obtain ⟨e, fault, hbegin⟩ | ⟨s', n, hgrants, hbegin⟩ := m.beginTransfer_cases "write" frames
      · rw [hbegin]
        exact .inl (.fail m e fault)
      · obtain rfl := Option.some.inj (hsetup.symm.trans hgrants.setup)
        obtain ⟨hsize, hextract⟩ := hgrants.size_extract (bytes_of_checkBuffer hcheck).2
        obtain ⟨ring, hring, hstored⟩ := storeNext_granted h hgrants hextract
        refine .inr ⟨s, n, ring, hdirection, hgrants, hsize, hstored, ?_⟩
        rw [hbegin]
        exact hring
  · exact .inl (.fail m _ m.fault)

/-- A write of one buffer per channel is refused, or it stores the frames that the buffers hold. -/
theorem writePlanar_cases (h : m.Intact) (buffers : Array Bytes) (frames : Nat) :
    m.Refuses (m.writePlanar buffers frames) ∨
      ∃ s n flat ring, m.direction = .playback ∧ m.Grants s frames n ∧
        (ChannelAreas.planar buffers s.geometry).copyInterleaved s.geometry 0 n = .ok flat ∧
        Stored s (m.applPtr * s.geometry.frameBytes) (n * s.geometry.frameBytes) (flat.getD · 0)
          m.mapped ⟨ring, m.areas⟩ ∧
        m.writePlanar buffers frames = .ok n (m.advanced n ring) := by
  simp only [writePlanar]
  split
  · rename_i s hdirection hsetup
    split
    · exact .inl (.fail m _ m.fault)
    · obtain ⟨e, fault, hbegin⟩ | ⟨s', n, hgrants, hbegin⟩ := m.beginTransfer_cases "write" frames
      · rw [hbegin]
        exact .inl (.fail m e fault)
      · obtain rfl := Option.some.inj (hsetup.symm.trans hgrants.setup)
        rw [hbegin]
        dsimp only
        split
        · -- The stream runs by now, although no frame was moved.
          refine .inl ⟨_, _, m.fault, rfl, ?_⟩
          by_cases hn : 0 < n
          · exact .inr ⟨hgrants.ready, if_pos hn⟩
          · exact .inl (if_neg hn)
        · rename_i flat hflat
          obtain ⟨ring, hring, hstored⟩ := storeNext_granted h hgrants
            (ChannelAreas.size_of_copyInterleaved_eq_ok hflat)
          exact .inr ⟨s, n, flat, ring, hdirection, hgrants, hflat, hstored, hring⟩
  · exact .inl (.fail m _ m.fault)

/-- A read into one buffer is refused and leaves the buffer as it is, or it puts the frames of the
ring at the start of the buffer. -/
theorem readInterleaved_cases (h : m.Intact) (buffer : Bytes) (frames : Nat) :
    m.Refuses (m.readInterleaved buffer frames).1 ∧
        (m.readInterleaved buffer frames).2 = buffer ∨
      ∃ s n, m.direction = .capture ∧ m.Grants s frames n ∧
        n * s.geometry.frameBytes ≤ buffer.size ∧
        m.readInterleaved buffer frames =
          (.ok n (m.advanced n m.ring),
            Bytes.blit (m.mapped.streamBytes s m.applPtr n) 0 buffer 0
              (n * s.geometry.frameBytes)) := by
  simp only [readInterleaved]
  split
  · rename_i s hdirection hsetup
    split
    · exact .inl ⟨.fail m _ m.fault, rfl⟩
    · rename_i hcheck
      obtain ⟨e, fault, hbegin⟩ | ⟨s', n, hgrants, hbegin⟩ := m.beginTransfer_cases "read" frames
      · rw [hbegin]
        exact .inl ⟨.fail m e fault, rfl⟩
      · obtain rfl := Option.some.inj (hsetup.symm.trans hgrants.setup)
        obtain ⟨layout, hlaid⟩ := h.laid s hsetup
        obtain ⟨hsize, -⟩ := hgrants.size_extract (bytes_of_checkBuffer hcheck).2
        have hload := loadAt_eq_ok (m := m.granted n) hlaid (m.granted n).applPtr n
        refine .inr ⟨s, n, hdirection, hgrants, hsize, ?_⟩
        rw [hbegin]
        dsimp only
        rw [hload]
        dsimp only
        rw [size_streamBytes]
        rfl
  · exact .inl ⟨.fail m _ m.fault, rfl⟩

/-- A read into one buffer per channel is refused and leaves the buffers as they are, or it takes
the frames of the ring apart into the buffers. -/
theorem readPlanar_cases (h : m.Intact) (buffers : Array Bytes) (frames : Nat) :
    m.Refuses (m.readPlanar buffers frames).1 ∧ (m.readPlanar buffers frames).2 = buffers ∨
      ∃ s n, m.direction = .capture ∧ m.Grants s frames n ∧
        buffers.size = s.geometry.channelCount ∧
        (∀ (c : Nat) (buffer : Bytes), buffers[c]? = some buffer →
          n * s.geometry.sampleBytes ≤ buffer.size) ∧
        m.readPlanar buffers frames =
          (.ok n (m.advanced n m.ring),
            spread s.geometry (m.mapped.streamBytes s m.applPtr n) n buffers) := by
  simp only [readPlanar]
  split
  · rename_i s hdirection hsetup
    split
    · exact .inl ⟨.fail m _ m.fault, rfl⟩
    · rename_i hcheck
      obtain ⟨hcount, -, hsize⟩ := buffers_of_checkPlanar hcheck
      obtain ⟨e, fault, hbegin⟩ | ⟨s', n, hgrants, hbegin⟩ := m.beginTransfer_cases "read" frames
      · rw [hbegin]
        exact .inl ⟨.fail m e fault, rfl⟩
      · obtain rfl := Option.some.inj (hsetup.symm.trans hgrants.setup)
        obtain ⟨layout, hlaid⟩ := h.laid s hsetup
        have hload := loadAt_eq_ok (m := m.granted n) hlaid (m.granted n).applPtr n
        refine .inr ⟨s, n, hdirection, hgrants, hcount, ?_, ?_⟩
        · intro c buffer hbuffer
          exact Nat.le_trans (Nat.mul_le_mul_right _ hgrants.le_frames) (hsize c buffer hbuffer)
        · rw [hbegin]
          dsimp only
          rw [hload]
          rfl
  · exact .inl ⟨.fail m _ m.fault, rfl⟩

/-- A commit is refused, or it hands over the frames of the ring as they are. -/
theorem commit_cases (m : MemoryDevice) (frames : Nat) :
    m.Refuses (m.commit frames) ∨
      ∃ s n, m.Grants s frames n ∧ m.commit frames = .ok n (m.advanced n m.ring) := by
  simp only [commit]
  obtain ⟨e, fault, hbegin⟩ | ⟨s, n, hgrants, hbegin⟩ := m.beginTransfer_cases "mmap_commit" frames
  · rw [hbegin]
    exact .inl (.fail m e fault)
  · refine .inr ⟨s, n, hgrants, ?_⟩
    rw [hbegin]
    rfl

theorem rewindLimit_le_rewindable {frames : Nat} : m.rewindLimit s frames ≤ m.rewindable s := by
  unfold rewindLimit
  split <;> dsimp only <;> omega

/-- A planted error strikes a rewind before anything else. -/
theorem rewind_of_fault {planted : StreamError} (h : m.fault = some planted) (frames : Nat) :
    m.rewind frames = .fail planted { m with fault := none } := by
  rw [rewind, h]

/-- A rewind that no planted error strikes is refused and changes nothing, or it takes back frames
that can be taken back. -/
theorem rewind_of_no_fault (h : m.fault = none) (frames : Nat) :
    (∃ e, m.rewind frames = .fail e m) ∨
      ∃ s n, m.setup = some s ∧ n ≤ m.rewindable s ∧
        m.rewind frames = .ok n { m with applPtr := m.applPtr - n } := by
  have hrewinds : ∀ s, m.setup = some s →
      ∃ s' n, m.setup = some s' ∧ n ≤ m.rewindable s' ∧
        (.ok (m.rewindLimit s frames) { m with applPtr := m.applPtr - m.rewindLimit s frames } :
          DeviceStep MemoryDevice Nat) = .ok n { m with applPtr := m.applPtr - n } :=
    fun s hsetup => ⟨s, _, hsetup, rewindLimit_le_rewindable, rfl⟩
  simp only [rewind]
  split
  · rename_i hfault
    exact absurd (h.symm.trans hfault) nofun
  · split
    · exact .inl ⟨_, rfl⟩
    · rename_i s hsetup
      split
      · exact .inr (hrewinds s hsetup)
      · exact .inr (hrewinds s hsetup)
      · exact .inr (hrewinds s hsetup)
      · exact .inl ⟨_, rfl⟩
      · exact .inl ⟨_, rfl⟩

/-- A rewind is refused, or it takes back frames that can be taken back. -/
theorem rewind_cases (m : MemoryDevice) (frames : Nat) :
    m.Refuses (m.rewind frames) ∨
      ∃ s n, m.setup = some s ∧ n ≤ m.rewindable s ∧
        m.rewind frames = .ok n { m with applPtr := m.applPtr - n } := by
  obtain hfault | ⟨planted, hfault⟩ := Option.eq_none_or_eq_some m.fault
  · obtain ⟨e, hstep⟩ | hmoved := rewind_of_no_fault hfault frames
    · rw [hstep]
      exact .inl (.fail m e m.fault)
    · exact .inr hmoved
  · rw [rewind_of_fault hfault]
    exact .inl (.fail m planted none)

/-- Playing is refused and changes nothing, or it plays pending frames out of the ring. -/
theorem consume_cases (h : ∀ s, m.setup = some s → ∃ layout, m.mapped.Laid layout s)
    (frames : Nat) :
    (∃ e, m.consume frames = .fail e m) ∧ (m.setup = none ∨ m.direction = .capture) ∨
      ∃ s, m.setup = some s ∧ m.direction = .playback ∧
        m.consume frames = .ok (min frames m.pending)
          { m with
            played := m.played ++ m.mapped.streamBytes s m.hwPtr (min frames m.pending)
            hwPtr := m.hwPtr + min frames m.pending } := by
  rw [consume]
  split
  · rename_i hsetup
    exact .inl ⟨⟨_, rfl⟩, .inl hsetup⟩
  · rename_i s hsetup
    split
    · rename_i hdirection
      refine .inl ⟨⟨_, rfl⟩, .inr ?_⟩
      cases hd : m.direction
      · exact absurd hd hdirection
      · rfl
    · rename_i hdirection
      obtain ⟨layout, hlaid⟩ := h s hsetup
      refine .inr ⟨s, hsetup, Decidable.not_not.mp hdirection, ?_⟩
      dsimp only
      rw [loadOnto_eq_ok hlaid]

/-- A recorder stores the frames for which there is room, and stops the stream if there are more. -/
theorem inject_eq_ok (h : m.Intact) (hsetup : m.setup = some s)
    (hdirection : m.direction = .capture) (data : Bytes) :
    let frames := s.geometry.bytesToFrames data.size
    let n := min frames (s.bufferSize - m.captured)
    ∃ ring, Stored s (m.hwPtr * s.geometry.frameBytes) (n * s.geometry.frameBytes)
        ((data.extract 0 (n * s.geometry.frameBytes)).getD · 0) m.mapped ⟨ring, m.areas⟩ ∧
      (m.inject data).result = .ok n ∧
      (m.inject data).device =
        { m with ring, hwPtr := m.hwPtr + n, state := if n < frames then .xrun else m.state } := by
  obtain ⟨layout, hlaid⟩ := h.laid s hsetup
  intro frames n
  have hsize : n * s.geometry.frameBytes ≤ data.size :=
    s.geometry.bytes_le_of_le_bytesToFrames (Nat.min_le_left _ _)
  have hcount : s.geometry.bytesToFrames
      (data.extract 0 (n * s.geometry.frameBytes)).size = n := by
    rw [Array.size_extract, Nat.min_eq_left hsize, Nat.sub_zero,
      s.geometry.bytesToFrames_mul hlaid.supported.channels_pos]
  have hroom : n ≤ s.bufferSize := Nat.le_trans (Nat.min_le_right _ _) (Nat.sub_le _ _)
  obtain ⟨ring, hring, hstored⟩ := storeAt_eq_ok hlaid m.hwPtr
    (data.extract 0 (n * s.geometry.frameBytes)) (by rwa [hcount])
  rw [hcount] at hstored
  refine ⟨ring, hstored, ?_⟩
  rw [inject, hsetup]
  dsimp only
  rw [if_neg (not_not_intro hdirection), hring]
  dsimp only
  by_cases hover : n < frames
  · rw [if_pos hover, if_pos hover]
    exact ⟨rfl, rfl⟩
  · rw [if_neg hover, if_neg hover]
    exact ⟨rfl, rfl⟩

/-- Recording is refused and changes nothing, or it stores the frames for which there is room and
stops the stream when there are more. -/
theorem inject_cases (h : m.Intact) (data : Bytes) :
    (∃ e, m.inject data = .fail e m) ∨
      ∃ s n ring state, m.setup = some s ∧ m.direction = .capture ∧
        n = min (s.geometry.bytesToFrames data.size) (s.bufferSize - m.captured) ∧
        Stored s (m.hwPtr * s.geometry.frameBytes) (n * s.geometry.frameBytes)
          ((data.extract 0 (n * s.geometry.frameBytes)).getD · 0) m.mapped ⟨ring, m.areas⟩ ∧
        (state = m.state ∨ state = .xrun) ∧
        (m.inject data).result = .ok n ∧
        (m.inject data).device = { m with ring, hwPtr := m.hwPtr + n, state } := by
  obtain hsetup | ⟨s, hsetup⟩ := Option.eq_none_or_eq_some m.setup
  · rw [inject, hsetup]
    exact .inl ⟨_, rfl⟩
  · by_cases hdirection : m.direction = .capture
    · obtain ⟨ring, hstored, hresult, hdevice⟩ := inject_eq_ok h hsetup hdirection data
      refine .inr ⟨s, _, ring, _, hsetup, hdirection, rfl, hstored, ?_, hresult, hdevice⟩
      split
      · exact .inr rfl
      · exact .inl rfl
    · rw [inject, hsetup]
      dsimp only
      rw [if_pos hdirection]
      exact .inl ⟨_, rfl⟩

/-- A stream that drains plays all that is pending and is set up afterwards. Once it has begun to
drain it does not fail. -/
theorem drain_eq_ok (h : m.Intact) (hdrains : m.Ready ∨ m.state = .paused) :
    ∃ s, m.setup = some s ∧
      (m.direction = .capture ∧ m.drain = .ok () { m with state := .setup } ∨
        m.direction = .playback ∧ m.drain = .ok ()
          { m with
            played := m.played ++ m.mapped.streamBytes s m.hwPtr m.pending
            hwPtr := m.hwPtr + m.pending
            state := .setup }) := by
  have hconsume := consume_cases (m := { m with state := .draining }) h.laid m.pending
  obtain (hstate | hstate) | hstate := hdrains
  all_goals
    obtain ⟨s, hsetup⟩ := h.exists_setup (by rw [hstate]; decide)
    refine ⟨s, hsetup, ?_⟩
    rw [drain, hstate]
    dsimp only
    split
    · rename_i hdirection
      exact .inl ⟨hdirection, rfl⟩
    · rename_i hdirection
      obtain ⟨-, hnone | hcapture⟩ | ⟨s', hsetup', -, hconsume⟩ := hconsume
      · rw [hsetup] at hnone
        cases hnone
      · rw [hdirection] at hcapture
        cases hcapture
      · obtain rfl := Option.some.inj (hsetup.symm.trans hsetup')
        refine .inr ⟨hdirection, ?_⟩
        rw [hconsume]
        have hall : min m.pending ({ m with state := .draining } : MemoryDevice).pending =
          m.pending := Nat.min_self _
        rw [hall]
        rfl

/-- A stream that is neither ready nor paused does not drain. -/
theorem drain_eq_fail (hdrains : ¬ (m.Ready ∨ m.state = .paused)) :
    m.drain = .fail (m.badState "drain") m := by
  rw [drain]
  split
  · rename_i hstate
    exact absurd (.inl (.inl hstate)) hdrains
  · rename_i hstate
    exact absurd (.inl (.inr hstate)) hdrains
  · rename_i hstate
    exact absurd (.inr hstate) hdrains
  · rfl

/-- Draining is refused and changes nothing, or all that is pending is played and the stream is set
up afterwards. -/
theorem drain_cases (h : m.Intact) :
    (∃ e, m.drain = .fail e m) ∨
      ∃ s, m.setup = some s ∧
        (m.direction = .capture ∧ m.drain = .ok () { m with state := .setup } ∨
          m.direction = .playback ∧ m.drain = .ok ()
            { m with
              played := m.played ++ m.mapped.streamBytes s m.hwPtr m.pending
              hwPtr := m.hwPtr + m.pending
              state := .setup }) := by
  by_cases hdrains : m.Ready ∨ m.state = .paused
  · exact .inr (drain_eq_ok h hdrains)
  · exact .inl ⟨_, drain_eq_fail hdrains⟩

/-- A rewind that succeeds takes back no more frames than can be taken back. -/
theorem rewind_eq_ok (hsetup : m.setup = some s) {frames : Nat}
    (hok : (m.rewind frames).result = .ok n) :
    n ≤ m.rewindable s ∧ m.rewind frames = .ok n (m.rewound n) := by
  obtain ⟨e, state, fault, hstep, -⟩ | ⟨s', n', hsetup', hn, hstep⟩ := m.rewind_cases frames
  · rw [hstep] at hok
    cases hok
  · obtain rfl := Option.some.inj (hsetup.symm.trans hsetup')
    rw [hstep] at hok
    obtain rfl := Except.ok.inj hok
    exact ⟨hn, hstep⟩

section Unhindered

/-- Frames of the mapped ring are handed over, if there is room and nothing hinders it. -/
theorem Unhindered.commit_eq_ok (h : m.Unhindered s) (hn : n ≤ m.avail s) :
    m.commit n = .ok n (m.advanced n m.ring) := by
  rw [commit, h.beginTransfer_eq_ok hn]
  rfl

/-- Frames that were recorded are read into a buffer that is long enough, if nothing hinders it. -/
theorem Unhindered.readInterleaved_eq_ok (h : m.Unhindered s) (hintact : m.Intact)
    (hdirection : m.direction = .capture) (hn : n ≤ m.avail s) {buffer : Bytes}
    (hbuffer : n * s.geometry.frameBytes ≤ buffer.size) :
    m.readInterleaved buffer n =
      (.ok n (m.advanced n m.ring),
        Bytes.blit (m.mapped.streamBytes s m.applPtr n) 0 buffer 0
          (n * s.geometry.frameBytes)) := by
  obtain ⟨layout, hlaid⟩ := hintact.laid s h.setup
  have hsize : n ≤ s.bufferSize :=
    Nat.le_trans hn (avail_le_bufferSize (hintact.window s h.setup))
  have hcheck : (byteLength s n >>= (checkBuffer · buffer.size)) = .ok () := by
    rw [byteLength, hlaid.supported.framesToBytes?_eq hsize]
    exact if_neg (Nat.not_lt.mpr hbuffer)
  have hload := loadAt_eq_ok (m := m.granted n) hlaid (m.granted n).applPtr n
  rw [readInterleaved, hdirection, h.setup]
  dsimp only
  rw [hcheck, h.beginTransfer_eq_ok hn]
  dsimp only
  rw [hload]
  dsimp only
  rw [size_streamBytes]
  rfl

/-- Taking frames back keeps the device intact. -/
theorem Intact.rewound (h : m.Intact) (hsetup : m.setup = some s) (hn : n ≤ m.rewindable s) :
    (m.rewound n).Intact := by
  refine ⟨h.opened_iff, h.laid, ?_⟩
  intro s' hsetup'
  obtain rfl := Option.some.inj (hsetup.symm.trans hsetup')
  exact (window_back (h.window s hsetup) hn).2

variable (h : m.Unhindered s) (hintact : m.Intact) (hn : n ≤ m.rewindable s)
  (hstate : 0 < n → m.state = .running)
include h hintact hn hstate

/-- Handing over the frames that were taken back gives the device back. -/
theorem Unhindered.commit_rewound : (m.rewound n).commit n = .ok n m := by
  have hwindow := hintact.window s h.setup
  have hrewound : (m.rewound n).Unhindered s := ⟨h.setup, h.ready, h.fault, h.transferLimit⟩
  calc
    (m.rewound n).commit n = .ok n ((m.rewound n).advanced n m.ring) :=
      hrewound.commit_eq_ok (le_avail_rewound hwindow hn)
    _ = .ok n m := by rw [advanced_rewound (window_back hwindow hn).1 hstate]

/-- Reading the frames that were taken back gives the device back. -/
theorem Unhindered.readInterleaved_rewound (hdirection : m.direction = .capture) {buffer : Bytes}
    (hbuffer : n * s.geometry.frameBytes ≤ buffer.size) :
    (m.rewound n).readInterleaved buffer n =
      (.ok n m, Bytes.blit (m.mapped.streamBytes s (m.applPtr - n) n) 0 buffer 0
        (n * s.geometry.frameBytes)) := by
  have hwindow := hintact.window s h.setup
  have hrewound : (m.rewound n).Unhindered s := ⟨h.setup, h.ready, h.fault, h.transferLimit⟩
  calc
    (m.rewound n).readInterleaved buffer n =
        (.ok n ((m.rewound n).advanced n m.ring),
          Bytes.blit (m.mapped.streamBytes s (m.applPtr - n) n) 0 buffer 0
            (n * s.geometry.frameBytes)) :=
      hrewound.readInterleaved_eq_ok (hintact.rewound h.setup hn) hdirection
        (le_avail_rewound hwindow hn) hbuffer
    _ = _ := by rw [advanced_rewound (window_back hwindow hn).1 hstate]

end Unhindered

/-- Making a stream ready is refused and changes nothing, or the stream has a setup and starts
anew. -/
theorem prepare_cases (h : m.Intact) :
    (∃ e, m.prepare = .fail e m) ∨
      (∃ s, m.setup = some s) ∧
        m.prepare = .ok () { m with applPtr := 0, hwPtr := 0, state := .prepared } := by
  simp only [prepare]
  split
  · exact .inl ⟨_, rfl⟩
  · exact .inl ⟨_, rfl⟩
  · rename_i hopened hdisconnected
    exact .inr ⟨h.exists_setup hopened, rfl⟩

/-- A stream that is made ready has a setup and starts anew. -/
theorem Intact.prepared_of_prepare (h : m.Intact) (hok : m.prepare.result = .ok ()) :
    (∃ s, m.setup = some s) ∧
      m.prepare.device = { m with applPtr := 0, hwPtr := 0, state := .prepared } := by
  obtain ⟨e, hstep⟩ | ⟨hsetup, hstep⟩ := prepare_cases h
  · rw [hstep] at hok
    cases hok
  · rw [hstep]
    exact ⟨hsetup, rfl⟩

theorem requireSetup_eq_ok (hsetup : m.setup = some s) (op : String) :
    m.requireSetup op = .ok s := by
  rw [requireSetup, hsetup]

theorem geometry_eq_ok (hsetup : m.setup = some s) : Device.geometry m = .ok s.geometry := by
  change (m.requireSetup "setup").map (·.geometry) = _
  rw [requireSetup_eq_ok hsetup]
  rfl

theorem geometry_eq_error (hsetup : m.setup = none) :
    Device.geometry m = .error (m.badState "setup") := by
  change (m.requireSetup "setup").map (·.geometry) = _
  rw [requireSetup, hsetup]
  rfl

theorem mappedRing_eq_ok (hsetup : m.setup = some s) : m.mappedRing = .ok m.mapped := by
  rw [mappedRing, requireSetup_eq_ok hsetup]
  rfl

/-- A ring that can be mapped is the ring of the device. -/
theorem eq_mapped_of_mappedRing {ring : MappedRing} (h : m.mappedRing = .ok ring) :
    ring = m.mapped := by
  cases hsetup : m.setup with
  | none =>
      rw [mappedRing, requireSetup, hsetup] at h
      cases h
  | some s =>
      rw [mappedRing_eq_ok hsetup] at h
      exact (Except.ok.inj h).symm

/-- The device accepts parameters of the size that it supports. -/
theorem supported_of_accepts {params : StreamParams} (h : range.accepts params) :
    (StreamSetup.ofParams params).Supported := by
  simp only [ParamsRange.accepts] at h
  simp only [Bool.and_eq_true, decide_eq_true_eq] at h
  obtain ⟨⟨⟨-, hchannels, hchannels'⟩, -⟩, hbuffer, hbuffer'⟩ := h
  exact ⟨UInt16.le_iff_toNat_le.mp hchannels, UInt16.le_iff_toNat_le.mp hchannels', hbuffer,
    hbuffer'⟩

theorem byteLength_of_accepts {params : StreamParams} (h : range.accepts params) :
    byteLength (.ofParams params) (StreamSetup.ofParams params).bufferSize =
      .ok (StreamSetup.ofParams params).ringBytes := by
  rw [byteLength, (supported_of_accepts h).framesToBytes?_eq (Nat.le_refl _)]
  rfl

/-- Taking on parameters is refused and changes nothing, or it lays the ring out anew. -/
theorem setParams_cases (m : MemoryDevice) (params : StreamParams) :
    (∃ e, m.setParams params = .fail e m) ∨
      (StreamSetup.ofParams params).Supported ∧ (m.setParams params).result = .ok () ∧
        (m.setParams params).device =
          { m with
            areas := channelLayouts m.layout (.ofParams params)
            ring := .zeros (StreamSetup.ofParams params).ringBytes
            applPtr := 0
            hwPtr := 0
            setup := some (.ofParams params)
            state := .setup } := by
  rw [setParams]
  split <;> try exact .inl ⟨_, rfl⟩
  all_goals
    split
    · rename_i haccepts
      dsimp only
      rw [byteLength_of_accepts haccepts]
      exact .inr ⟨supported_of_accepts haccepts, rfl, rfl⟩
    · exact .inl ⟨_, rfl⟩

end FrameTee.MemoryDevice
