import FrameTee.Proofs.Device.Guarded
import FrameTee.Proofs.Device.Planar
import FrameTee.Proofs.Device.Reached

/-!
# Accounting for frames

What a memory device tells about its frames is in balance with what its operations answer. A frame
of the ring is either available to the application or between application and hardware, and every
operation that answers with a number of frames shifts just so many from the one side to the other
(`MemoryDevice.accounting_of_reached`).

How many frames a transfer moves is fixed beforehand: as many as were asked for, are available and
are allowed at once, if the transfer is accepted (`MemoryDevice.Exchange.Accepted`), the stream is
ready and no error is planted. A stream that does not wait refuses a transfer that would move none
of the frames asked for.
-/

namespace FrameTee.MemoryDevice

variable {m : MemoryDevice} {laid : Option RingLayout} {s : StreamSetup} {frames n : Nat}
  {ring : Memory} {α : Type}

section Avail

theorem status_avail (hsetup : m.setup = some s) : m.status.avail = m.avail s := by
  rw [status, hsetup]
  rfl

/-- What a recorder has available are the frames between hardware and application. -/
theorem avail_eq_lag (hdirection : m.direction = .capture) : m.avail s = m.lag := by
  rw [avail_of_capture hdirection, lag, hdirection]
  rfl

variable (hwindow : m.direction.Window m.applPtr m.hwPtr s.bufferSize)
include hwindow

/-- A frame in the ring of a player is available, or it is pending. -/
theorem avail_add_lag (hdirection : m.direction = .playback) :
    m.avail s + m.lag = s.bufferSize := by
  rw [hdirection, Direction.window_playback] at hwindow
  rw [avail_of_playback hdirection, lag, hdirection]
  dsimp only [pending]
  omega

/-- Frames that were moved are no longer available. -/
theorem avail_advanced (hn : n ≤ m.avail s) : (m.advanced n ring).avail s + n = m.avail s := by
  cases hdirection : m.direction with
  | playback =>
      rw [hdirection, Direction.window_playback] at hwindow
      rw [avail_of_playback hdirection] at hn ⊢
      rw [avail_of_playback (m := m.advanced n ring) hdirection]
      change s.bufferSize - (m.applPtr + n - m.hwPtr) + n = _
      omega
  | capture =>
      rw [avail_of_capture hdirection] at hn ⊢
      rw [avail_of_capture (m := m.advanced n ring) hdirection]
      change m.hwPtr - (m.applPtr + n) + n = _
      omega

/-- Frames that were played are available again. -/
theorem avail_played (hdirection : m.direction = .playback) (hn : n ≤ m.pending)
    (played : Bytes) :
    avail { m with played, hwPtr := m.hwPtr + n } s = m.avail s + n := by
  rw [hdirection, Direction.window_playback] at hwindow
  have hn' : n ≤ m.applPtr - m.hwPtr := hn
  rw [avail_of_playback hdirection,
    avail_of_playback (m := { m with played, hwPtr := m.hwPtr + n }) hdirection]
  dsimp only
  omega

/-- Frames that were recorded are available. -/
theorem avail_recorded (hdirection : m.direction = .capture) (state : StreamState) :
    avail { m with ring, hwPtr := m.hwPtr + n, state } s = m.avail s + n := by
  rw [hdirection, Direction.window_capture] at hwindow
  rw [avail_of_capture hdirection,
    avail_of_capture (m := { m with ring, hwPtr := m.hwPtr + n, state }) hdirection]
  dsimp only
  omega

end Avail

theorem movable_eq (m : MemoryDevice) (s : StreamSetup) (frames : Nat) :
    m.movable s frames = min (min frames (m.avail s)) (m.transferLimit.getD frames) := by
  unfold movable
  cases m.transferLimit with
  | none => exact (Nat.min_eq_left (Nat.min_le_left _ _)).symm
  | some limit => rfl

/-- The transfer would have to wait, and the stream does not. -/
def Blocks (m : MemoryDevice) (s : StreamSetup) (frames : Nat) : Prop :=
  m.movable s frames = 0 ∧ 0 < frames ∧ m.nonblocking = true

instance (m : MemoryDevice) (s : StreamSetup) (frames : Nat) : Decidable (m.Blocks s frames) :=
  inferInstanceAs (Decidable (_ ∧ _))

section Ready

variable (hsetup : m.setup = some s) (hready : m.Ready) (hfault : m.fault = none)
include hsetup hready hfault

theorem beginTransfer_of_blocks (hblocks : m.Blocks s frames) (op : String) :
    m.beginTransfer op frames = (.error .wouldBlock, m) := by
  rw [beginTransfer, hfault, hsetup]
  obtain hstate | hstate := hready
  all_goals
    rw [hstate]
    exact if_pos hblocks

/-- A guarded transfer that passes its check moves as many frames as can be moved, or would have to
wait. -/
theorem result_guarded {check : Except StreamError α} {a : α}
    {move : α → Nat → MemoryDevice → DeviceStep MemoryDevice Nat} (hcheck : check = .ok a)
    (op : String)
    (hmove : ∀ n, m.Grants s frames n → (move a n (m.granted n)).result = .ok n) :
    (m.guarded check op frames move).result =
      if m.Blocks s frames then .error .wouldBlock else .ok (m.movable s frames) := by
  subst hcheck
  dsimp only [guarded]
  by_cases hblocks : m.Blocks s frames
  · rw [beginTransfer_of_blocks hsetup hready hfault hblocks, if_pos hblocks]
    rfl
  · rw [beginTransfer_eq_ok hfault hsetup hready hblocks, if_neg hblocks]
    exact hmove _ ⟨hsetup, hready, rfl⟩

end Ready

/-- The ways for an application to move frames. -/
inductive Exchange where
  /-- To write one interleaved buffer. -/
  | writeInterleaved (buffer : Bytes)
  /-- To write one buffer per channel. -/
  | writePlanar (buffers : Array Bytes)
  /-- To read into one interleaved buffer. -/
  | readInterleaved (buffer : Bytes)
  /-- To read into one buffer per channel. -/
  | readPlanar (buffers : Array Bytes)
  /-- To hand over frames of the mapped ring. -/
  | commit

/-- The step of a device that is to move up to `frames` frames. -/
def Exchange.step (frames : Nat) (m : MemoryDevice) :
    Exchange → DeviceStep MemoryDevice Nat
  | writeInterleaved buffer => m.writeInterleaved buffer frames
  | writePlanar buffers => m.writePlanar buffers frames
  | readInterleaved buffer => (m.readInterleaved buffer frames).1
  | readPlanar buffers => (m.readPlanar buffers frames).1
  | commit => m.commit frames

/-- There is one buffer per channel, and each holds `frames` samples. -/
def SamplesFit (s : StreamSetup) (frames : Nat) (buffers : Array Bytes) : Prop :=
  buffers.size = s.geometry.channelCount ∧
    ∀ (c : Nat) (buffer : Bytes), buffers[c]? = some buffer →
      frames * s.geometry.sampleBytes ≤ buffer.size

/-- Frames flow the way of the transfer, and its buffers hold the frames: those asked for, and for a
planar write only those that can be moved. -/
def Exchange.Accepted (m : MemoryDevice) (s : StreamSetup) (frames : Nat) : Exchange → Prop
  | writeInterleaved buffer =>
    m.direction = .playback ∧ frames * s.geometry.frameBytes < Count.limit ∧
      frames * s.geometry.frameBytes ≤ buffer.size
  | writePlanar buffers =>
    m.direction = .playback ∧ SamplesFit s (m.movable s frames) buffers
  | readInterleaved buffer =>
    m.direction = .capture ∧ frames * s.geometry.frameBytes < Count.limit ∧
      frames * s.geometry.frameBytes ≤ buffer.size
  | readPlanar buffers =>
    m.direction = .capture ∧ frames * s.geometry.sampleBytes < Count.limit ∧
      SamplesFit s frames buffers
  | commit => True

namespace Exchange

/-- A transfer is refused, or it moves the frames that can be moved. -/
theorem step_cases (h : m.Intact) (exchange : Exchange) (frames : Nat) :
    m.Refuses (exchange.step frames m) ∨
      ∃ s n ring, m.Grants s frames n ∧ exchange.step frames m = .ok n (m.advanced n ring) := by
  cases exchange with
  | writeInterleaved buffer =>
      obtain hrefuses | ⟨s, n, ring, -, hgrants, -, -, hstep⟩ :=
        writeInterleaved_cases h buffer frames
      · exact .inl hrefuses
      · exact .inr ⟨s, n, ring, hgrants, hstep⟩
  | writePlanar buffers =>
      obtain hrefuses | ⟨s, n, flat, ring, -, hgrants, -, -, hstep⟩ :=
        writePlanar_cases h buffers frames
      · exact .inl hrefuses
      · exact .inr ⟨s, n, ring, hgrants, hstep⟩
  | readInterleaved buffer =>
      obtain ⟨hrefuses, -⟩ | ⟨s, n, -, hgrants, -, hread⟩ := readInterleaved_cases h buffer frames
      · exact .inl hrefuses
      · exact .inr ⟨s, n, m.ring, hgrants, congrArg Prod.fst hread⟩
  | readPlanar buffers =>
      obtain ⟨hrefuses, -⟩ | ⟨s, n, -, hgrants, -, -, hread⟩ := readPlanar_cases h buffers frames
      · exact .inl hrefuses
      · exact .inr ⟨s, n, m.ring, hgrants, congrArg Prod.fst hread⟩
  | commit =>
      obtain hrefuses | ⟨s, n, hgrants, hstep⟩ := m.commit_cases frames
      · exact .inl hrefuses
      · exact .inr ⟨s, n, m.ring, hgrants, hstep⟩

/-- A transfer that moves frames is accepted. -/
theorem accepted_of_ok (hsetup : m.setup = some s) (exchange : Exchange)
    (hok : (exchange.step frames m).result = .ok n) : exchange.Accepted m s frames := by
  cases exchange with
  | writeInterleaved buffer =>
      simp only [step, writeInterleaved_eq_guarded] at hok
      obtain ⟨hdirection, hcheck, -⟩ := of_guarded_vet_eq_ok hsetup hok
      exact ⟨hdirection, bytes_of_checkBuffer hcheck⟩
  | writePlanar buffers =>
      simp only [step, writePlanar_eq_guarded] at hok
      obtain ⟨hdirection, hcheck, k, hgrants, hmoved⟩ := of_guarded_vet_eq_ok hsetup hok
      refine ⟨hdirection, count_eq_of_checkCount hcheck, ?_⟩
      rw [← hgrants.eq_movable]
      rw [storePlanar] at hmoved
      split at hmoved
      · cases hmoved
      · rename_i flat hflat
        intro c buffer hbuffer
        by_cases hk : 0 < k
        · exact (ChannelAreas.interleaves_of_copyInterleaved_eq_ok hk hflat).2.long c buffer hbuffer
        · rw [Nat.eq_zero_of_not_pos hk, Nat.zero_mul]
          exact Nat.zero_le _
  | readInterleaved buffer =>
      simp only [step, readInterleaved_eq_guarded] at hok
      obtain ⟨hdirection, hcheck, -⟩ := of_guarded_vet_eq_ok hsetup hok
      exact ⟨hdirection, bytes_of_checkBuffer hcheck⟩
  | readPlanar buffers =>
      simp only [step, readPlanar_eq_guarded] at hok
      obtain ⟨hdirection, hcheck, -⟩ := of_guarded_vet_eq_ok hsetup hok
      obtain ⟨hcount, hlt, hlong⟩ := buffers_of_checkPlanar hcheck
      exact ⟨hdirection, hlt, hcount, hlong⟩
  | commit => trivial

/-- A transfer that is accepted moves as many frames as can be moved, or would have to wait. -/
theorem result_of_accepted (h : m.Intact) (hsetup : m.setup = some s) (hready : m.Ready)
    (hfault : m.fault = none) {exchange : Exchange} (haccepted : exchange.Accepted m s frames) :
    (exchange.step frames m).result =
      if m.Blocks s frames then .error .wouldBlock else .ok (m.movable s frames) := by
  obtain ⟨layout, hlaid⟩ := h.laid s hsetup
  cases exchange with
  | writeInterleaved buffer =>
      obtain ⟨hdirection, hlt, hlong⟩ := haccepted
      simp only [step, writeInterleaved_eq_guarded]
      refine result_guarded hsetup hready hfault
        (vet_eq_ok hdirection hsetup (checkFrames_eq_ok hlong hlt) _) _ ?_
      exact fun n hgrants => storeNext_extract_granted h hgrants hlong
  | writePlanar buffers =>
      obtain ⟨hdirection, hcount, hlong⟩ := haccepted
      simp only [step, writePlanar_eq_guarded]
      refine result_guarded hsetup hready hfault
        (vet_eq_ok hdirection hsetup (checkCount_eq_ok hcount) _) _ ?_
      intro n hgrants
      rw [← hgrants.eq_movable] at hlong
      exact storePlanar_granted h hgrants hcount hlong
  | readInterleaved buffer =>
      obtain ⟨hdirection, hlt, hlong⟩ := haccepted
      simp only [step, readInterleaved_eq_guarded]
      refine result_guarded hsetup hready hfault
        (vet_eq_ok hdirection hsetup (checkFrames_eq_ok hlong hlt) _) _ ?_
      intro n hgrants
      exact loadNext_granted h hsetup n
  | readPlanar buffers =>
      obtain ⟨hdirection, hlt, hcount, hlong⟩ := haccepted
      simp only [step, readPlanar_eq_guarded]
      refine result_guarded hsetup hready hfault
        (vet_eq_ok hdirection hsetup (checkPlanar_eq_ok hcount hlong hlt) _) _ ?_
      intro n hgrants
      exact loadNext_granted h hsetup n
  | commit =>
      simp only [step, commit_eq_guarded]
      exact result_guarded hsetup hready hfault rfl _ fun _ _ => rfl

end Exchange

section Steps

variable (h : m.Intact) (hsetup : m.setup = some s)
include h hsetup

/-- The frames that a transfer moves are no longer available. -/
theorem Exchange.avail_of_ok (exchange : Exchange)
    (hok : (exchange.step frames m).result = .ok n) :
    (exchange.step frames m).device.status.avail + n = m.status.avail := by
  obtain hrefuses | ⟨s', k, ring, hgrants, hstep⟩ := exchange.step_cases h frames
  · exact absurd hok hrefuses.result_ne_ok
  · obtain rfl := Option.some.inj (hsetup.symm.trans hgrants.setup)
    rw [hstep] at hok ⊢
    obtain rfl := Except.ok.inj hok
    have hafter : (m.advanced k ring).status.avail = (m.advanced k ring).avail s :=
      status_avail hsetup
    have hbalance : (m.advanced k ring).avail s + k = m.avail s :=
      avail_advanced (h.window s hsetup) hgrants.le_avail
    rw [status_avail hsetup, ← hbalance, ← hafter]
    rfl

/-- The frames that a rewind takes back are available again. -/
theorem avail_of_rewind_eq_ok (hok : (m.rewind frames).result = .ok n) :
    (m.rewind frames).device.status.avail = m.status.avail + n := by
  obtain ⟨hn, hstep⟩ := rewind_eq_ok hsetup hok
  rw [hstep, status_avail hsetup]
  refine Eq.trans (status_avail hsetup) ?_
  exact avail_rewound (h.window s hsetup) hn

/-- The frames that are played are available again. -/
theorem avail_of_consume_eq_ok (hok : (m.consume frames).result = .ok n) :
    (m.consume frames).device.status.avail = m.status.avail + n := by
  obtain ⟨⟨e, hstep⟩, -⟩ | ⟨s', -, hdirection, hstep⟩ := consume_cases h.laid frames
  · rw [hstep] at hok
    cases hok
  · rw [hstep] at hok ⊢
    obtain rfl := Except.ok.inj hok
    rw [status_avail hsetup]
    refine Eq.trans (status_avail hsetup) ?_
    exact avail_played (h.window s hsetup) hdirection (Nat.min_le_right _ _) _

/-- The frames that are recorded are available. -/
theorem avail_of_inject_eq_ok {data : Bytes} (hok : (m.inject data).result = .ok n) :
    (m.inject data).device.status.avail = m.status.avail + n := by
  obtain ⟨e, hstep⟩ | ⟨s', k, ring, state, -, hdirection, -, -, -, hresult, hdevice⟩ :=
    inject_cases h data
  · rw [hstep] at hok
    cases hok
  · obtain rfl := Except.ok.inj (hresult.symm.trans hok)
    rw [hdevice, status_avail hsetup]
    refine Eq.trans (status_avail hsetup) ?_
    exact avail_recorded (h.window s hsetup) hdirection state

end Steps

/-- In every state that is reached with parameters set, the frames are in balance. What the device
tells to be available is also what it answers when asked, and with the frames between application
and hardware it makes up the ring for a player; for a recorder the two are the same. A transfer that
is accepted by a stream that is ready, with no error planted, moves as many frames as were asked
for, are available and are allowed at once, and only a stream that does not wait refuses to move
none of the frames asked for. A transfer that succeeds was accepted, and its frames are no longer
available; frames that were taken back, played or recorded are available besides those that were. A
recording takes the frames for which there is room, and the stream has run over if there were
more. -/
theorem accounting_of_reached (h : Reached m laid) (hsetup : m.setup = some s) :
    (Device.availUpdate m = .ok m.status.avail m ∧ Device.delay m = .ok m.status.delay) ∧
      (m.direction = .playback → (m.status.avail : Int) + m.status.delay = s.bufferSize) ∧
      (m.direction = .capture →
        (m.status.avail : Int) = m.status.delay ∧ m.status.avail ≤ s.bufferSize) ∧
      (m.Ready → m.fault = none → ∀ (exchange : Exchange) (frames : Nat),
        exchange.Accepted m s frames →
          let moved := min (min frames m.status.avail) (m.transferLimit.getD frames)
          (exchange.step frames m).result =
            if moved = 0 ∧ 0 < frames ∧ m.nonblocking = true then .error .wouldBlock
            else .ok moved) ∧
      (∀ (exchange : Exchange) (frames n : Nat), (exchange.step frames m).result = .ok n →
        exchange.Accepted m s frames ∧
          (exchange.step frames m).device.status.avail + n = m.status.avail) ∧
      (∀ frames n, (m.rewind frames).result = .ok n →
        (m.rewind frames).device.status.avail = m.status.avail + n ∧
          m.status.avail + n ≤ s.bufferSize) ∧
      (∀ frames n, (m.consume frames).result = .ok n →
        (m.consume frames).device.status.avail = m.status.avail + n) ∧
      (∀ data n, (m.inject data).result = .ok n →
        (m.inject data).device.status.avail = m.status.avail + n) ∧
      (m.direction = .capture → ∀ data,
        let frames := s.geometry.bytesToFrames data.size
        let room := s.bufferSize - m.status.avail
        (m.inject data).result = .ok (min frames room) ∧
          (m.inject data).device.state = if room < frames then .xrun else m.state) := by
  have hintact := h.sound.intact
  have hwindow := hintact.window s hsetup
  have havail := status_avail hsetup
  refine ⟨⟨?_, rfl⟩, ?_, ?_, ?_, ?_, ?_, fun _ _ => avail_of_consume_eq_ok hintact hsetup,
    fun _ _ => avail_of_inject_eq_ok hintact hsetup, ?_⟩
  · rw [havail]
    simp only [Device.availUpdate, requireSetup_eq_ok hsetup]
  · intro hdirection
    rw [havail, ← avail_add_lag hwindow hdirection]
    exact (Int.natCast_add _ _).symm
  · intro hdirection
    rw [havail]
    exact ⟨congrArg Nat.cast (avail_eq_lag hdirection), avail_le_bufferSize hwindow⟩
  · intro hready hfault exchange frames haccepted moved
    have hmoved : moved = m.movable s frames := by rw [movable_eq, ← havail]
    rw [exchange.result_of_accepted hintact hsetup hready hfault haccepted, hmoved]
    rfl
  · intro exchange frames n hok
    exact ⟨exchange.accepted_of_ok hsetup hok, exchange.avail_of_ok hintact hsetup hok⟩
  · intro frames n hok
    refine ⟨avail_of_rewind_eq_ok hintact hsetup hok, ?_⟩
    obtain ⟨hn, -⟩ := rewind_eq_ok hsetup hok
    rw [havail, ← avail_rewound hwindow hn]
    exact avail_le_bufferSize (m := m.rewound n) (window_back hwindow hn).2
  · intro hdirection data frames room
    obtain ⟨ring, -, hresult, hdevice⟩ := inject_eq_ok hintact hsetup hdirection data
    have hcaptured : m.captured = m.status.avail := by
      rw [havail, avail_of_capture hdirection]
      rfl
    rw [hcaptured] at hresult hdevice
    refine ⟨hresult, ?_⟩
    rw [hdevice]
    exact if_congr (by omega) rfl rfl

/-- A player with room for four frames, of which one transfer moves at most two, is given three. -/
theorem accounting_of_reached_limited :
    let m := (readyPlayer.perform (.setTransferLimit (some 2))).device
    let write := Exchange.writeInterleaved #[1, 2, 3]
    Reached m (some .interleaved) ∧ m.setup = some ⟨⟨1, .u8⟩, 8000, 4⟩ ∧ m.Ready ∧
      m.fault = none ∧ write.Accepted m ⟨⟨1, .u8⟩, 8000, 4⟩ 3 ∧ m.status.avail = 4 ∧
      (write.step 3 m).result = .ok 2 ∧ (write.step 3 m).device.status.avail + 2 = 4 := by
  intro m write
  have hreached : Reached m (some .interleaved) :=
    .drive (.setTransferLimit (some 2)) reached_readyPlayer
  have hsetup : m.setup = some ⟨⟨1, .u8⟩, 8000, 4⟩ := by decide +kernel
  have hready : m.Ready := .inl (by decide +kernel)
  have hfault : m.fault = none := by decide +kernel
  have haccepted : write.Accepted m ⟨⟨1, .u8⟩, 8000, 4⟩ 3 :=
    ⟨by decide +kernel, by decide +kernel, by decide +kernel⟩
  have havail : m.status.avail = 4 := by decide +kernel
  have hlimit : m.transferLimit = some 2 := rfl
  obtain ⟨-, -, -, hmoves, hmoved, -⟩ := accounting_of_reached hreached hsetup
  have hresult := hmoves hready hfault write 3 haccepted
  rw [havail, hlimit] at hresult
  refine ⟨hreached, hsetup, hready, hfault, haccepted, havail, hresult, ?_⟩
  rw [← havail]
  exact (hmoved write 3 2 hresult).2

end FrameTee.MemoryDevice
