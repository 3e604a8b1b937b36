import FrameTee.Proofs.Device.Reached

/-!
# A player that was stopped

Stopping a player changes its state and nothing else: the frames that were pending stay in the ring,
and the hardware side plays them when it is asked to, although the stream does not run. Only when
the stream starts anew are they lost. `MemoryDevice.Leftover` follows them through whatever happens
after the stop, and `MemoryDevice.pending_after_stop` tells where they are.

## Implementation notes

Frames are told apart by their position alone. The pending frames that are left from before the stop
are the oldest ones, so they are the first to be played and the last to be taken back.
-/

namespace FrameTee.MemoryDevice

open MappedRing

variable {m m' : MemoryDevice} {laid : Option RingLayout}

/-- What can happen to a memory device. -/
inductive Event where
  /-- An action of the application. -/
  | act (action : Action)
  /-- A request to the hardware side. -/
  | drive (request : HardwareRequest)
  /-- The end. -/
  | close

namespace Event

/-- The device afterwards. -/
def after (m : MemoryDevice) : Event → MemoryDevice
  | act action => action.after m
  | drive request => (m.perform request).device
  | close => m.close.device

/-- Whether the stream starts anew. -/
def startsAnew (m : MemoryDevice) : Event → Bool
  | act action => action.startsAnew m
  | drive _ | close => false

/-- Whether the application changes the mapped ring in place. -/
def edits : Event → Bool
  | act (.poke _ _) | act (.ask (.storeMapped _ _)) => true
  | _ => false

theorem reached_after (h : Reached m laid) (event : Event) :
    ∃ laid', Reached (event.after m) laid' := by
  cases event with
  | act action => exact ⟨_, .act action h⟩
  | drive request => exact ⟨_, .drive request h⟩
  | close => exact ⟨_, .close h⟩

theorem direction_after (h : Reached m laid) (event : Event) :
    (event.after m).direction = m.direction := by
  cases event with
  | act action => exact h.direction_after action
  | drive request => exact (sound_perform h.sound request).direction_eq
  | close => rfl

/-- A stream that starts anew is at its start. -/
theorem start_of_startsAnew (h : m.Intact) {event : Event} (hanew : event.startsAnew m = true) :
    (event.after m).applPtr = 0 ∧ (event.after m).hwPtr = 0 := by
  cases event with
  | act action =>
      cases action with
      | poke address value => cases hanew
      | ask request =>
          cases request with
          | setParams params => exact (Action.restarts_setParams m params).start hanew
          | prepare => exact (Action.restarts_prepare h).start hanew
          | _ => cases hanew
  | drive request => cases hanew
  | close => cases hanew

end Event

/-- A player is set up, the application stayed where it was, and `n` frames that were pending were
played. The mapped ring is as it was, unless it was `edited`. -/
structure Rests (m : MemoryDevice) (edited : Bool) (n : Nat) (m' : MemoryDevice) : Prop where
  /-- The stream is set up. -/
  state : m'.state = .setup
  /-- The setup stays. -/
  setup : m'.setup = m.setup
  /-- The application stays where it is. -/
  applPtr : m'.applPtr = m.applPtr
  /-- Pending frames are played. -/
  le_pending : n ≤ m.pending
  /-- The hardware moves on by these frames. -/
  hwPtr : m'.hwPtr = m.hwPtr + n
  /-- Only an edit changes the ring. -/
  mapped : edited = false → m'.mapped = m.mapped
  /-- As many frames are played. -/
  plays : ∀ s, m.setup = some s →
    ∃ bytes, m'.played = m.played ++ bytes ∧ bytes.size = n * s.geometry.frameBytes
  /-- They are the frames that were pending. -/
  played : edited = false → ∀ s, m.setup = some s →
    m'.played = m.played ++ m.mapped.streamBytes s m.hwPtr n

/-- What is left of the pending frames is pending still. -/
theorem Rests.pending_add {edited : Bool} {n : Nat} (h : m.Rests edited n m') :
    m'.pending + n = m.pending := by
  have hle : n ≤ m.applPtr - m.hwPtr := h.le_pending
  simp only [pending, h.applPtr, h.hwPtr]
  omega

theorem Rests.trans {m'' : MemoryDevice} {edited edited' : Bool} {n n' : Nat}
    (h : m.Rests edited n m') (h' : m'.Rests edited' n' m'') :
    m.Rests (edited || edited') (n + n') m'' := by
  constructor
  · exact h'.state
  · exact h'.setup.trans h.setup
  · exact h'.applPtr.trans h.applPtr
  · have hle := h'.le_pending
    have hpending := h.pending_add
    omega
  · rw [h'.hwPtr, h.hwPtr, Nat.add_assoc]
  · intro hno
    obtain ⟨hno, hno'⟩ := Bool.or_eq_false_iff.mp hno
    exact (h'.mapped hno').trans (h.mapped hno)
  · intro s hsetup
    obtain ⟨bytes, hplayed, hsize⟩ := h.plays s hsetup
    obtain ⟨bytes', hplayed', hsize'⟩ := h'.plays s (h.setup.trans hsetup)
    refine ⟨bytes ++ bytes', ?_, ?_⟩
    · rw [hplayed', hplayed, Array.append_assoc]
    · rw [Array.size_append, hsize, hsize', Nat.add_mul]
  · intro hno s hsetup
    obtain ⟨hno, hno'⟩ := Bool.or_eq_false_iff.mp hno
    rw [h'.played hno' s (h.setup.trans hsetup), h.played hno s hsetup, h.mapped hno, h.hwPtr,
      streamBytes_add, Array.append_assoc]

section Rests

variable {edited : Bool} (hstate : m.state = .setup)
include hstate

/-- Nothing is played when only the ring and the settings change. -/
theorem rests_settings (ring : Memory) (nonblocking closed : Bool) (layout : RingLayout)
    (transferLimit : Option Nat) (fault : Option StreamError)
    (hring : edited = false → ring = m.ring) :
    m.Rests edited 0 { m with ring, nonblocking, closed, layout, transferLimit, fault } := by
  constructor
  · exact hstate
  · rfl
  · rfl
  · exact Nat.zero_le _
  · rfl
  · intro hno
    rw [hring hno]
    rfl
  · exact fun s _ => ⟨#[], Array.append_empty.symm, by simp⟩
  · exact fun _ s _ => by simp

theorem rests_of_eq (hsame : m' = m) : m.Rests edited 0 m' := by
  rw [hsame]
  exact rests_settings hstate m.ring m.nonblocking m.closed m.layout m.transferLimit m.fault
    fun _ => rfl

theorem not_ready_of_setup : ¬ m.Ready := by
  rintro (h | h)
  all_goals
    rw [hstate] at h
    cases h

/-- What refuses to move frames unless the stream is ready leaves the player at rest. -/
theorem rests_unless_ready {α : Type} {step : DeviceStep MemoryDevice α}
    (h : m.Refuses step ∨ m.Ready) : m.Rests edited 0 step.device := by
  obtain ⟨e, state, fault, rfl, rfl | ⟨hready, -⟩⟩ | hready := h
  · exact rests_settings hstate m.ring m.nonblocking m.closed m.layout m.transferLimit fault
      fun _ => rfl
  · exact absurd hready (not_ready_of_setup hstate)
  · exact absurd hready (not_ready_of_setup hstate)

theorem rests_stop : m.Rests edited 0 m.stop.device := by
  have hstop : m.stop.device = m := by
    simp only [stop, hstate]
    exact congrArg (fun state => { m with state }) hstate.symm
  exact rests_of_eq hstate hstop

theorem rests_start : m.Rests edited 0 m.start.device := by
  simp only [start, hstate]
  exact rests_of_eq hstate rfl

theorem rests_drain : m.Rests edited 0 m.drain.device := by
  simp only [drain, hstate]
  exact rests_of_eq hstate rfl

theorem rests_pause (enable : Bool) : m.Rests edited 0 (m.pause enable).device := by
  cases enable <;> simp only [pause, hstate] <;> exact rests_of_eq hstate rfl

theorem rests_availUpdate : m.Rests edited 0 (Device.availUpdate m).device := by
  simp only [Device.availUpdate]
  split <;> exact rests_of_eq hstate rfl

theorem rests_rewind (frames : Nat) : m.Rests edited 0 (m.rewind frames).device := by
  obtain hfault | ⟨planted, hfault⟩ := Option.eq_none_or_eq_some m.fault
  · obtain ⟨e, hstep⟩ | ⟨s, n, hsetup, -, -⟩ := rewind_of_no_fault hfault frames
    · rw [hstep]
      exact rests_of_eq hstate rfl
    · simp only [rewind, hfault, hsetup, hstate]
      exact rests_of_eq hstate rfl
  · rw [rewind_of_fault hfault]
    exact rests_settings hstate m.ring m.nonblocking m.closed m.layout m.transferLimit none
      fun _ => rfl

theorem rests_storeMapped (offset : Nat) (src : Bytes) :
    m.Rests true 0 (Device.storeMapped offset src m).device := by
  simp only [Device.storeMapped]
  split
  · exact rests_of_eq hstate rfl
  · split
    · exact rests_of_eq hstate rfl
    · exact rests_settings hstate _ m.nonblocking m.closed m.layout m.transferLimit m.fault
        Bool.noConfusion

theorem rests_poke (address : Nat) (value : UInt8) :
    m.Rests true 0 (Device.poke address value m).device := by
  simp only [Device.poke]
  split
  · exact rests_of_eq hstate rfl
  · exact rests_settings hstate _ m.nonblocking m.closed m.layout m.transferLimit m.fault
        Bool.noConfusion

theorem rests_consume (h : m.Intact) (frames : Nat) :
    ∃ n, m.Rests edited n (m.consume frames).device := by
  obtain ⟨⟨e, hstep⟩, -⟩ | ⟨s, hsetup, -, hstep⟩ := consume_cases h.laid frames
  · rw [hstep]
    exact ⟨0, rests_of_eq hstate rfl⟩
  · rw [hstep]
    have hplayed : ∀ s', m.setup = some s' →
        m.played ++ m.mapped.streamBytes s m.hwPtr (min frames m.pending) =
          m.played ++ m.mapped.streamBytes s' m.hwPtr (min frames m.pending) := by
      intro s' hsetup'
      obtain rfl := Option.some.inj (hsetup.symm.trans hsetup')
      rfl
    refine ⟨min frames m.pending, hstate, rfl, rfl, Nat.min_le_right _ _, rfl, fun _ => rfl, ?_,
      fun _ => hplayed⟩
    exact fun s' hsetup' => ⟨_, hplayed s' hsetup', size_streamBytes _ _⟩

theorem rests_inject (h : m.Intact) (hdirection : m.direction = .playback) (data : Bytes) :
    m.Rests edited 0 (m.inject data).device := by
  obtain ⟨e, hstep⟩ | ⟨s, n, ring, state, -, hcapture, -⟩ := inject_cases h data
  · rw [hstep]
    exact rests_of_eq hstate rfl
  · rw [hdirection] at hcapture
    cases hcapture

theorem rests_request (h : m.Intact) (hdirection : m.direction = .playback)
    (request : HardwareRequest) : ∃ n, m.Rests edited n (m.perform request).device := by
  cases request with
  | consume frames => exact rests_consume hstate h frames
  | inject data => exact ⟨0, rests_inject hstate h hdirection data⟩
  | _ => exact ⟨0, rests_settings hstate m.ring _ _ _ _ _ fun _ => rfl⟩

/-- An action after which the stream has not started anew leaves a stopped player at rest. -/
theorem rests_action (h : m.Intact) {action : Action} (hnot : action.startsAnew m = false) :
    m.Rests (Event.act action).edits 0 (action.after m) := by
  cases action with
  | poke address value => exact rests_poke hstate address value
  | ask request =>
      cases request with
      | setParams params =>
          exact rests_of_eq hstate ((Action.restarts_setParams m params).after_eq hnot)
      | prepare => exact rests_of_eq hstate ((Action.restarts_prepare h).after_eq hnot)
      | availUpdate => exact rests_availUpdate hstate
      | start => exact rests_start hstate
      | stop => exact rests_stop hstate
      | drain => exact rests_drain hstate
      | pause enable => exact rests_pause hstate enable
      | setNonblocking enable =>
          exact rests_settings hstate m.ring enable m.closed m.layout m.transferLimit m.fault
            fun _ => rfl
      | writeInterleaved buffer frames =>
          exact rests_unless_ready hstate ((writeInterleaved_cases h buffer frames).imp_right
            fun ⟨_, _, _, _, hgrants, _⟩ => hgrants.ready)
      | writePlanar buffers frames =>
          exact rests_unless_ready hstate ((writePlanar_cases h buffers frames).imp_right
            fun ⟨_, _, _, _, _, hgrants, _⟩ => hgrants.ready)
      | readInterleaved buffer frames =>
          exact rests_unless_ready hstate ((readInterleaved_cases h buffer frames).imp
            And.left fun ⟨_, _, _, hgrants, _⟩ => hgrants.ready)
      | readPlanar buffers frames =>
          exact rests_unless_ready hstate ((readPlanar_cases h buffers frames).imp
            And.left fun ⟨_, _, _, hgrants, _⟩ => hgrants.ready)
      | commit frames =>
          exact rests_unless_ready hstate ((m.commit_cases frames).imp_right
            fun ⟨_, _, hgrants, _⟩ => hgrants.ready)
      | rewind frames => exact rests_rewind hstate frames
      | storeMapped offset src => exact rests_storeMapped hstate offset src
      | _ => exact rests_of_eq hstate rfl

/-- Whatever happens to a player that was stopped, it is at rest unless the stream starts anew. -/
theorem rests_event (h : m.Intact) (hdirection : m.direction = .playback) {event : Event}
    (hnot : event.startsAnew m = false) : ∃ n, m.Rests event.edits n (event.after m) := by
  cases event with
  | act action => exact ⟨0, rests_action hstate h hnot⟩
  | drive request => exact rests_request hstate h hdirection request
  | close =>
      exact ⟨0, rests_settings hstate m.ring m.nonblocking true m.layout m.transferLimit m.fault
        fun _ => rfl⟩

end Rests

/-- A player that was stopped, and what became of the frames that were pending then. -/
structure Leftover where
  /-- The player now. -/
  device : MemoryDevice
  /-- Whether the stream has started anew. -/
  anew : Bool
  /-- Whether the mapped ring was changed in place. -/
  edited : Bool
  /-- How many of the frames are still pending. -/
  kept : Nat
  /-- How many of the frames were played. -/
  late : Nat

namespace Leftover

/-- A player is stopped. -/
def ofStop (m : MemoryDevice) : Leftover where
  device := m.stop.device
  anew := false
  edited := false
  kept := m.pending
  late := 0

/-- What an event does. The frames that are left are the first to be played and the last to be taken
back. -/
def next (left : Leftover) (event : Event) : Leftover :=
  let device := event.after left.device
  let played := device.hwPtr - left.device.hwPtr
  { device
    anew := left.anew || event.startsAnew left.device
    edited := left.edited || event.edits
    kept := min (left.kept - played) device.pending
    late := left.late + min left.kept played }

/-- What events do, one after another. -/
def run (left : Leftover) (events : List Event) : Leftover :=
  events.foldl next left

/-- Where no frames are left, none is played any more. -/
theorem run_of_gone {left : Leftover} (h : left.kept = 0) (events : List Event) :
    (left.run events).kept = 0 ∧ (left.run events).late = left.late := by
  induction events generalizing left with
  | nil => exact ⟨h, rfl⟩
  | cons event events ih =>
      have hkept : (left.next event).kept = 0 := by simp only [next, h, Nat.zero_sub, Nat.zero_min]
      have hlate : (left.next event).late = left.late := by
        simp only [next, h, Nat.zero_min, Nat.add_zero]
      obtain ⟨hkept', hlate'⟩ := ih hkept
      exact ⟨hkept', hlate'.trans hlate⟩

end Leftover

/-- The frames that were pending when `m` was stopped are accounted for. -/
structure Accounts (m : MemoryDevice) (left : Leftover) : Prop where
  /-- The device got here. -/
  reached : ∃ laid, Reached left.device laid
  /-- It is a player. -/
  direction : left.device.direction = .playback
  /-- Until the stream starts anew, the player is at rest and all that is pending was so before. -/
  rests : left.anew = false →
    m.Rests left.edited left.late left.device ∧ left.kept = left.device.pending
  /-- Once the stream has started anew, no frame is left. -/
  gone : left.anew = true → left.kept = 0

theorem device_stop_of_ok (hok : m.stop.result = .ok ()) :
    m.stop.device = { m with state := .setup } := by
  simp only [stop] at hok ⊢
  split at hok
  · cases hok
  · cases hok
  · rfl

theorem accounts_ofStop (h : Reached m laid) (hdirection : m.direction = .playback)
    (hok : m.stop.result = .ok ()) : m.Accounts (.ofStop m) := by
  constructor
  · exact ⟨_, .act (.ask .stop) h⟩
  · exact (h.direction_after (.ask .stop)).trans hdirection
  · intro _
    have hrests : m.Rests false 0 m.stop.device := by
      rw [device_stop_of_ok hok]
      exact ⟨rfl, rfl, rfl, Nat.zero_le _, rfl, fun _ => rfl,
        fun s _ => ⟨#[], Array.append_empty.symm, by simp⟩, fun _ s _ => by simp⟩
    exact ⟨hrests, hrests.pending_add.symm⟩
  · exact fun hanew => Bool.noConfusion hanew

theorem Accounts.next {left : Leftover} (h : m.Accounts left) (event : Event) :
    m.Accounts (left.next event) := by
  obtain ⟨laid, hreached⟩ := h.reached
  constructor
  · exact event.reached_after hreached
  · exact (event.direction_after hreached).trans h.direction
  · intro hanew
    obtain ⟨hanew, hnot⟩ := Bool.or_eq_false_iff.mp hanew
    obtain ⟨hrests, hkept⟩ := h.rests hanew
    obtain ⟨n, hevent⟩ := rests_event hrests.state hreached.sound.intact h.direction hnot
    have hplayed : (event.after left.device).hwPtr - left.device.hwPtr = n := by
      rw [hevent.hwPtr, Nat.add_sub_cancel_left]
    have hle := hevent.le_pending
    have hpending := hevent.pending_add
    have hlate : (left.next event).late = left.late + n := by
      simp only [Leftover.next, hplayed, hkept, Nat.min_eq_right hle]
    refine ⟨?_, ?_⟩
    · rw [hlate]
      exact hrests.trans hevent
    · change min (left.kept - ((event.after left.device).hwPtr - left.device.hwPtr))
        (event.after left.device).pending = (event.after left.device).pending
      omega
  · intro hanew
    obtain hanew | hstarts := Bool.or_eq_true_iff.mp hanew
    · exact (Leftover.run_of_gone (h.gone hanew) [event]).1
    · obtain ⟨happl, -⟩ := Event.start_of_startsAnew hreached.sound.intact hstarts
      have hpending : (event.after left.device).pending = 0 := by
        simp only [pending, happl, Nat.zero_sub]
      exact Nat.le_zero.mp (hpending ▸ Nat.min_le_right _ _)

theorem Accounts.run {left : Leftover} (h : m.Accounts left) (events : List Event) :
    m.Accounts (left.run events) := by
  induction events generalizing left with
  | nil => exact h
  | cons event events ih => exact ih (h.next event)

/-- A stop keeps the frames that are pending. Until the stream starts anew, each of them has either
been played since, and is played as it stands in the ring, or is played as soon as the hardware side
asks for it. From when the stream starts anew, none of them is played any more. -/
theorem pending_after_stop (h : Reached m laid) (hdirection : m.direction = .playback)
    (hok : m.stop.result = .ok ()) (events : List Event) :
    let left := (Leftover.ofStop m).run events
    (left.anew = false →
      m.Rests left.edited left.late left.device ∧ left.kept + left.late = m.pending ∧
        ∃ s, m.setup = some s ∧ ∀ frames, left.device.consume frames = .ok (min frames left.kept)
          { left.device with
            played := left.device.played ++
              left.device.mapped.streamBytes s left.device.hwPtr (min frames left.kept)
            hwPtr := left.device.hwPtr + min frames left.kept }) ∧
    (left.anew = true →
      left.kept = 0 ∧ ∀ more, (left.run more).late = left.late) := by
  intro left
  have haccounts : m.Accounts left := (accounts_ofStop h hdirection hok).run events
  refine ⟨fun hanew => ?_, fun hanew => ?_⟩
  · obtain ⟨hrests, hkept⟩ := haccounts.rests hanew
    obtain ⟨laid', hreached⟩ := haccounts.reached
    have hintact := hreached.sound.intact
    obtain ⟨s, hsetup⟩ := hintact.exists_setup (by rw [hrests.state]; decide)
    refine ⟨hrests, by rw [hkept, hrests.pending_add], s, hrests.setup ▸ hsetup, fun frames => ?_⟩
    obtain ⟨-, hnone | hcapture⟩ | ⟨s', hsetup', -, hconsume⟩ := consume_cases hintact.laid frames
    · rw [hsetup] at hnone
      cases hnone
    · rw [haccounts.direction] at hcapture
      cases hcapture
    · obtain rfl := Option.some.inj (hsetup.symm.trans hsetup')
      rw [hconsume, hkept]
  · have hgone := haccounts.gone hanew
    exact ⟨hgone, fun more => (Leftover.run_of_gone hgone more).2⟩

/-- A player that is given two frames and plays none. -/
def fullPlayer : MemoryDevice :=
  (Action.ask (.writeInterleaved #[1, 2] 2)).after readyPlayer

theorem reached_fullPlayer : Reached fullPlayer (some .interleaved) :=
  .act (.ask (.writeInterleaved #[1, 2] 2)) reached_readyPlayer

theorem result_stop_fullPlayer : fullPlayer.stop.result = .ok () := by
  have hstate : fullPlayer.state = .running := by decide +kernel
  simp only [stop, hstate]
  rfl

/-- Of two frames that were pending, one is played after the stop, and the other is lost when the
stream is made ready. -/
theorem pending_after_stop_split :
    let consumed := (Leftover.ofStop fullPlayer).run [.drive (.consume 1)]
    let anew := (Leftover.ofStop fullPlayer).run [.drive (.consume 1), .act (.ask .prepare)]
    fullPlayer.stop.result = .ok () ∧ fullPlayer.pending = 2 ∧
      consumed.late = 1 ∧ consumed.kept = 1 ∧ consumed.device.played = #[1] ∧
      fullPlayer.Rests false 1 consumed.device ∧
      anew.anew = true ∧ anew.kept = 0 ∧ ∀ more, (anew.run more).late = 1 := by
  intro consumed anew
  have hok := result_stop_fullPlayer
  have hdirection : fullPlayer.direction = .playback := by decide +kernel
  obtain ⟨hkeeps, -⟩ := pending_after_stop reached_fullPlayer hdirection hok [.drive (.consume 1)]
  obtain ⟨-, hloses⟩ := pending_after_stop reached_fullPlayer hdirection hok
    [.drive (.consume 1), .act (.ask .prepare)]
  have hnot : consumed.anew = false := by decide +kernel
  have hanew : anew.anew = true := by decide +kernel
  have hlate : consumed.late = 1 := by decide +kernel
  have hedited : consumed.edited = false := by decide +kernel
  have hrests : fullPlayer.Rests consumed.edited consumed.late consumed.device := (hkeeps hnot).1
  rw [hlate, hedited] at hrests
  have hlate' : anew.late = 1 := by decide +kernel
  refine ⟨hok, by decide +kernel, hlate, by decide +kernel, by decide +kernel, hrests, hanew,
    (hloses hanew).1, fun more => ?_⟩
  exact ((hloses hanew).2 more).trans hlate'

/-- A player that was stopped does not always play nothing until it is given frames again. -/
theorem not_forall_played_consume_stop_eq :
    ¬ ∀ (m : MemoryDevice) (laid : Option RingLayout) (frames : Nat), Reached m laid →
      m.direction = .playback → m.stop.result = .ok () →
        (m.stop.device.consume frames).device.played = m.played := by
  intro hall
  have hplayed := hall fullPlayer _ 2 reached_fullPlayer (by decide +kernel) result_stop_fullPlayer
  have hplays : (fullPlayer.stop.device.consume 2).device.played = #[1, 2] := by decide +kernel
  have hnone : fullPlayer.played = #[] := by decide +kernel
  rw [hplays, hnone] at hplayed
  exact absurd hplayed (by decide)

end FrameTee.MemoryDevice
