import FrameTee.Proofs.Stack.Lifetime
import FrameTee.Proofs.Stack.Lockstep
import FrameTee.Proofs.Storage.View

/-!
# Moving frames again after a rewind

Frames that were taken back can be moved again. Nothing has been lost then: a commit of as many
frames as a rewind took back leaves the device, and what is behind the sink, as they were before the
rewind, and so does a read of as many recorded frames, which gives the bytes that were recorded
(`TeeStack.rewind_then_transfer`). The commit or the read is one more transfer of the same frames
(`Retains`, `TeeStack.TakenBack.restores`); it may be split at the end of the ring in another way
than the transfers before it.
-/

namespace FrameTee

open MappedRing MemoryDevice

variable {μ η : Type} [Medium μ η] {s : StreamSetup} {m : MemoryDevice} {st : SinkState}
  {recorded : Bytes} {n frames : Nat}

/-- The sink holds, right before its position, the last `n` frames before the application as the
ring has them. -/
structure Retains (s : StreamSetup) (n : Nat) (m : MemoryDevice) (st : SinkState) : Prop where
  /-- The sink can be moved back over the frames. -/
  le_position : n * s.geometry.frameBytes ≤ st.position
  /-- If there are any, the sink is inside its bytes. -/
  inside : 0 < n → st.Inside
  /-- The bytes of the frames. -/
  copied : ∀ i < n * s.geometry.frameBytes,
    st.contents[st.position - n * s.geometry.frameBytes + i]? =
      some ((m.mapped.streamBytes s (m.applPtr - n) n).getD i 0)

namespace Retains

/-- The frames, as they are in the sink. -/
theorem extract_eq (h : Retains s n m st) :
    st.contents.extract (st.position - n * s.geometry.frameBytes) st.position =
      m.mapped.streamBytes s (m.applPtr - n) n := by
  have hle := h.le_position
  have hsize : (st.contents.extract (st.position - n * s.geometry.frameBytes) st.position).size =
      n * s.geometry.frameBytes := by
    rw [Array.size_extract]
    by_cases hn : 0 < n
    · have hinside : st.position ≤ st.contents.size := h.inside hn
      omega
    · obtain rfl : n = 0 := by omega
      omega
  apply Bytes.ext_getD
  · rw [hsize, size_streamBytes]
  · intro i hi
    rw [hsize] at hi
    have hinside : st.position ≤ st.contents.size := h.inside (Nat.pos_of_lt_mul_right hi)
    rw [Bytes.getD_extract (by omega) hinside, Array.getD_eq_getD_getElem?, h.copied i hi,
      Option.getD_some]

/-- Moving back over the frames and writing them again changes nothing. -/
theorem append_back (h : Retains s n m st) (hn : 0 < n) :
    (st.back (n * s.geometry.frameBytes)).append (m.mapped.streamBytes s (m.applPtr - n) n) =
      st := by
  have hsize : (m.mapped.streamBytes s (m.applPtr - n) n).size = n * s.geometry.frameBytes :=
    size_streamBytes _ _
  have hrewritten := SinkState.append_back (h.inside hn) (by rw [hsize]; exact h.le_position)
    (by rw [hsize]; exact h.copied)
  rw [hsize] at hrewritten
  exact hrewritten

end Retains

namespace TeeStack

variable {sink : Sink η} {stack : TeeStack MemoryDevice η} {w : World μ} {floor : Nat}
  {view : SinkView μ sink.handle}

/-- The sink of a tee that is in step retains all frames that can be taken back. Whether bytes are
missing before its first position makes no difference to that. -/
theorem Tracks.retains (h : stack.Tracks (view.padded floor) floor w s st recorded)
    (hn : n ≤ stack.device.rewindable s) :
    ∃ st, view.look w.media = some st ∧ Retains s n stack.device st := by
  obtain ⟨laid, hreached⟩ := h.reached
  obtain ⟨layout, hlaid⟩ := hreached.sound.intact.laid s h.setup
  obtain ⟨p₀, hfloor, hstep⟩ := h.inStep
  obtain ⟨st, hlook, rfl⟩ := Option.map_eq_some_iff.mp h.look
  refine ⟨st, hlook, ?_⟩
  by_cases hmoves : n = 0
  · subst hmoves
    constructor <;> simp
  have hwindow := hreached.sound.window s h.setup
  have hle := (window_back hwindow hn).1
  have hbytes : n * s.geometry.frameBytes ≤ stack.device.applPtr * s.geometry.frameBytes :=
    Nat.mul_le_mul_right _ hle
  have hpos : 0 < n * s.geometry.frameBytes :=
    Nat.mul_pos (Nat.pos_of_ne_zero hmoves) hlaid.supported.frameBytes_pos
  have hposition := hstep.position_eq
  have hpadded : st.padTo floor = st := by
    have hinside : (st.padTo floor).position ≤ (st.padTo floor).contents.size := hstep.inside
    rw [SinkState.size_padTo, hposition] at hinside
    apply SinkState.padTo_eq_self
    omega
  rw [hpadded] at hstep hposition
  constructor
  · omega
  · exact fun _ => hstep.inside
  · intro i hi
    have hfirst : stack.device.firstHeld s * s.geometry.frameBytes ≤
        (stack.device.applPtr - n) * s.geometry.frameBytes := by
      apply Nat.mul_le_mul_right
      rw [rewindable_eq] at hn
      omega
    have hstart : (stack.device.applPtr - n) * s.geometry.frameBytes =
        stack.device.applPtr * s.geometry.frameBytes - n * s.geometry.frameBytes :=
      Nat.sub_mul _ _ _
    have hindex : st.position - n * s.geometry.frameBytes + i =
        p₀ + ((stack.device.applPtr - n) * s.geometry.frameBytes + i) := by omega
    rw [hindex, getD_streamBytes hi]
    exact hstep.copied _ (by omega) (by omega)

/-- A tee and what is behind its sink after `n` frames were taken back; before that the device was
`m`, and what was behind the sink was `st`. -/
structure TakenBack (view : SinkView μ sink.handle) (s : StreamSetup) (n : Nat) (m : MemoryDevice)
    (st : SinkState) (back : TeeStack MemoryDevice η) (w : World μ) : Prop where
  /-- The device was in order. -/
  intact : m.Intact
  /-- Parameters were set. -/
  setup : m.setup = some s
  /-- The frames could be taken back. -/
  le_rewindable : n ≤ m.rewindable s
  /-- If there were any, the stream was running. -/
  running : 0 < n → m.state = .running
  /-- The sink held them. -/
  retains : Retains s n m st
  /-- The device has moved back. -/
  device : back.device = m.rewound n
  /-- There is one tee. -/
  tees : back.TeesTo sink
  /-- Its sink has moved back. -/
  look : view.look w.media = some (st.back (n * s.geometry.frameBytes))

/-- A rewind that a tee in step answers with a count has taken frames back that its sink holds. -/
theorem Tracks.takenBack (h : stack.Tracks (view.padded floor) floor w s st recorded)
    (hready : stack.device.Ready) (hok : (stack.rewind frames w).result = .ok n) :
    ∃ st, view.look w.media = some st ∧
      TakenBack view s n stack.device st (stack.rewind frames w).stack
        (stack.rewind frames w).world := by
  obtain ⟨hn, hstep⟩ := rewind_eq_ok h.setup (result_of_recorded_eq_ok hok)
  obtain ⟨st, hlook, hretains⟩ := h.retains hn
  obtain ⟨laid, hreached⟩ := h.reached
  obtain ⟨layer, hlayers, rfl⟩ := h.tees
  have hintact := hreached.sound.intact
  have hwindow := hintact.window s h.setup
  obtain ⟨layout, hlaid⟩ := hintact.laid s h.setup
  have hdoes := Layer.does_recordRewind (μ := μ) (η := η) (m := stack.device.rewound n) h.setup
    hlaid.supported (Nat.le_trans hn (rewindable_le_bufferSize hwindow))
  have hmoved : (stack.rewind frames w).stack.TeesTo layer.sink ∧
      view.look (stack.rewind frames w).world.media =
        some (st.back (n * s.geometry.frameBytes)) := by
    rw [rewind, hlayers] at hok ⊢
    apply look_recorded view hstep hdoes _ hlook hretains.inside
    · intro e herror
      exact absurd (hok.symm.trans herror) nofun
    · rintro rfl
      rw [Nat.zero_mul]
      rfl
  refine ⟨st, hlook, hintact, h.setup, hn, ?_, hretains, ?_, hmoved.1, hmoved.2⟩
  · -- A stream that is only ready to start has no frames to take back.
    intro hpos
    obtain hprepared | hrunning := hready
    · have hzero := hreached.sound.applPtr_of_prepared hprepared
      have hle := (window_back hwindow hn).1
      omega
    · exact hrunning
  · rw [rewind, device_recorded]
    exact congrArg DeviceStep.device hstep

/-- A transfer puts the device and what is behind a sink back, provided that the sink accepts in
full all that it is given. -/
def Restores (outcome : StackOutcome MemoryDevice (Traced μ η) η Nat)
    (view : SinkView μ sink.handle) (calls₀ : List (MediumCall η)) (n : Nat) (m : MemoryDevice)
    (st : SinkState) : Prop :=
  ∃ calls, outcome.world.media.calls = calls₀ ++ calls ∧
    ((∀ call ∈ calls, call.isFullWrite = true) → outcome.result = .ok n ∧
      outcome.stack.device = m ∧ view.look outcome.world.media.media = some st)

namespace TakenBack

variable {back : TeeStack MemoryDevice η} {w : World (Traced μ η)}
  (h : TakenBack view.traced s n m st back w)
include h

/-- A transfer of the frames that were taken back, as they are in the ring, puts everything back. -/
theorem restores {action : Action} {transfer : Transfer MemoryDevice (Traced μ η) η}
    (htransfer : action.transfer? (Traced μ η) η back.device = some transfer)
    (hstep : transfer.step = .ok n m) :
    Restores (TeeStack.recorded back.layers transfer.step transfer.recording w) view w.media.calls n
      m st := by
  have hresult : transfer.step.result = .ok n := congrArg DeviceStep.result hstep
  have hlook := h.look
  by_cases hmoves : 0 < n
  · rw [h.device] at htransfer
    have hintact := h.intact.rewound h.setup h.le_rewindable
    have hmoved : transfer.step = .ok n ((m.rewound n).advanced n m.ring) := by
      rw [advanced_rewound (window_back (h.intact.window s h.setup) h.le_rewindable).1 h.running]
      exact hstep
    obtain ⟨_, _, result, calls, -, -, hanswer, hcalls, hlockstep⟩ :=
      lockstep_recorded hintact htransfer hresult hmoves back.layers w
    refine ⟨calls, hcalls, ?_⟩
    intro hfull
    rw [hlockstep.eq_ok hfull] at hanswer
    refine ⟨hanswer, ?_, ?_⟩
    · rw [device_recorded]
      exact congrArg DeviceStep.device hstep
    · obtain ⟨layer, hlayers, rfl⟩ := h.tees
      have hdoes := (transfer_outcome hintact htransfer).does_append h.setup hmoves hmoved
      rw [hlayers] at hanswer ⊢
      have hwritten := (look_recorded view.traced hmoved hdoes
        (fun hzero => absurd hzero (Nat.ne_of_gt hmoves)) hlook
        (fun _ => SinkState.inside_back (h.retains.inside hmoves) _)
        (fun e herror => absurd (hanswer.symm.trans herror) nofun)).2
      exact hwritten.trans (congrArg some (h.retains.append_back hmoves))
  · -- Nothing was taken back, so nothing is moved and the sink is not asked.
    obtain rfl : n = 0 := by omega
    have hstill : ∀ k, transfer.step.result = .ok k → k = 0 :=
      fun k hk => (Except.ok.inj (hresult.symm.trans hk)).symm
    rw [recorded_of_still hstill]
    refine ⟨[], (List.append_nil _).symm, ?_⟩
    intro _
    rw [Nat.zero_mul] at hlook
    exact ⟨hresult, congrArg DeviceStep.device hstep, hlook⟩

variable (hunhindered : m.Unhindered s)
include hunhindered

theorem restores_commit : Restores (back.commit n w) view w.media.calls n m st := by
  have hstep : Device.commit n back.device = .ok n m := by
    rw [h.device]
    exact hunhindered.commit_rewound h.intact h.le_rewindable h.running
  have htransfer : (Action.ask (.commit n)).transfer? (Traced μ η) η back.device =
      some ⟨Device.commit n back.device, Layer.recordCommit back.device.applPtr⟩ := rfl
  exact h.restores htransfer hstep

variable (hdirection : m.direction = .capture) {buffer : Bytes}
  (hbuffer : n * s.geometry.frameBytes ≤ buffer.size)
include hdirection hbuffer

theorem readInterleaved_eq : Device.readInterleaved buffer n back.device =
    (.ok n m, Bytes.blit (m.mapped.streamBytes s (m.applPtr - n) n) 0 buffer 0
      (n * s.geometry.frameBytes)) := by
  rw [h.device]
  exact hunhindered.readInterleaved_rewound h.intact h.le_rewindable h.running hdirection hbuffer

theorem restores_readInterleaved :
    Restores (back.readInterleaved buffer n w).1 view w.media.calls n m st := by
  have hread := h.readInterleaved_eq hunhindered hdirection hbuffer
  have htransfer : (Action.ask (.readInterleaved buffer n)).transfer? (Traced μ η) η back.device =
      some ⟨(Device.readInterleaved buffer n back.device).1,
        Layer.recordInterleaved (Device.readInterleaved buffer n back.device).2⟩ := rfl
  exact h.restores htransfer (congrArg Prod.fst hread)

theorem buffer_readInterleaved : (back.readInterleaved buffer n w).2 =
    Bytes.blit (m.mapped.streamBytes s (m.applPtr - n) n) 0 buffer 0
      (n * s.geometry.frameBytes) := by
  have hread := h.readInterleaved_eq hunhindered hdirection hbuffer
  exact congrArg Prod.snd hread

/-- The frames that were taken back are read at the start of the buffer. -/
theorem extract_readInterleaved :
    (back.readInterleaved buffer n w).2.extract 0 (n * s.geometry.frameBytes) =
      m.mapped.streamBytes s (m.applPtr - n) n := by
  have hsize : (m.mapped.streamBytes s (m.applPtr - n) n).size = n * s.geometry.frameBytes :=
    size_streamBytes _ _
  rw [h.buffer_readInterleaved hunhindered hdirection hbuffer, ← hsize]
  exact Bytes.extract_blit _ _ (by rwa [hsize])

/-- The rest of the buffer is left as it is. -/
theorem getElem?_readInterleaved {i : Nat} (hi : n * s.geometry.frameBytes ≤ i) :
    (back.readInterleaved buffer n w).2[i]? = buffer[i]? := by
  rw [h.buffer_readInterleaved hunhindered hdirection hbuffer, Bytes.getElem?_blit,
    if_neg (by omega)]

end TakenBack

/-- A tee over a stream that has just been made ready is in step, with any sink. -/
theorem tracks_start {m : MemoryDevice} {laid : Option RingLayout} {layer : Layer η}
    (view : SinkView μ layer.sink.handle) {w₀ : World μ} (hreached : Reached m laid)
    (hprepare : m.prepare.result = .ok ()) (hlook : view.look w₀.media = some st) :
    ∃ s, Tracks (view.padded st.position) st.position ⟨[layer], m.prepare.device⟩ w₀ s
      (st.padTo st.position) #[] := by
  obtain ⟨⟨s, hsetup⟩, hready⟩ := hreached.sound.intact.prepared_of_prepare hprepare
  have hinside : (st.padTo st.position).Inside := by
    rw [SinkState.Inside, SinkState.size_padTo]
    exact Nat.le_max_right _ _
  refine ⟨s, ⟨_, .act (.ask .prepare) hreached⟩, ?_, ⟨layer, rfl, rfl⟩, ?_, st.position,
    Nat.le_refl _, ?_⟩
  · change m.prepare.device.setup = some s
    rw [hready]
    exact hsetup
  · change (view.look w₀.media).map (·.padTo st.position) = _
    rw [hlook]
    rfl
  · apply InStep.start hinside <;> rw [hready]

/-- In a lifetime of a tee over a memory device that began when the stream was made ready, a rewind
that is answered with a count can be undone, as long as nothing hinders transfers and the sink
accepts what it is given: a commit of as many frames is answered with that count and leaves the
device, the bytes behind the sink and its position as they were before the rewind. A recorder can
read the frames instead. It is given the bytes that it was given before, which are those that were
recorded and those that the sink holds before its position, and the rest of the buffer is left as it
is. -/
theorem rewind_then_transfer {m : MemoryDevice} {laid : Option RingLayout} {layer : Layer η}
    (view : SinkView μ layer.sink.handle) {stack : TeeStack MemoryDevice η}
    {w₀ w : World (Traced μ η)} {st₀ : SinkState} {recorded : Bytes} {frames n : Nat}
    (hreached : Reached m laid) (hprepare : m.prepare.result = .ok ())
    (hlook : view.look w₀.media.media = some st₀)
    (h : Lifetime ⟨[layer], m.prepare.device⟩ w₀ stack w recorded) (hready : stack.device.Ready)
    (hfault : stack.device.fault = none) (hlimit : stack.device.transferLimit = none)
    (hrewind : (stack.rewind frames w).result = .ok n) :
    let back := stack.rewind frames w
    ∃ s st, stack.device.setup = some s ∧ view.look w.media.media = some st ∧
      n ≤ stack.device.applPtr ∧ n * s.geometry.frameBytes ≤ st.position ∧
      Restores (back.stack.commit n back.world) view back.world.media.calls n stack.device st ∧
      (stack.device.direction = .capture → ∀ buffer : Bytes,
        n * s.geometry.frameBytes ≤ buffer.size →
          let read := back.stack.readInterleaved buffer n back.world
          Restores read.1 view back.world.media.calls n stack.device st ∧
            read.2.extract 0 (n * s.geometry.frameBytes) =
              recorded.extract ((stack.device.applPtr - n) * s.geometry.frameBytes)
                (stack.device.applPtr * s.geometry.frameBytes) ∧
            read.2.extract 0 (n * s.geometry.frameBytes) =
              st.contents.extract (st.position - n * s.geometry.frameBytes) st.position ∧
            ∀ i, n * s.geometry.frameBytes ≤ i → read.2[i]? = buffer[i]?) := by
  intro back
  obtain ⟨s₀, hstart⟩ := tracks_start view.traced hreached hprepare hlook
  obtain ⟨s, _, htracks⟩ := h.keeps hstart
  obtain ⟨st, hst, htaken⟩ := htracks.takenBack hready hrewind
  have hunhindered : stack.device.Unhindered s := ⟨htracks.setup, hready, hfault, hlimit⟩
  have hwindow := htaken.intact.window s htracks.setup
  refine ⟨s, st, htracks.setup, hst, (window_back hwindow htaken.le_rewindable).1,
    htaken.retains.le_position, htaken.restores_commit hunhindered, ?_⟩
  intro hcapture buffer hbuffer
  have hread := htaken.extract_readInterleaved hunhindered hcapture hbuffer
  obtain ⟨p₀, -, hstep⟩ := htracks.inStep
  refine ⟨htaken.restores_readInterleaved hunhindered hcapture hbuffer, ?_, ?_, ?_⟩
  · exact hread.trans (hstep.streamBytes_eq hwindow hcapture htaken.le_rewindable)
  · exact hread.trans htaken.retains.extract_eq.symm
  · exact fun i hi => htaken.getElem?_readInterleaved hunhindered hcapture hbuffer hi

/-- A tee over a recorder of four frames that lie channel by channel, with a writer that holds two
bytes and stands five bytes further on. Six frames are recorded in two parts, five of them are read,
and the three of these that the ring still holds are taken back. A commit of the three frames, which
are split at the end of the ring, gives everything back, and so does a read, which tells them once
more. -/
theorem rewind_then_transfer_round_the_end :
    let sink : Sink Handle := .ofWriter "copy" (.writer 0)
    let w₀ : World (Traced Storage Handle) :=
      { media := { media := { writers := #[{ data := #[9, 9], position := 7 }] } } }
    let m : MemoryDevice := (Action.ask (.setParams ⟨.u8, 2, 8000, 4⟩)).after
      ((new "hw" .capture).withLayout .planar)
    let stack₀ : TeeStack MemoryDevice Handle := ⟨[⟨sink, true, .capture, {}⟩], m.prepare.device⟩
    let buffer := Bytes.zeros 8
    let a := stack₀.pass (MemoryDevice.perform (.inject #[1, 2, 3, 4, 5, 6])) w₀
    let b := a.stack.act (.ask (.readInterleaved buffer 3)) a.world
    let c := b.stack.pass (MemoryDevice.perform (.inject #[7, 8, 9, 10, 11, 12])) b.world
    let d := c.stack.act (.ask (.readInterleaved buffer 2)) c.world
    let back := d.stack.rewind 5 d.world
    let commit := back.stack.commit 3 back.world
    let read := back.stack.readInterleaved buffer 3 back.world
    back.result = .ok 3 ∧ back.stack.device.applPtr = 2 ∧
      commit.result = .ok 3 ∧ commit.stack.device = d.stack.device ∧
      (Storage.view (.writer 0)).look commit.world.media.media =
        (Storage.view (.writer 0)).look d.world.media.media ∧
      read.1.result = .ok 3 ∧ read.1.stack.device = d.stack.device ∧
      (Storage.view (.writer 0)).look read.1.world.media.media =
        (Storage.view (.writer 0)).look d.world.media.media ∧
      read.2.extract 0 6 = #[5, 6, 7, 8, 9, 10] ∧ read.2[6]? = some 0 := by
  intro sink w₀ m stack₀ buffer a b c d back commit read
  have hreached : Reached m (some .planar) :=
    .act (.ask (.setParams ⟨.u8, 2, 8000, 4⟩)) (.drive (.setLayout .planar) (.new "hw" .capture))
  have ha : Lifetime stack₀ w₀ a.stack a.world _ :=
    Lifetime.start.drive (.inject #[1, 2, 3, 4, 5, 6])
  have hb := ha.act_of_isOk (.ask (.readInterleaved buffer 3)) trivial (by decide +kernel)
  have hc := hb.drive (.inject #[7, 8, 9, 10, 11, 12])
  obtain ⟨_, rfl, hd⟩ : ∃ recorded, recorded = #[1, 2, 3, 4, 5, 6, 7, 8, 9, 10, 11, 12] ∧
      Lifetime stack₀ w₀ d.stack d.world recorded :=
    ⟨_, by decide +kernel,
      hc.act_of_isOk (.ask (.readInterleaved buffer 2)) trivial (by decide +kernel)⟩
  have hback : back.result = .ok 3 := eq_ok_of_toOption (by decide +kernel)
  obtain ⟨s, st, hsetup, hlook, -, -, ⟨calls, hcalls, hcommit⟩, hread⟩ :=
    rewind_then_transfer (Storage.view (.writer 0)) hreached rfl rfl hd (.inr (by decide +kernel))
      (by decide +kernel) (by decide +kernel) hback
  have hsetup' : d.stack.device.setup = some ⟨⟨2, .u8⟩, 8000, 4⟩ := by decide +kernel
  obtain rfl := Option.some.inj (hsetup'.symm.trans hsetup)
  obtain ⟨⟨calls', hcalls', hagain⟩, hgiven, -, hrest⟩ :=
    hread (by decide +kernel) buffer (by decide)
  have hfull : ∀ call ∈ calls, call.isFullWrite = true := by
    have hdrop : calls = commit.world.media.calls.drop back.world.media.calls.length := by
      rw [hcalls, List.drop_left]
    rw [← List.all_eq_true, hdrop]
    decide +kernel
  have hfull' : ∀ call ∈ calls', call.isFullWrite = true := by
    have hdrop : calls' = read.1.world.media.calls.drop back.world.media.calls.length := by
      rw [hcalls', List.drop_left]
    rw [← List.all_eq_true, hdrop]
    decide +kernel
  obtain ⟨hcount, hdevice, hsame⟩ := hcommit hfull
  obtain ⟨hcount', hdevice', hsame'⟩ := hagain hfull'
  have hmoved : d.stack.device.applPtr = 5 := by decide +kernel
  rw [hmoved] at hgiven
  exact ⟨hback, by decide +kernel, hcount, hdevice, hsame.trans hlook.symm, hcount', hdevice',
    hsame'.trans hlook.symm, hgiven, (hrest 6 (Nat.le_refl _)).trans rfl⟩

end TeeStack

end FrameTee
