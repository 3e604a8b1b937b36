import FrameTee.Device.Scripted
import FrameTee.Proofs.Area.Interleaving
import FrameTee.Proofs.Stack.Answers
import FrameTee.Proofs.Stack.Asking
import FrameTee.Storage.Basic

/-!
# Transfers of buffers over any stream

A tee over a stream that may answer whatever it likes: more frames than it was asked for, or than
the buffers of the caller hold, and any geometry. What the stream has answered decides what the tee
does. An error, and no frames, are passed on. Frames that the buffers do hold are written with one
call, in interleaved form and as they lie in the buffers after the transfer (`Layer.Writes`); where
the buffers do not hold them the tee fails without a call (`TeeStack.perform_bufferTransfer`).

There is one case in which it does not even answer. Frames of several buffers have to be copied, and
before it looks at the buffers the copy asks for room. If the stream has claimed more frames than
there can be room for, the call ends there (`CallerBuffers.Burst`).

## Implementation notes

The stream below is given as tees over a device. Without tees it is the device alone, and its answer
is whatever the device answers.
-/

namespace FrameTee

variable {δ μ η : Type} [Device δ] [Medium μ η]

/-- The buffers of a caller. -/
inductive CallerBuffers where
  /-- One interleaved buffer. -/
  | interleaved (buffer : Bytes)
  /-- One buffer per channel. -/
  | planar (buffers : Array Bytes)

namespace CallerBuffers

/-- The buffers of a caller after a call, which may have filled them. -/
def after (buffers : CallerBuffers) : ReadBuffers → CallerBuffers
  | .none => buffers
  | .interleaved buffer => interleaved buffer
  | .planar buffers => planar buffers

/-- The buffers hold `n` frames: there are as many bytes, or there is one buffer per channel and as
many samples in each. -/
def Hold (g : FrameGeometry) (n : Nat) : CallerBuffers → Prop
  | interleaved buffer => n * g.frameBytes ≤ buffer.size
  | planar buffers => buffers.size = g.channelCount ∧
      ∀ (c : Nat) (buffer : Bytes), buffers[c]? = some buffer → n * g.sampleBytes ≤ buffer.size

/-- `flat` are the first `n` frames of the buffers, in interleaved form. -/
def Lead (g : FrameGeometry) (n : Nat) (flat : Bytes) : CallerBuffers → Prop
  | interleaved buffer => flat = buffer.extract 0 (n * g.frameBytes)
  | planar buffers => Interleaves g buffers n flat

/-- No room can be made for `n` frames of the buffers in interleaved form. There are several, one
for each channel, so the frames have to be copied, and their bytes can be counted but are too many
to be held. -/
def Burst (g : FrameGeometry) (n : Nat) : CallerBuffers → Prop
  | interleaved _ => False
  | planar buffers => buffers.size = g.channelCount ∧ 1 < buffers.size ∧
      Bytes.maxSize < n * g.frameBytes ∧ n * g.frameBytes < Count.limit

/-- The buffers hold `n` frames of the geometry that a device reports, and their bytes can be
counted. -/
structure Supply (buffers : CallerBuffers) (g : FrameGeometry) (n : Nat) (device : δ) : Prop where
  /-- The device reports the geometry. -/
  geometry : Device.geometry device = .ok g
  /-- The bytes can be counted. -/
  lt : n * g.frameBytes < Count.limit
  /-- The buffers hold the frames. -/
  hold : buffers.Hold g n

/-- What a tee records of the buffers. -/
def recording : CallerBuffers → δ → Nat → Recording μ η
  | interleaved buffer => Layer.recordInterleaved buffer
  | planar buffers => Layer.recordPlanar buffers

variable {g : FrameGeometry} {n : Nat} {buffers : CallerBuffers} {device : δ}

/-- The copy of planar buffers that have to be copied goes without an answer if they burst, and only
then. -/
theorem copyInterleaved_eq_capacityOverflow_iff {buffers : Array Bytes} :
    (ChannelAreas.planar buffers g).copyInterleaved g 0 n = .error .capacityOverflow ↔
      (planar buffers).Burst g n := by
  rw [ChannelAreas.copyInterleaved_eq_capacityOverflow_iff, ChannelAreas.size_areas_planar]
  constructor
  · rintro ⟨hcount, hlt, hroom⟩
    obtain ⟨hseveral, hmany⟩ := (ChannelAreas.not_hasRoom_planar_iff hcount).mp hroom
    exact ⟨hcount, hseveral, hmany, hlt⟩
  · rintro ⟨hcount, hseveral, hmany, hlt⟩
    exact ⟨hcount, hlt, (ChannelAreas.not_hasRoom_planar_iff hcount).mpr ⟨hseveral, hmany⟩⟩

/-- Frames that the buffers hold are recorded in interleaved form, if there is room for them. -/
theorem Supply.recording_eq (h : buffers.Supply g n device) (hburst : ¬ buffers.Burst g n)
    (hn : 0 < n) :
    ∃ flat, buffers.Lead g n flat ∧ flat.size = n * g.frameBytes ∧
      (buffers.recording device n : Recording μ η) = Layer.record flat n := by
  obtain ⟨hgeometry, hlt, hhold⟩ := h
  cases buffers with
  | interleaved buffer =>
      have hdata : (Device.geometry device >>= (Layer.leadingFrames · buffer n)) =
          .ok (buffer.extract 0 (n * g.frameBytes)) := by
        rw [hgeometry]
        exact Layer.leadingFrames_eq_ok_iff.mpr ⟨hlt, hhold, rfl⟩
      refine ⟨_, rfl, ?_, ?_⟩
      · rw [Array.size_extract, Nat.min_eq_left hhold, Nat.sub_zero]
      · funext layer w
        rw [recording, Layer.recordInterleaved, hdata]
  | planar buffers =>
      obtain ⟨hcount, hlong⟩ := hhold
      have hroom : (ChannelAreas.planar buffers g).HasRoom g n := by
        by_contra hnone
        obtain ⟨hseveral, hmany⟩ := (ChannelAreas.not_hasRoom_planar_iff hcount).mp hnone
        exact hburst ⟨hcount, hseveral, hmany, hlt⟩
      obtain ⟨flat, hcopy⟩ :=
        ChannelAreas.exists_copyInterleaved_planar_eq_ok hn hcount hlong hlt hroom
      obtain ⟨-, hflat⟩ := ChannelAreas.interleaves_of_copyInterleaved_eq_ok hn hcopy
      refine ⟨flat, hflat, hflat.size, ?_⟩
      funext layer w
      simp only [recording, Layer.recordPlanar, hgeometry, hcopy]

/-- Frames that the buffers do not hold, or for which there is no room, are refused. There is an
answer unless they burst. -/
theorem recording_of_not_supply (hn : 0 < n)
    (h : ∀ g, buffers.Supply g n device → buffers.Burst g n) :
    ∃ e, (∀ layer w,
        (buffers.recording device n : Recording μ η) layer w = (.error e, layer, w)) ∧
      (Device.Answers device → (e.isAnswer = false ↔
        ∃ g, Device.geometry device = .ok g ∧ buffers.Burst g n)) := by
  cases buffers with
  | interleaved buffer =>
      cases hdata : Device.geometry device >>= (Layer.leadingFrames · buffer n) with
      | error e =>
          refine ⟨e, fun layer w => ?_, fun hanswers => ?_⟩
          · rw [recording, Layer.recordInterleaved, hdata]
          · simp [Layer.isAnswer_of_geometry_leadingFrames hanswers hdata, Burst]
      | ok data =>
          cases hgeometry : Device.geometry device with
          | error e =>
              rw [hgeometry] at hdata
              cases hdata
          | ok g =>
              rw [hgeometry] at hdata
              obtain ⟨hlt, hsize, -⟩ := Layer.leadingFrames_eq_ok_iff.mp hdata
              exact (h g ⟨hgeometry, hlt, hsize⟩).elim
  | planar buffers =>
      cases hgeometry : Device.geometry device with
      | error e =>
          refine ⟨e, fun layer w => ?_, fun hanswers => ?_⟩
          · simp only [recording, Layer.recordPlanar, hgeometry]
          · simp [hanswers.geometry hgeometry]
      | ok g =>
          cases hcopy : (ChannelAreas.planar buffers g).copyInterleaved g 0 n with
          | error fault =>
              refine ⟨.area fault, fun layer w => ?_, fun _ => ?_⟩
              · simp only [recording, Layer.recordPlanar, hgeometry, hcopy]
              · rw [StreamError.isAnswer, AreaError.isAnswer_eq_false_iff]
                simp only [Except.ok.injEq, exists_eq_left',
                  ← copyInterleaved_eq_capacityOverflow_iff, hcopy, Except.error.injEq]
          | ok data =>
              obtain ⟨hlt, hflat⟩ :=
                ChannelAreas.interleaves_of_copyInterleaved_eq_ok hn hcopy
              have hburst := h g ⟨hgeometry, hlt, hflat.count, hflat.long⟩
              rw [← copyInterleaved_eq_capacityOverflow_iff, hcopy] at hburst
              cases hburst

end CallerBuffers

/-- A transfer between a stream and buffers of the caller. -/
inductive BufferTransfer where
  /-- To write up to a number of frames. -/
  | write (buffers : CallerBuffers) (frames : Nat)
  /-- To read up to a number of frames. -/
  | read (buffers : CallerBuffers) (frames : Nat)

namespace BufferTransfer

/-- The buffers of the caller before the call. -/
def buffers : BufferTransfer → CallerBuffers
  | write buffers _ | read buffers _ => buffers

/-- The transfer as a request. -/
def request : BufferTransfer → Request
  | write (.interleaved buffer) frames => .writeInterleaved buffer frames
  | write (.planar buffers) frames => .writePlanar buffers frames
  | read (.interleaved buffer) frames => .readInterleaved buffer frames
  | read (.planar buffers) frames => .readPlanar buffers frames

/-- A transfer of buffers under any tees is a step of the device, which also fills the buffers, and
what the tees record of the buffers after it. -/
theorem exists_perform_eq (transfer : BufferTransfer) (device : δ) :
    ∃ (step : DeviceStep δ Nat) (filled : ReadBuffers), ∀ (layers : List (Layer η)) (w : World μ),
      (TeeStack.mk layers device).perform transfer.request w =
        let outcome := TeeStack.recorded layers step (transfer.buffers.after filled).recording w
        ⟨⟨outcome.result.map .count, filled⟩, outcome.stack, outcome.world⟩ := by
  cases transfer with
  | write buffers frames =>
      cases buffers with
      | interleaved buffer =>
          exact ⟨Device.writeInterleaved buffer frames device, .none, fun _ _ => rfl⟩
      | planar buffers => exact ⟨Device.writePlanar buffers frames device, .none, fun _ _ => rfl⟩
  | read buffers frames =>
      cases buffers with
      | interleaved buffer =>
          exact ⟨(Device.readInterleaved buffer frames device).1,
            .interleaved (Device.readInterleaved buffer frames device).2, fun _ _ => rfl⟩
      | planar buffers =>
          exact ⟨(Device.readPlanar buffers frames device).1,
            .planar (Device.readPlanar buffers frames device).2, fun _ _ => rfl⟩

section Cons

variable (transfer : BufferTransfer) (outer : Layer η) (inner : List (Layer η)) (device : δ)
  (w : World μ)

/-- What the tees below have answered with an error, or with no frames, the tee above passes on. -/
theorem perform_cons_of_still :
    let below := (TeeStack.mk inner device).perform transfer.request w
    (∀ n, below.reply.result = .ok (.count n) → n = 0) →
      (TeeStack.mk (outer :: inner) device).perform transfer.request w =
        { below with stack := ⟨outer :: below.stack.layers, below.stack.device⟩ } := by
  obtain ⟨step, filled, hperform⟩ := transfer.exists_perform_eq (μ := μ) (η := η) device
  rw [hperform inner w, hperform (outer :: inner) w]
  intro below hstill
  dsimp only
  rw [TeeStack.recorded_cons_of_still fun n hn => hstill n (congrArg (Except.map _) hn)]

/-- What the tees below have answered with frames, the tee above records over what they left. -/
theorem perform_cons_of_moved {n : Nat} (hn : 0 < n) :
    let below := (TeeStack.mk inner device).perform transfer.request w
    let own := (transfer.buffers.after below.reply.buffers).recording below.stack.device n outer
      below.world
    below.reply.result = .ok (.count n) →
      (TeeStack.mk (outer :: inner) device).perform transfer.request w =
        ⟨⟨own.1.map fun _ => .count n, below.reply.buffers⟩,
          ⟨own.2.1 :: below.stack.layers, below.stack.device⟩, own.2.2⟩ := by
  obtain ⟨step, filled, hperform⟩ := transfer.exists_perform_eq (μ := μ) (η := η) device
  rw [hperform inner w, hperform (outer :: inner) w]
  intro below own hcount
  have hbelow : (TeeStack.recorded inner step
      (transfer.buffers.after filled).recording w).result = .ok n := by
    obtain ⟨k, hk, hcounts⟩ := exists_of_map_eq_ok hcount
    rw [hk, Value.count.inj hcounts]
  dsimp only
  rw [TeeStack.recorded_cons hbelow hn]
  change Performed.mk ⟨(own.1.map fun _ => n).map .count, filled⟩ _ _ = _
  cases own.1 <;> rfl

end Cons

end BufferTransfer

namespace Layer

/-- What comes of `n` frames with the bytes `flat` at a tee. Frames without bytes are counted and
nothing is asked of the medium; other bytes are written with one call, and the tee answers with the
frames and counts them if all bytes were taken, and with the error of its sink if not. -/
inductive Writes (g : FrameGeometry) (flat : Bytes) (n : Nat) (layer : Layer η) (t : Traced μ η) :
    Except StreamError Value → Layer η → Traced μ η → Prop where
  | nothing (hbytes : g.frameBytes = 0) :
      Writes g flat n layer t (.ok (.count n)) (layer.counting (.write flat n)) t
  | taken {media : μ} (hbytes : 0 < g.frameBytes)
      (hwrite : Medium.write layer.sink.handle flat t.media = (.ok flat.size, media)) :
      Writes g flat n layer t (.ok (.count n)) (layer.counting (.write flat n))
        ⟨media, t.calls ++ [.write layer.sink.handle flat (.ok flat.size)]⟩
  | failed {media : μ} {reply : Except IoError Nat} {e : SinkError} (hbytes : 0 < g.frameBytes)
      (hwrite : Medium.write layer.sink.handle flat t.media = (reply, media))
      (hfails : (SinkRequest.write flat n).Fails layer.sink.label reply e) :
      Writes g flat n layer t (.error (.sink e)) layer
        ⟨media, t.calls ++ [.write layer.sink.handle flat reply]⟩

/-- A tee that records the bytes of frames writes them. -/
theorem writes_record {g : FrameGeometry} {flat : Bytes} {n : Nat} (hn : 0 < n)
    (hsize : flat.size = n * g.frameBytes) (layer : Layer η) (w : World (Traced μ η)) :
    let recorded := record flat n layer w
    Writes g flat n layer w.media (recorded.1.map fun _ => .count n) recorded.2.1
      recorded.2.2.media := by
  have hcarried : Carried (.write flat n) layer w (record flat n layer w) :=
    carried_write flat n layer w
  have hbytes : (SinkRequest.write flat n).Calls → 0 < g.frameBytes := by
    intro hcalls
    apply Nat.pos_of_ne_zero
    intro hzero
    rw [hzero, Nat.mul_zero] at hsize
    exact absurd (Array.isEmpty_iff_size_eq_zero.mpr hsize) (Bool.eq_false_iff.mp hcalls)
  have hsend := SinkRequest.send_traced layer.sink.handle w.media (.write flat n)
  generalize record flat n layer w = recorded at hcarried ⊢
  cases hcarried with
  | nothing frames hrequest hmedia =>
      obtain ⟨rfl, -⟩ := SinkRequest.write.inj hrequest
      have hzero : g.frameBytes = 0 := by
        obtain hn' | hzero := Nat.mul_eq_zero.mp hsize.symm
        · exact absurd hn' (Nat.pos_iff_ne_zero.mp hn)
        · exact hzero
      dsimp only
      rw [hmedia]
      exact .nothing hzero
  | far frames bytes hrequest => cases hrequest
  | granted hcalls hgranted hmedia =>
      rw [hsend] at hgranted hmedia
      have hreply : (SinkRequest.send layer.sink.handle w.media.media (.write flat n)).1 =
          .ok flat.size := hgranted
      dsimp only
      rw [hmedia, hreply]
      exact .taken (hbytes hcalls) (Prod.ext hreply rfl)
  | failed hcalls hfails hmedia =>
      rw [hsend] at hfails hmedia
      dsimp only
      rw [hmedia]
      exact .failed (hbytes hcalls) rfl hfails

end Layer

namespace TeeStack

/-- What a tee makes of a transfer of buffers is decided by what the stream below has answered, as
long as the counters of the tees are counts. An error, or no frames, are passed on. Frames are
written if the buffers supply them and do not burst. Otherwise the tee fails without a call and
without counting anything. Over a stream that answers it does answer then, unless the buffers
burst. -/
theorem perform_bufferTransfer (transfer : BufferTransfer) (layer : Layer η)
    (inner : List (Layer η)) (device : δ) (w : World (Traced μ η)) :
    let below := (TeeStack.mk inner device).perform transfer.request w
    let above := (TeeStack.mk (layer :: inner) device).perform transfer.request w
    let buffers := transfer.buffers.after below.reply.buffers
    above.stack.Countable →
      ((∀ n, below.reply.result = .ok (.count n) → n = 0) →
        above = { below with stack := ⟨layer :: below.stack.layers, below.stack.device⟩ }) ∧
      ∀ n, below.reply.result = .ok (.count n) → 0 < n →
        ∃ result layer' w', above = ⟨⟨result, below.reply.buffers⟩,
            ⟨layer' :: below.stack.layers, below.stack.device⟩, w'⟩ ∧
          (∀ g, buffers.Supply g n below.stack.device → ¬ buffers.Burst g n →
            ∃ flat, buffers.Lead g n flat ∧ flat.size = n * g.frameBytes ∧
              Layer.Writes g flat n layer below.world.media result layer' w'.media) ∧
          ((∀ g, buffers.Supply g n below.stack.device → buffers.Burst g n) →
            layer' = layer ∧ w'.media = below.world.media ∧ ∃ e, result = .error e ∧
              (Device.Answers below.stack.device → (e.isAnswer = false ↔
                ∃ g, Device.geometry below.stack.device = .ok g ∧ buffers.Burst g n))) := by
  intro below above buffers _
  refine ⟨transfer.perform_cons_of_still layer inner device w, ?_⟩
  intro n hcount hn
  refine ⟨_, _, _, transfer.perform_cons_of_moved layer inner device w hn hcount, ?_, ?_⟩
  · intro g hsupply hburst
    obtain ⟨flat, hlead, hsize, hrecording⟩ :=
      hsupply.recording_eq (μ := Traced μ η) (η := η) hburst hn
    refine ⟨flat, hlead, hsize, ?_⟩
    rw [hrecording]
    exact Layer.writes_record hn hsize layer below.world
  · intro hnone
    obtain ⟨e, hrecording, hanswer⟩ :=
      CallerBuffers.recording_of_not_supply (μ := Traced μ η) (η := η) hn hnone
    rw [hrecording]
    exact ⟨rfl, rfl, e, rfl, hanswer⟩

/-- A stream that is asked to write one frame claims to have written both frames of the buffers, and
the writer takes three of their four bytes. -/
theorem perform_bufferTransfer_overclaimed :
    let device : ScriptedDevice :=
      ⟨"hw", .playback, .running, some ⟨⟨2, .u8⟩, 8000, 4⟩, .zeros 8, #[], 0, [.ok 2], none⟩
    let layer : Layer Handle :=
      { sink := .ofWriter "copy" (.writer 0), closeSlave := true, direction := .playback }
    let transfer := BufferTransfer.write (.planar #[#[1, 2], #[3, 4]]) 1
    let w : World (Traced Storage Handle) :=
      { media := { media := { writers := #[{ writeLimit := some 3 }] } } }
    let below := (TeeStack.mk ([] : List (Layer Handle)) device).perform transfer.request w
    let above := (TeeStack.mk [layer] device).perform transfer.request w
    (∃ flat layer', transfer.buffers.Lead ⟨2, .u8⟩ 2 flat ∧ flat.size = 4 ∧
      above.stack.layers = [layer'] ∧
      Layer.Writes ⟨2, .u8⟩ flat 2 layer below.world.media above.reply.result layer'
        above.world.media) ∧
      above.reply.result = .error (.sink (.shortWrite (.writer "copy") 4 3)) := by
  intro device layer transfer w below above
  have hsupply : transfer.buffers.Supply ⟨2, .u8⟩ 2 below.stack.device :=
    ⟨rfl, by decide, rfl, forall_getElem?_iff.mpr (by decide)⟩
  have hburst : ¬ transfer.buffers.Burst ⟨2, .u8⟩ 2 := by
    rintro ⟨-, -, hmany, -⟩
    exact absurd hmany (by decide)
  have hcountable : above.stack.Countable := by decide +kernel
  obtain ⟨-, hmoved⟩ := perform_bufferTransfer transfer layer [] device w hcountable
  obtain ⟨result, layer', w', habove, hsupplied, -⟩ := hmoved 2 rfl (by decide)
  obtain ⟨flat, hlead, hsize, hwrites⟩ := hsupplied _ hsupply hburst
  refine ⟨⟨flat, layer', hlead, hsize, ?_, ?_⟩, by cbv⟩
  · exact congrArg (fun performed => performed.stack.layers) habove
  · change above = _ at habove
    rw [habove]
    exact hwrites

/-- A stream that claims to have written more frames of two short buffers than there is room for
leaves the call without an answer. -/
theorem not_forall_answered : ¬ ∀ (device : ScriptedDevice) (layer : Layer Handle)
    (transfer : BufferTransfer) (w : World (Traced Storage Handle)) (n : Nat),
    let below := (TeeStack.mk ([] : List (Layer Handle)) device).perform transfer.request w
    let above := (TeeStack.mk [layer] device).perform transfer.request w
    below.reply.result = .ok (.count n) → 0 < n →
      (∀ g, ¬ (transfer.buffers.after below.reply.buffers).Supply g n below.stack.device) →
        ∃ e, above.reply.result = .error e ∧ e.isAnswer = true := by
  intro h
  let device : ScriptedDevice :=
    ⟨"hw", .playback, .running, some ⟨⟨2, .u8⟩, 8000, 4⟩, .zeros 8, #[], 0,
      [.ok 0x4000000000000000], none⟩
  let layer : Layer Handle :=
    { sink := .ofWriter "copy" (.writer 0), closeSlave := true, direction := .playback }
  have hshort : ∀ g, ¬ (CallerBuffers.planar #[#[1, 2], #[3, 4]]).Supply g 0x4000000000000000
      { device with replies := [] } := by
    rintro g ⟨hgeometry, -, -, hlong⟩
    obtain rfl : ⟨2, .u8⟩ = g := Except.ok.inj hgeometry
    exact absurd (hlong 0 #[1, 2] rfl) (by decide)
  obtain ⟨e, herror, hanswer⟩ := h device layer (.write (.planar #[#[1, 2], #[3, 4]]) 2)
    { media := { media := { writers := #[{}] } } } 0x4000000000000000 rfl (by decide) hshort
  obtain rfl : .area .capacityOverflow = e := Except.error.inj herror
  cases hanswer

end TeeStack

end FrameTee
