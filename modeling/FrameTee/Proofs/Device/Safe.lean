import FrameTee.Proofs.Device.AreaErrors
import FrameTee.Proofs.Device.Checked.Hardware
import FrameTee.Proofs.Device.Checked.Transfer
import FrameTee.Proofs.Device.Mapped
import FrameTee.Request.Hardware
import FrameTee.Storage.Basic

/-!
# Requests that stay inside

`MemoryDevice.answer?` and `MemoryDevice.perform?` perform the requests to a memory device with the
checked operations, and so have no outcome where a sum, a difference or a product is no count or a
slice reaches out of its buffer. In no state that the device reaches does that happen, as long as
the positions that a request leaves behind are counts (`MemoryDevice.safe_of_reached`).

## Implementation notes

An application that holds the mapped ring can store in it and load from it anywhere it likes. Such
requests go past the device, and may well be answered with an error of an area (`Request.OnRing`).
-/

namespace FrameTee

section Bare

variable {δ μ η α : Type}

/-- A transfer of a device without tees is not recorded. -/
theorem TeeStack.recorded_nil (step : DeviceStep δ Nat) (recording : δ → Nat → Recording μ η)
    (w : World μ) :
    recorded [] step recording w = ⟨step.result, bare step.device, w.reportAll step.events⟩ := by
  rcases step with ⟨_ | _ | _, _, _⟩ <;> rfl

/-- What a step of a device comes to for whoever has asked for it. -/
def DeviceStep.answered (value : α → Value) (buffers : ReadBuffers) (step : DeviceStep δ α) :
    Reply × δ :=
  (⟨step.result.map value, buffers⟩, step.device)

end Bare

/-- Requests to the mapped ring itself. -/
def Request.OnRing : Request → Prop
  | .storeMapped .. | .loadMapped .. => True
  | _ => False

namespace MemoryDevice

open MappedRing TeeStack

variable {m : MemoryDevice} {laid : Option RingLayout} {s : StreamSetup} {e : AreaError}

section Checked

variable (m : MemoryDevice)

/-- Stores interleaved frames in the mapped ring. -/
def storeMapped? (offset : Nat) (src : Bytes) : Option (DeviceStep MemoryDevice Unit) :=
  match m.setup with
  | none => some (.fail (m.badState "setup") m)
  | some s => do
    let (result, ring) ← m.mapped.storeInterleaved? s.geometry offset src
    some { result := result.mapError .area, device := { m with ring } }

/-- Gathers frames of the mapped ring. -/
def loadMapped? (offset frames : Nat) : Option (Except StreamError Bytes) :=
  match m.setup with
  | none => some (.error (m.badState "setup"))
  | some s =>
    (m.mapped.areas.copyInterleaved? s.geometry offset frames).map (·.mapError .area)

/-- What a request gets, and the device after it. -/
def answer? (request : Request) : Option (Reply × MemoryDevice) :=
  let tell (result : Except StreamError Value) : Option (Reply × MemoryDevice) :=
    some (⟨result, .none⟩, m)
  let done : DeviceStep MemoryDevice Unit → Reply × MemoryDevice :=
    DeviceStep.answered (fun _ => .done) .none
  let moved : DeviceStep MemoryDevice Nat → Reply × MemoryDevice :=
    DeviceStep.answered .count .none
  match request with
  | .name => tell (.ok (.text m.name))
  | .direction => tell (.ok (.direction m.direction))
  | .info => tell ((Device.info m).map .info)
  | .paramsRange => tell ((Device.paramsRange m).map .paramsRange)
  | .setParams params => (m.setParams? params).map done
  | .setup => tell ((m.requireSetup "setup").map .setup)
  | .channelInfo channel => tell ((m.channelInfo channel).map .channelInfo)
  | .status => m.status?.map fun status => (⟨.ok (.status status), .none⟩, m)
  | .state => tell (.ok (.state m.state))
  | .delay => tell (.ok (.number m.lag))
  | .availUpdate => m.availUpdate?.map moved
  | .prepare => some (done m.prepare)
  | .start => some (done m.start)
  | .stop => some (done m.stop)
  | .drain => m.drain?.map done
  | .pause enable => some (done (m.pause enable))
  | .setNonblocking enable => some (done (Device.setNonblocking enable m))
  | .pollDescriptor => tell ((Device.pollDescriptor m).map .number)
  | .reduceMask mask => tell (.ok (.mask (m.reduceMask mask)))
  | .writeInterleaved buffer frames => (m.writeInterleaved? buffer frames).map moved
  | .writePlanar buffers frames => (m.writePlanar? buffers frames).map moved
  | .readInterleaved buffer frames =>
    (m.readInterleaved? buffer frames).map fun (step, buffer) =>
      step.answered .count (.interleaved buffer)
  | .readPlanar buffers frames =>
    (m.readPlanar? buffers frames).map fun (step, buffers) =>
      step.answered .count (.planar buffers)
  | .applPtr => tell (.ok (.count m.applPtr))
  | .probeRing => tell (.ok (.probes (m.mappedRing.map fun _ => ()) (m.mappedRing.map fun _ => ())))
  | .storeMapped offset src => (m.storeMapped? offset src).map done
  | .loadMapped offset frames =>
    (m.loadMapped? offset frames).map fun result => (⟨result.map .bytes, .none⟩, m)
  | .commit frames => (m.commit? frames).map moved
  | .rewind frames => (m.rewind? frames).map moved
  | .dump => tell (.ok (.text m.dump))

/-- Performs a request to the hardware side. -/
def perform? (request : HardwareRequest) : Option (DeviceStep MemoryDevice HardwareValue) :=
  let counted (step : DeviceStep MemoryDevice Nat) : DeviceStep MemoryDevice HardwareValue :=
    { result := step.result.map .count, device := step.device, events := step.events }
  match request with
  | .consume frames => (m.consume? frames).map counted
  | .inject data => (m.inject? data).map counted
  | .played => some (.ok (.bytes m.played) m)
  | .setTransferLimit limit => some (.ok .done (m.withTransferLimit limit))
  | .failNext error => some (.ok .done (m.withFault error))
  | .setLayout layout => some (.ok .done (m.withLayout layout))
  | .isNonblocking => some (.ok (.flag m.nonblocking) m)
  | .inspect => some (.ok (.text m.inspect) m)

end Checked

theorem storeMapped?_eq_some (m : MemoryDevice) (offset : Nat) {src : Bytes}
    (hlt : src.size < Count.limit) :
    m.storeMapped? offset src = some (Device.storeMapped offset src m) := by
  unfold storeMapped?
  split
  · rename_i hsetup
    rw [Device.storeMapped, geometry_eq_error hsetup]
  · rename_i s hsetup
    rw [storeMapped_eq hsetup, storeInterleaved?_eq_some _ _ _ hlt]
    rfl

theorem loadMapped?_eq_some (m : MemoryDevice) (offset frames : Nat)
    (hroom : ∀ s, m.setup = some s → m.mapped.areas.HasRoom s.geometry frames) :
    m.loadMapped? offset frames = some (Device.loadMapped offset frames m) := by
  unfold loadMapped?
  split
  · rename_i hsetup
    rw [Device.loadMapped, geometry_eq_error hsetup]
  · rename_i s hsetup
    have hmapped : Device.mappedRing m = .ok m.mapped := mappedRing_eq_ok hsetup
    rw [Device.loadMapped, geometry_eq_ok hsetup, hmapped,
      ChannelAreas.copyInterleaved?_eq_some _ _ _ (hroom s hsetup)]
    rfl

section Answer

variable {μ η : Type} [Medium μ η] (w : World μ)

theorem answer?_eq_some (h : m.Intact) (request : Request)
    (hcountable : ((bare m : TeeStack MemoryDevice η).perform request w).stack.device.Countable)
    (hlt : ∀ offset src, request = .storeMapped offset src → src.size < Count.limit)
    (hroom : ∀ offset frames, request = .loadMapped offset frames →
      ∀ s, m.setup = some s → m.mapped.areas.HasRoom s.geometry frames) :
    let performed := (bare m : TeeStack MemoryDevice η).perform request w
    m.answer? request = some (performed.reply, performed.stack.device) := by
  cases request with
  | setParams params => exact congrArg (Option.map _) (setParams?_eq_some m params)
  | status => exact congrArg (Option.map _) (status?_eq_some h)
  | availUpdate => exact congrArg (Option.map _) (availUpdate?_eq_some h)
  | drain => exact congrArg (Option.map _) (drain?_eq_some h hcountable)
  | writeInterleaved buffer frames =>
      simp only [TeeStack.perform, TeeStack.writeInterleaved, bare, recorded_nil] at hcountable ⊢
      exact congrArg (Option.map _) (writeInterleaved?_eq_some h buffer frames hcountable)
  | writePlanar buffers frames =>
      simp only [TeeStack.perform, TeeStack.writePlanar, bare, recorded_nil] at hcountable ⊢
      exact congrArg (Option.map _) (writePlanar?_eq_some h buffers frames hcountable)
  | readInterleaved buffer frames =>
      simp only [TeeStack.perform, TeeStack.readInterleaved, bare, recorded_nil] at hcountable ⊢
      exact congrArg (Option.map _) (readInterleaved?_eq_some h buffer frames hcountable)
  | readPlanar buffers frames =>
      simp only [TeeStack.perform, TeeStack.readPlanar, bare, recorded_nil] at hcountable ⊢
      exact congrArg (Option.map _) (readPlanar?_eq_some h buffers frames hcountable)
  | commit frames =>
      simp only [TeeStack.perform, TeeStack.commit, bare, recorded_nil] at hcountable ⊢
      exact congrArg (Option.map _) (commit?_eq_some h frames hcountable)
  | rewind frames =>
      simp only [TeeStack.perform, TeeStack.rewind, bare, recorded_nil]
      exact congrArg (Option.map _) (rewind?_eq_some h frames)
  | storeMapped offset src =>
      exact congrArg (Option.map _) (storeMapped?_eq_some m offset (hlt offset src rfl))
  | loadMapped offset frames =>
      exact congrArg (Option.map _) (loadMapped?_eq_some m offset frames (hroom offset frames rfl))
  | _ => rfl

/-- What a request gets with an error, the operation of the device has answered. -/
theorem eq_error_of_map {α β : Type} {result : Except StreamError α} {value : α → β}
    {error : StreamError} (h : result.map value = .error error) : result = .error error := by
  cases result with
  | error e => exact congrArg _ (Except.error.inj h)
  | ok a => cases h

/-- A request to the device is answered with an error of an area only where that error was planted
or a planar write overreaches. -/
theorem area_of_perform (h : m.Intact) {request : Request} (hring : ¬ request.OnRing)
    (harea : ((bare m : TeeStack MemoryDevice η).perform request w).reply.result =
      .error (.area e)) :
    m.fault = some (.area e) ∨
      ∃ s buffers frames, request = .writePlanar buffers frames ∧
        m.Overreaches s buffers frames := by
  have hoperation : ∀ operation : Operation, (operation.step m).result = .error (.area e) →
      m.fault = some (.area e) := fun operation => operation.fault_of_area h
  cases request with
  | name | direction | info | paramsRange | status | state | delay | reduceMask | applPtr
  | probeRing | dump | setNonblocking => cases harea
  | pollDescriptor => cases harea
  | setup => exact absurd (eq_error_of_map harea) (fitsAreas_requireSetup m _ e)
  | channelInfo channel => exact absurd (eq_error_of_map harea) (fitsAreas_channelInfo m channel e)
  | availUpdate => exact absurd (eq_error_of_map harea) (fitsAreas_availUpdate m e)
  | setParams params => exact .inl (hoperation (.setParams params) (eq_error_of_map harea))
  | prepare => exact .inl (hoperation .prepare (eq_error_of_map harea))
  | start => exact .inl (hoperation .start (eq_error_of_map harea))
  | stop => exact .inl (hoperation .stop (eq_error_of_map harea))
  | drain => exact .inl (hoperation .drain (eq_error_of_map harea))
  | pause enable => exact .inl (hoperation (.pause enable) (eq_error_of_map harea))
  | writeInterleaved buffer frames =>
      simp only [TeeStack.perform, TeeStack.writeInterleaved, bare, recorded_nil] at harea
      exact .inl (hoperation (.writeInterleaved buffer frames) (eq_error_of_map harea))
  | writePlanar buffers frames =>
      simp only [TeeStack.perform, TeeStack.writePlanar, bare, recorded_nil] at harea
      obtain hfault | ⟨s, hover⟩ := area_of_writePlanar h (eq_error_of_map harea)
      · exact .inl hfault
      · exact .inr ⟨s, buffers, frames, rfl, hover⟩
  | readInterleaved buffer frames =>
      simp only [TeeStack.perform, TeeStack.readInterleaved, bare, recorded_nil] at harea
      exact .inl (hoperation (.readInterleaved buffer frames) (eq_error_of_map harea))
  | readPlanar buffers frames =>
      simp only [TeeStack.perform, TeeStack.readPlanar, bare, recorded_nil] at harea
      exact .inl (hoperation (.readPlanar buffers frames) (eq_error_of_map harea))
  | commit frames =>
      simp only [TeeStack.perform, TeeStack.commit, bare, recorded_nil] at harea
      exact .inl (hoperation (.commit frames) (eq_error_of_map harea))
  | rewind frames =>
      simp only [TeeStack.perform, TeeStack.rewind, bare, recorded_nil] at harea
      exact .inl (hoperation (.rewind frames) (eq_error_of_map harea))
  | storeMapped offset src => exact absurd trivial hring
  | loadMapped offset frames => exact absurd trivial hring

end Answer

section Perform

theorem perform?_eq_some (h : m.Intact) (request : HardwareRequest)
    (hcountable : (m.perform request).device.Countable) :
    m.perform? request = some (m.perform request) := by
  cases request with
  | consume frames => exact congrArg (Option.map _) (consume?_eq_some h.laid frames hcountable)
  | inject data => exact congrArg (Option.map _) (inject?_eq_some h data hcountable)
  | _ => rfl

theorem fitsAreas_perform (h : m.Intact) (request : HardwareRequest) :
    FitsAreas (m.perform request).result := by
  cases request with
  | consume frames => exact (fitsAreas_consume h frames).map _
  | inject data => exact (fitsAreas_inject h data).map _
  | _ => exact .ok _

end Perform

/-- In every state that is reached, every request to the device and to its hardware side has an
outcome with all sums, differences and products and the bounds of all slices checked, and that
outcome is the one without these checks, as long as the positions it leaves behind are counts and an
application that loads from the mapped ring itself asks for no more than there is room for. Frames
of the ring can always be loaded, and no more frames than the ring holds can always be stored. A
stream that begins to drain does not fail. No request to the device or its hardware side is answered
with an error of an area, save where that very error was planted and for planar writes that
overreach, and these are. -/
theorem safe_of_reached {μ η : Type} [Medium μ η] (w : World μ) (h : Reached m laid) :
    (∀ request : Request,
      let performed := (bare m : TeeStack MemoryDevice η).perform request w
      performed.stack.device.Countable →
        (∀ offset src, request = .storeMapped offset src → src.size < Count.limit) →
        (∀ offset frames, request = .loadMapped offset frames →
          ∀ s, m.setup = some s → m.mapped.areas.HasRoom s.geometry frames) →
          m.answer? request = some (performed.reply, performed.stack.device)) ∧
      (∀ request : HardwareRequest, (m.perform request).device.Countable →
        m.perform? request = some (m.perform request)) ∧
      (∀ s, m.setup = some s → ∀ position,
        (∀ frames out, (m.loadOnto s position frames out).1 = .ok ()) ∧
          (∀ frames, ∃ flat, m.loadAt s position frames = .ok flat) ∧
          ∀ src, s.geometry.bytesToFrames src.size ≤ s.bufferSize →
            (m.storeAt s position src).1 = .ok ()) ∧
      (m.Ready ∨ m.state = .paused → m.drain.result = .ok ()) ∧
      (∀ (request : Request) (e : AreaError), ¬ request.OnRing →
        ((bare m : TeeStack MemoryDevice η).perform request w).reply.result = .error (.area e) →
          m.fault = some (.area e) ∨
            ∃ s buffers frames, request = .writePlanar buffers frames ∧
              m.Overreaches s buffers frames) ∧
      (∀ s buffers frames, m.Overreaches s buffers frames →
        ∃ e, (m.writePlanar buffers frames).result = .error (.area e)) ∧
      ∀ (request : HardwareRequest) (e : AreaError),
        (m.perform request).result ≠ .error (.area e) := by
  have hintact := h.sound.intact
  refine ⟨answer?_eq_some w hintact, perform?_eq_some hintact, ?_, ?_, ?_, ?_,
    fitsAreas_perform hintact⟩
  · intro s hsetup position
    obtain ⟨layout, hlaid⟩ := hintact.laid s hsetup
    refine ⟨fun frames out => ?_, fun frames => ⟨_, loadAt_eq_ok hlaid position frames⟩, ?_⟩
    · rw [loadOnto_eq_ok hlaid]
    · intro src hfits
      obtain ⟨ring, hring, -⟩ := storeAt_eq_ok hlaid position src hfits
      rw [hring]
  · intro hdrains
    obtain ⟨s, -, ⟨-, hstep⟩ | ⟨-, hstep⟩⟩ := drain_eq_ok hintact hdrains
    · rw [hstep]
      rfl
    · rw [hstep]
      rfl
  · exact fun request e hring => area_of_perform w hintact hring
  · intro s buffers frames hover
    obtain ⟨e, hstep⟩ := hover.writePlanar_eq
    exact ⟨e, congrArg DeviceStep.result hstep⟩

/-- A player that is ready to start is given two frames to write and a buffer that holds none. The
checked write has an outcome, which is an error of an area. -/
theorem safe_of_reached_overreaching :
    let w : World Storage := { media := {} }
    let request := Request.writePlanar #[#[]] 2
    let performed := (bare readyPlayer : TeeStack MemoryDevice Handle).perform request w
    Reached readyPlayer (some .interleaved) ∧ performed.stack.device.Countable ∧
      performed.reply.result = .error (.area (.shortBuffer 2 0)) ∧
      readyPlayer.answer? request = some (performed.reply, performed.stack.device) ∧
      (∃ s, readyPlayer.Overreaches s #[#[]] 2) ∧ readyPlayer.drain.result = .ok () := by
  intro w request performed
  have hcountable : performed.stack.device.Countable := ⟨by decide +kernel, by decide +kernel⟩
  have hresult : performed.reply.result = .error (.area (.shortBuffer 2 0)) := by
    cbv
  have hready : readyPlayer.Ready := .inl (by decide +kernel)
  obtain ⟨hanswers, -, -, hdrains, hareas, -⟩ := safe_of_reached (η := Handle) w reached_readyPlayer
  have hover : ∃ s, readyPlayer.Overreaches s #[#[]] 2 := by
    obtain hfault | ⟨s, buffers, frames, hrequest, hover⟩ := hareas request _ id hresult
    · cases hfault
    · obtain ⟨rfl, rfl⟩ := Request.writePlanar.inj hrequest
      exact ⟨s, hover⟩
  have hanswer := hanswers request hcountable (fun offset src hstore => by simp [request] at hstore)
    fun offset frames hload => by simp [request] at hload
  exact ⟨reached_readyPlayer, hcountable, hresult, hanswer, hover, hdrains (.inl hready)⟩

end MemoryDevice

end FrameTee
