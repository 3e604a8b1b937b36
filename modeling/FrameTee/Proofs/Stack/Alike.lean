import FrameTee.Proofs.Device.Alike
import FrameTee.Proofs.Stack.Transfer
import FrameTee.Stack.Close

/-!
# Requests over devices that differ in the layout of their rings

Over alike devices a request gets the same reply, with the same read buffers, and leaves the same
tees, media and log (`TeeStack.alike_perform`). This leaves out the requests that ask for the layout
itself, and frames of the mapped ring have to be asked for inside the ring.
-/

namespace FrameTee

open MappedRing MemoryDevice RingSpans

variable {μ η α : Type}

/-- Whether the answer to a request tells how the ring is laid out. -/
def Request.tellsLayout : Request → Bool
  | .channelInfo _ | .dump => true
  | _ => false

/-- A request for frames of the mapped ring stays inside the ring. -/
def Request.Inside (request : Request) (m : MemoryDevice) : Prop :=
  match request with
  | .storeMapped offset src => ∀ s, m.setup = some s →
      offset + s.geometry.bytesToFrames src.size ≤ s.bufferSize
  | .loadMapped offset frames => ∀ s, m.setup = some s → offset + frames ≤ s.bufferSize
  | _ => True

namespace TeeStack

/-- Two operations on stacks answer the same and leave the same tees, media and log, over devices
that are alike. -/
structure OutcomesAlike (outcome outcome' : StackOutcome MemoryDevice μ η α) : Prop where
  /-- The answers are the same. -/
  result : outcome'.result = outcome.result
  /-- The tees are the same. -/
  layers : outcome'.stack.layers = outcome.stack.layers
  /-- The media and the log are the same. -/
  world : outcome'.world = outcome.world
  /-- The devices are alike. -/
  device : outcome.stack.device.Alike outcome'.stack.device

/-- Two requests got the same reply and left the same tees, media and log, over devices that are
alike. -/
structure PerformedAlike (performed performed' : Performed MemoryDevice μ η) : Prop where
  /-- The replies are the same. -/
  reply : performed'.reply = performed.reply
  /-- The tees are the same. -/
  layers : performed'.stack.layers = performed.stack.layers
  /-- The media and the log are the same. -/
  world : performed'.world = performed.world
  /-- The devices are alike. -/
  device : performed.stack.device.Alike performed'.stack.device

theorem OutcomesAlike.performed {outcome outcome' : StackOutcome MemoryDevice μ η α}
    (h : OutcomesAlike outcome outcome') (value : α → Value) {buffers buffers' : ReadBuffers}
    (hbuffers : buffers' = buffers) :
    PerformedAlike ⟨⟨outcome.result.map value, buffers⟩, outcome.stack, outcome.world⟩
      ⟨⟨outcome'.result.map value, buffers'⟩, outcome'.stack, outcome'.world⟩ :=
  ⟨by rw [h.result, hbuffers], h.layers, h.world, h.device⟩

variable {m m' : MemoryDevice} (layers : List (Layer η)) (w : World μ)

theorem PerformedAlike.tell {result result' : Except StreamError Value} (h : m.Alike m')
    (hresult : result' = result) :
    PerformedAlike (⟨⟨result, .none⟩, ⟨layers, m⟩, w⟩ : Performed MemoryDevice μ η)
      ⟨⟨result', .none⟩, ⟨layers, m'⟩, w⟩ :=
  ⟨by rw [hresult], rfl, rfl, h⟩

theorem alike_pass {operation : MemoryDevice → DeviceStep MemoryDevice α}
    (h : StepsAlike (operation m) (operation m')) :
    OutcomesAlike (pass ⟨layers, m⟩ operation w) (pass ⟨layers, m'⟩ operation w) :=
  ⟨h.result, rfl, congrArg w.reportAll h.events, h.device⟩

/-- Tees that record the same of two transfers that are alike end up the same. -/
theorem alike_recorded {step step' : DeviceStep MemoryDevice Nat}
    {recording recording' : MemoryDevice → Nat → Recording μ η} (h : StepsAlike step step')
    (hrecording : ∀ n, recording' step'.device n = recording step.device n) :
    OutcomesAlike (recorded layers step recording w) (recorded layers step' recording' w) := by
  obtain ⟨n, hstep, hn⟩ | hstill := moved_or_still step
  · have hstep' : step'.result = .ok n := h.result.trans hstep
    rw [recorded_of_moved hstep hn, recorded_of_moved hstep' hn, hrecording, h.events]
    exact ⟨rfl, rfl, rfl, h.device⟩
  · have hstill' : ∀ n, step'.result = .ok n → n = 0 := by rwa [h.result]
    rw [recorded_of_still hstill, recorded_of_still hstill', h.result, h.events]
    exact ⟨rfl, rfl, rfl, h.device⟩

section Record

variable [Medium μ η] (h : m.Alike m')
include h

omit [Medium μ η] in
theorem geometry_eq : Device.geometry m' = Device.geometry m := by
  obtain ⟨layout, ring, hring⟩ := h
  rfl

theorem recordInterleaved_eq (buffer : Bytes) (frames : Nat) :
    (Layer.recordInterleaved buffer m' frames : Recording μ η) =
      Layer.recordInterleaved buffer m frames := by
  funext layer w
  simp only [Layer.recordInterleaved, geometry_eq h]

theorem recordPlanar_eq (buffers : Array Bytes) (frames : Nat) :
    (Layer.recordPlanar buffers m' frames : Recording μ η) =
      Layer.recordPlanar buffers m frames := by
  funext layer w
  simp only [Layer.recordPlanar, geometry_eq h]

theorem recordRewind_eq (frames : Nat) :
    (Layer.recordRewind m' frames : Recording μ η) = Layer.recordRewind m frames := by
  funext layer w
  simp only [Layer.recordRewind, geometry_eq h]

/-- The same frames are recorded of both rings, span by span. -/
theorem recordCommit_eq (position frames : Nat) :
    (Layer.recordCommit position m' frames : Recording μ η) =
      Layer.recordCommit position m frames := by
  obtain ⟨layout, ring, hring⟩ := h
  funext layer w
  cases hsetup : m.setup with
  | none =>
      have hsame : Device.setup (m.relaid layout ring) = Device.setup m := rfl
      have hnone : Device.setup m = .error (m.badState "setup") := by
        change m.requireSetup "setup" = _
        rw [requireSetup, hsetup]
      simp only [Layer.recordCommit, hsame, hnone]
  | some s =>
      have hdevice : Device.setup m = .ok s := requireSetup_eq_ok hsetup "setup"
      have hdevice' : Device.setup (m.relaid layout ring) = .ok s := hdevice
      have hmapped : Device.mappedRing m = .ok m.mapped := mappedRing_eq_ok hsetup
      have hmapped' : Device.mappedRing (m.relaid layout ring) = .ok ring :=
        mappedRing_eq_ok (m := m.relaid layout ring) hsetup
      simp only [Layer.recordCommit, hdevice, hdevice', hmapped, hmapped', walk_eq_visitAll]
      split
      · rfl
      · -- Both walks meet the same spans, and each span lies inside the ring.
        apply visitAll_congr
        intro span hspan
        have hfits := (bounds_of_mem_toList hspan).2
        funext state
        simp only [Layer.recordSpan, (hring s hsetup).copyInterleaved_eq hfits]

end Record

section Perform

variable [Medium μ η] (h : m.Alike m') (hintact : m.Intact)
include h hintact

/-- On alike devices a request gets the same reply, unless it asks for the layout. -/
theorem alike_perform (request : Request) (hinside : request.Inside m)
    (hblind : request.tellsLayout = false) :
    PerformedAlike (perform request ⟨layers, m⟩ w) (perform request ⟨layers, m'⟩ w) := by
  cases request with
  | setParams params => exact (alike_pass layers w (alike_setParams h params)).performed _ rfl
  | prepare => exact (alike_pass layers w (alike_prepare h)).performed _ rfl
  | start => exact (alike_pass layers w (alike_start h)).performed _ rfl
  | stop => exact (alike_pass layers w (alike_stop h)).performed _ rfl
  | drain => exact (alike_pass layers w (alike_drain h)).performed _ rfl
  | pause enable => exact (alike_pass layers w (alike_pause h enable)).performed _ rfl
  | setNonblocking enable =>
      exact (alike_pass layers w (.ok () (h.withNonblocking enable))).performed _ rfl
  | availUpdate => exact (alike_pass layers w (alike_availUpdate h)).performed _ rfl
  | storeMapped offset src =>
      exact (alike_pass layers w (alike_storeMapped h offset src hinside)).performed _ rfl
  | loadMapped offset frames =>
      have hloaded := loadMapped_eq h offset frames hinside
      exact .tell layers w h (congrArg (Except.map Value.bytes) hloaded)
  | writeInterleaved buffer frames =>
      have hstep := alike_writeInterleaved h hintact buffer frames
      have houtcome := alike_recorded layers w hstep (recordInterleaved_eq hstep.device buffer)
      exact houtcome.performed _ rfl
  | writePlanar buffers frames =>
      have hstep := alike_writePlanar h hintact buffers frames
      have houtcome := alike_recorded layers w hstep (recordPlanar_eq hstep.device buffers)
      exact houtcome.performed _ rfl
  | readInterleaved buffer frames =>
      obtain ⟨hstep, hbuffer⟩ := alike_readInterleaved h buffer frames
      have houtcome := alike_recorded layers w hstep fun n =>
        (congrArg (Layer.recordInterleaved · _ n) hbuffer).trans
          (recordInterleaved_eq hstep.device _ n)
      exact houtcome.performed _ (congrArg ReadBuffers.interleaved hbuffer)
  | readPlanar buffers frames =>
      obtain ⟨hstep, hbuffers⟩ := alike_readPlanar h buffers frames
      have houtcome := alike_recorded layers w hstep fun n =>
        (congrArg (Layer.recordPlanar · _ n) hbuffers).trans (recordPlanar_eq hstep.device _ n)
      exact houtcome.performed _ (congrArg ReadBuffers.planar hbuffers)
  | commit frames =>
      have hstep := alike_commit h frames
      have happlPtr : m'.applPtr = m.applPtr := by rw [h.eq]
      have houtcome := alike_recorded layers w hstep fun n =>
        (congrArg (Layer.recordCommit · _ n) happlPtr).trans
          (recordCommit_eq hstep.device m.applPtr n)
      exact houtcome.performed _ rfl
  | rewind frames =>
      have hstep := alike_rewind h frames
      have houtcome := alike_recorded layers w hstep (recordRewind_eq hstep.device)
      exact houtcome.performed _ rfl
  | channelInfo channel => cases hblind
  | dump => cases hblind
  | probeRing =>
      have hring : (Device.mappedRing m').map (fun _ => ()) =
          (Device.mappedRing m).map fun _ => () := map_mappedRing_eq h
      exact .tell layers w h (congrArg (fun probe => Except.ok (Value.probes probe probe)) hring)
  | name | direction | info | paramsRange | setup | status | state | delay | pollDescriptor
  | reduceMask | applPtr =>
      obtain ⟨layout, ring, hring⟩ := h
      exact .tell layers w (.relaid layout ring hring) rfl

omit h hintact in
/-- A request for the layout changes nothing. -/
theorem perform_of_tellsLayout (stack : TeeStack MemoryDevice η) (w : World μ) {request : Request}
    (htells : request.tellsLayout = true) :
    (stack.perform request w).stack = stack ∧ (stack.perform request w).world = w := by
  cases request with
  | channelInfo channel => exact ⟨rfl, rfl⟩
  | dump => exact ⟨rfl, rfl⟩
  | _ => cases htells

end Perform

section Close

variable [Medium μ η] (h : m.Alike m')
include h

theorem closeSink_eq (layer : Layer η) : closeSink m' layer w = closeSink m layer w := by
  obtain ⟨layout, ring, hring⟩ := h
  rfl

theorem alike_closeAll :
    (closeAll m' layers w).result = (closeAll m layers w).result ∧
      (closeAll m' layers w).world = (closeAll m layers w).world := by
  induction layers generalizing w with
  | nil =>
      obtain ⟨layout, ring, hring⟩ := h
      exact ⟨rfl, rfl⟩
  | cons outer inner ih =>
      rw [closeAll, closeAll, closeSink_eq w h outer]
      dsimp only
      split
      · obtain ⟨hresult, hworld⟩ := ih (closeSink m outer w).2
        simp only [joinClose, hresult, hworld, and_self]
      · exact ⟨rfl, rfl⟩

/-- Closing stacks over alike devices answers the same, hands back the same tees, and leaves the
same media and log. -/
theorem alike_close :
    (close ⟨layers, m'⟩ w).result.map (·.map (·.layers)) =
        (close ⟨layers, m⟩ w).result.map (·.map (·.layers)) ∧
      (close ⟨layers, m'⟩ w).world = (close ⟨layers, m⟩ w).world := by
  obtain ⟨hresult, hworld⟩ := alike_closeAll layers w h
  cases layers with
  | nil => exact ⟨by simp only [close, hresult], hworld⟩
  | cons outer inner =>
      simp only [close]
      split
      · refine ⟨?_, hworld⟩
        rw [hresult]
      · rw [closeSink_eq w h outer]
        refine ⟨?_, rfl⟩
        cases (closeSink m outer w).1 <;> rfl

end Close

end TeeStack

end FrameTee
