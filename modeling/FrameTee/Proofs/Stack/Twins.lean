import FrameTee.Proofs.Device.Reached
import FrameTee.Proofs.Stack.Alike
import FrameTee.Storage.Basic

/-!
# The layout of the ring cannot be observed

`Twins` are two runs of the same program, on stacks of tees whose devices were opened with the same
name and direction and lay out their rings each in its own way. Replies, tees, media and log are the
same at every step, and the devices differ in nothing but their rings
(`TeeStack.layout_unobservable`).
-/

namespace FrameTee

open MemoryDevice

variable {μ η : Type} [Medium μ η]

/-- The runs of one program on two stacks of tees side by side. Both devices are opened with the
same name and direction, each with a layout of its own for its ring, and then everything happens to
both: requests of the application, requests to the hardware side, a tee put on top, and whatever
changes the media past the streams. Frames of the mapped ring are asked for inside the ring only. -/
inductive Twins (name : String) (direction : Direction) (layout layout' : RingLayout)
    (w₀ : World μ) :
    TeeStack MemoryDevice η → World μ → TeeStack MemoryDevice η → World μ → Prop where
  | start : Twins name direction layout layout' w₀
        (.bare ((new name direction).withLayout layout)) w₀
        (.bare ((new name direction).withLayout layout')) w₀
  | ask {stack stack' : TeeStack MemoryDevice η} {w w' : World μ} (request : Request)
      (h : Twins name direction layout layout' w₀ stack w stack' w')
      (hinside : request.Inside stack.device) :
      Twins name direction layout layout' w₀
        (stack.perform request w).stack (stack.perform request w).world
        (stack'.perform request w').stack (stack'.perform request w').world
  | drive {stack stack' : TeeStack MemoryDevice η} {w w' : World μ} (request : HardwareRequest)
      (h : Twins name direction layout layout' w₀ stack w stack' w') :
      Twins name direction layout layout' w₀
        (stack.pass (MemoryDevice.perform request) w).stack
        (stack.pass (MemoryDevice.perform request) w).world
        (stack'.pass (MemoryDevice.perform request) w').stack
        (stack'.pass (MemoryDevice.perform request) w').world
  | push {stack stack' : TeeStack MemoryDevice η} {w w' : World μ} (sink : Sink η)
      (closeSlave : Bool) (h : Twins name direction layout layout' w₀ stack w stack' w') :
      Twins name direction layout layout' w₀
        (stack.push sink closeSlave w).1 (stack.push sink closeSlave w).2
        (stack'.push sink closeSlave w').1 (stack'.push sink closeSlave w').2
  | past {stack stack' : TeeStack MemoryDevice η} {w w' : World μ} (change : World μ → World μ)
      (h : Twins name direction layout layout' w₀ stack w stack' w') :
      Twins name direction layout layout' w₀ stack (change w) stack' (change w')

namespace Twins

variable {name : String} {direction : Direction} {layout layout' : RingLayout} {w₀ w w' : World μ}
  {stack stack' : TeeStack MemoryDevice η}

theorem reached (h : Twins name direction layout layout' w₀ stack w stack' w') :
    ∃ laid, stack.device.Reached laid := by
  induction h with
  | start => exact ⟨none, .drive (.setLayout layout) (.new name direction)⟩
  | @ask stack _ w _ request _ _ ih =>
      obtain ⟨laid, hreached⟩ := ih
      have hnext := Reached.act (.ask request) hreached
      rw [← TeeStack.device_act (.ask request) stack w] at hnext
      exact ⟨_, hnext⟩
  | drive request _ ih =>
      obtain ⟨laid, hreached⟩ := ih
      exact ⟨laid, .drive request hreached⟩
  | push sink closeSlave _ ih => exact ih
  | past change _ ih => exact ih

/-- At every step the tees, the media and the log are the same, and the devices are alike. -/
theorem alike (h : Twins name direction layout layout' w₀ stack w stack' w') :
    stack'.layers = stack.layers ∧ w' = w ∧ stack.device.Alike stack'.device := by
  induction h with
  | start => exact ⟨rfl, rfl, alike_new name direction layout layout'⟩
  | @ask stack stack' w w' request htwins hinside ih =>
      obtain ⟨laid, hreached⟩ := htwins.reached
      obtain ⟨layers, m⟩ := stack
      obtain ⟨layers', m'⟩ := stack'
      obtain ⟨rfl, rfl, halike⟩ := ih
      -- The reply to a request for the layout may differ, but it leaves everything as it is.
      cases hblind : request.tellsLayout with
      | true =>
          obtain ⟨hstack, hworld⟩ := TeeStack.perform_of_tellsLayout ⟨layers', m⟩ w' hblind
          obtain ⟨hstack', hworld'⟩ := TeeStack.perform_of_tellsLayout ⟨layers', m'⟩ w' hblind
          rw [hstack, hworld, hstack', hworld']
          exact ⟨rfl, rfl, halike⟩
      | false =>
          have hperformed := TeeStack.alike_perform layers' w' halike hreached.sound.intact request
            hinside hblind
          exact ⟨hperformed.layers, hperformed.world, hperformed.device⟩
  | @drive stack stack' w w' request _ ih =>
      obtain ⟨layers, m⟩ := stack
      obtain ⟨layers', m'⟩ := stack'
      obtain ⟨rfl, rfl, halike⟩ := ih
      have hpassed := TeeStack.alike_pass layers' w' (MemoryDevice.alike_perform halike request)
      exact ⟨hpassed.layers, hpassed.world, hpassed.device⟩
  | @push stack stack' w w' sink closeSlave _ ih =>
      obtain ⟨layers, m⟩ := stack
      obtain ⟨layers', m'⟩ := stack'
      obtain ⟨rfl, rfl, halike⟩ := ih
      cases (show m.Alike m' from halike) with
      | relaid layout ring hring =>
          cases layers' <;> exact ⟨rfl, rfl, .relaid layout ring hring⟩
  | past change _ ih =>
      obtain ⟨hlayers, rfl, halike⟩ := ih
      exact ⟨hlayers, rfl, halike⟩

end Twins

namespace TeeStack

variable {name : String} {direction : Direction} {layout layout' : RingLayout} {w₀ w w' : World μ}
  {stack stack' : TeeStack MemoryDevice η}

/-- At every step of the same program on two devices that differ in the layout of their rings, the
tees, the media and the log are the same, the devices differ in nothing but their rings, and the
next request gets the same reply with the same read buffers, unless it asks for the layout. Closing
answers the same and leaves the same media and log. -/
theorem layout_unobservable (h : Twins name direction layout layout' w₀ stack w stack' w') :
    stack'.layers = stack.layers ∧ w' = w ∧
      stack'.device =
        { stack.device with
          layout := stack'.device.layout
          areas := stack'.device.areas
          ring := stack'.device.ring } ∧
      (∀ request : Request, request.Inside stack.device → request.tellsLayout = false →
        (stack'.perform request w').reply = (stack.perform request w).reply) ∧
      (∀ request : HardwareRequest,
        (stack'.device.perform request).result = (stack.device.perform request).result ∧
          (stack'.device.perform request).events = (stack.device.perform request).events) ∧
      (stack'.close w').result.map (·.map (·.layers)) =
          (stack.close w).result.map (·.map (·.layers)) ∧
        (stack'.close w').world = (stack.close w).world := by
  obtain ⟨laid, hreached⟩ := h.reached
  obtain ⟨layers, m⟩ := stack
  obtain ⟨layers', m'⟩ := stack'
  obtain ⟨rfl, rfl, halike⟩ := h.alike
  refine ⟨rfl, rfl, halike.eq, fun request hinside hblind => ?_, fun request => ?_,
    alike_close layers' w' halike⟩
  · exact (alike_perform layers' w' halike hreached.sound.intact request hinside hblind).reply
  · have hstep := MemoryDevice.alike_perform halike request
    exact ⟨hstep.result, hstep.events⟩

/-- A player of two channels whose ring of four frames is written to, played, filled in place and
handed over across its end. The rings differ byte by byte, and the sinks do not. -/
theorem layout_unobservable_wrapped :
    let w₀ : World Storage := { media := { writers := #[{}] } }
    let opened (layout : RingLayout) : TeeStack MemoryDevice Handle :=
      .bare ((new "hw" .playback).withLayout layout)
    let start (layout : RingLayout) : TeeStack MemoryDevice Handle × World Storage :=
      (opened layout).push (.ofWriter "copy" (.writer 0)) true w₀
    let ask (request : Request) (reached : TeeStack MemoryDevice Handle × World Storage) :=
      let performed := reached.1.perform request reached.2
      (performed.stack, performed.world)
    let play (reached : TeeStack MemoryDevice Handle × World Storage) :=
      let outcome := reached.1.pass (MemoryDevice.perform (.consume 3)) reached.2
      (outcome.stack, outcome.world)
    let ready (layout : RingLayout) :=
      ask .prepare (ask (.setParams ⟨.u8, 2, 8000, 4⟩) (start layout))
    let played (layout : RingLayout) :=
      play (ask (.writePlanar #[#[1, 3, 5], #[2, 4, 6]] 3) (ready layout))
    let run (layout : RingLayout) :=
      ask (.commit 4) (ask (.storeMapped 0 #[10, 20, 11, 21, 12, 22, 13, 23]) (played layout))
    let a := run .interleaved
    let b := run .planar
    b.1.layers = a.1.layers ∧ b.2 = a.2 ∧
      a.2.media.writers.map (·.data) =
        #[#[1, 2, 3, 4, 5, 6, 13, 23, 10, 20, 11, 21, 12, 22]] ∧
      a.1.device.ring.toBytes = #[10, 20, 11, 21, 12, 22, 13, 23] ∧
      b.1.device.ring.toBytes = #[10, 11, 12, 13, 20, 21, 22, 23] ∧
      (b.1.perform (.loadMapped 2 2) b.2).reply = (a.1.perform (.loadMapped 2 2) a.2).reply := by
  intro w₀ opened start ask play ready played run a b
  have hplayed : Twins "hw" .playback .interleaved .planar w₀ (played .interleaved).1
      (played .interleaved).2 (played .planar).1 (played .planar).2 :=
    .drive (.consume 3)
      (.ask (.writePlanar #[#[1, 3, 5], #[2, 4, 6]] 3)
        (.ask .prepare
          (.ask (.setParams ⟨.u8, 2, 8000, 4⟩)
            (.push (.ofWriter "copy" (Handle.writer 0)) true .start) trivial) trivial) trivial)
  have hsetup : (played .interleaved).1.device.setup = some ⟨⟨2, .u8⟩, 8000, 4⟩ := by
    decide +kernel
  have hsetup' : a.1.device.setup = some ⟨⟨2, .u8⟩, 8000, 4⟩ := by decide +kernel
  have hrun : Twins "hw" .playback .interleaved .planar w₀ a.1 a.2 b.1 b.2 := by
    refine .ask (.commit 4)
      (.ask (.storeMapped 0 #[10, 20, 11, 21, 12, 22, 13, 23]) hplayed ?_) trivial
    intro s hs
    obtain rfl := Option.some.inj (hsetup.symm.trans hs)
    decide
  obtain ⟨hlayers, hworld, -, hreply, -⟩ := layout_unobservable hrun
  refine ⟨hlayers, hworld, by decide +kernel, by decide +kernel, by decide +kernel,
    hreply (.loadMapped 2 2) ?_ rfl⟩
  intro s hs
  obtain rfl := Option.some.inj (hsetup'.symm.trans hs)
  decide

end TeeStack

end FrameTee
