import FrameTee.Proofs.Config.Verdict
import FrameTee.Proofs.Stack.Closing
import FrameTee.Proofs.Stack.Transfer
import FrameTee.Stack.Open

/-!
# No device is leaked by opening a tee

Opening a tee goes through three stages: the description is read, the stream is opened, the sink is
opened. A stage that fails ends the opening, and nothing of the later stages is tried. Only where
the last stage fails is there something to undo: the device is closed. A tee that was opened owns
its device, and that stays so whatever is done with it (`TeeStack.Used`), so closing the tee closes
the device.
-/

namespace FrameTee

variable {ρ δ μ η : Type}

/-- Media with the targets for which they were asked to open a sink, the first one first. -/
structure Gated (μ : Type) where
  /-- The media. -/
  media : μ
  /-- The targets. -/
  targets : List SinkTarget := []

/-- Only opening is kept; what goes through a handle is passed on. -/
instance [Medium μ η] : Medium (Gated μ) η where
  openFile path g :=
    let (opened, media) := Medium.openFile path g.media
    (opened, ⟨media, g.targets ++ [.file path]⟩)
  duplicate fd g :=
    let (opened, media) := Medium.duplicate fd g.media
    (opened, ⟨media, g.targets ++ [.descriptor fd]⟩)
  write handle bytes g :=
    let (reply, media) := Medium.write handle bytes g.media
    (reply, { g with media })
  seek handle distance g :=
    let (reply, media) := Medium.seek handle distance g.media
    (reply, { g with media })
  flush handle g :=
    let (reply, media) := Medium.flush handle g.media
    (reply, { g with media })

/-- A call of an opener. -/
structure OpenerCall where
  /-- The name of the stream. -/
  name : String
  /-- The direction. -/
  direction : Direction
  /-- Whether the stream must not block. -/
  nonblocking : Bool

/-- The state of an opener with the calls that were made of it, the first one first. -/
structure Called (ρ : Type) where
  /-- The state. -/
  registry : ρ
  /-- The calls. -/
  calls : List OpenerCall := []

/-- The same opener, where calls are kept and devices count their closings. -/
def StreamOpener.called (opener : StreamOpener ρ δ) : StreamOpener (Called ρ) (Tallied δ) :=
  fun name direction nonblocking r =>
    let answer := opener name direction nonblocking r.registry
    { result := answer.result.map fun device => { device }
      registry := ⟨answer.registry, r.calls ++ [⟨name, direction, nonblocking⟩]⟩
      events := answer.events }

section Stages

variable [Device δ] [Medium μ η] {node : ConfigNode} {direction : Direction} {nonblocking : Bool}
  {opener : StreamOpener ρ δ} {registry : ρ} {w : World μ} {config : TeeConfig} {device : δ}

/-- Whether a sink can be opened, and what becomes of the media, does not depend on the log. -/
theorem Sink.ofTarget_congr {v : World μ} (h : v.media = w.media) (target : SinkTarget) :
    (Sink.ofTarget target v : Except SinkError (Sink η) × World μ).1 =
        (Sink.ofTarget target w).1 ∧
      (Sink.ofTarget (η := η) target v).2.media = (Sink.ofTarget (η := η) target w).2.media := by
  cases target with
  | file path =>
      simp only [Sink.ofTarget, h]
      cases (Medium.openFile path w.media : Except IoError η × μ).1 <;> exact ⟨rfl, rfl⟩
  | descriptor fd =>
      simp only [Sink.ofTarget, h]
      cases (Medium.duplicate fd w.media : Except IoError η × μ).1 <;> exact ⟨rfl, rfl⟩

/-- The one target that is asked for when a sink is opened. -/
theorem Sink.targets_ofTarget (target : SinkTarget) (w : World (Gated μ)) :
    (Sink.ofTarget (η := η) target w).2.media.targets = w.media.targets ++ [target] := by
  cases target with
  | file path =>
      simp only [Sink.ofTarget, Medium.openFile]
      cases (Medium.openFile path w.media.media : Except IoError η × μ).1 <;> rfl
  | descriptor fd =>
      simp only [Sink.ofTarget, Medium.duplicate]
      cases (Medium.duplicate fd w.media.media : Except IoError η × μ).1 <;> rfl

theorem abandon_eq (slave : String) (e : SinkError) (device : δ) (w : World μ) :
    (abandon slave e device w).1 = (Device.close device).device ∧
      (abandon slave e device w).2.media = w.media := by
  simp only [abandon]
  cases (Device.close device).result <;> exact ⟨rfl, rfl⟩

/-- A description that is rejected ends the opening. -/
theorem openTee_of_rejected {e : ConfigError} (h : (TeeConfig.ofNode node).1 = .error e) :
    (openTee node direction nonblocking opener registry w : OpenOutcome ρ δ μ η) =
      ⟨.error (.config e), none, registry, w.reportAll (TeeConfig.ofNode node).2⟩ := by
  simp only [openTee, h]

/-- A stream that cannot be opened ends the opening. -/
theorem openTee_of_refused {e : StreamError} (h : (TeeConfig.ofNode node).1 = .ok config)
    (hopener : (opener config.slave direction nonblocking registry).result = .error e) :
    let outcome : OpenOutcome ρ δ μ η := openTee node direction nonblocking opener registry w
    outcome.result = .error e ∧ outcome.abandoned = none ∧
      outcome.registry = (opener config.slave direction nonblocking registry).registry ∧
      outcome.world.media = w.media := by
  simp only [openTee, h, hopener, World.media_reportAll, and_self]

/-- A stream that can be opened gets its sink from the media as they were. -/
theorem openTee_of_granted (h : (TeeConfig.ofNode node).1 = .ok config)
    (hopener : (opener config.slave direction nonblocking registry).result = .ok device) :
    ∃ opened : Except SinkError (Sink η) × World μ,
      opened.1 = (Sink.ofTarget config.target w).1 ∧
      opened.2.media = (Sink.ofTarget (η := η) config.target w).2.media ∧
      (∀ e w', opened = (.error e, w') →
        (openTee node direction nonblocking opener registry w : OpenOutcome ρ δ μ η) =
          ⟨.error (.sink e), some (abandon config.slave e device w').1,
            (opener config.slave direction nonblocking registry).registry,
            (abandon config.slave e device w').2⟩) ∧
      ∀ sink w', opened = (.ok sink, w') →
        openTee node direction nonblocking opener registry w =
          ⟨.ok ((TeeStack.bare device).push sink true w').1, none,
            (opener config.slave direction nonblocking registry).registry,
            ((TeeStack.bare device).push sink true w').2⟩ := by
  obtain ⟨hresult, hmedia⟩ := Sink.ofTarget_congr (η := η) (w := w)
    (v := (w.reportAll (TeeConfig.ofNode node).2).reportAll
      (opener config.slave direction nonblocking registry).events) rfl config.target
  refine ⟨_, hresult, hmedia, ?_, ?_⟩
  · intro e w' hopened
    simp only [openTee, h, hopener, hopened]
  · intro sink w' hopened
    simp only [openTee, h, hopener, hopened]

/-- Where the sink cannot be opened the device is closed, and the answer is the error of the sink
whatever comes of that. -/
theorem openTee_of_sinkless {e : SinkError} (h : (TeeConfig.ofNode node).1 = .ok config)
    (hopener : (opener config.slave direction nonblocking registry).result = .ok device)
    (hsink : (Sink.ofTarget (η := η) config.target w).1 = .error e) :
    let outcome : OpenOutcome ρ δ μ η := openTee node direction nonblocking opener registry w
    outcome.result = .error (.sink e) ∧
      outcome.abandoned = some (Device.close device).device ∧
      outcome.registry = (opener config.slave direction nonblocking registry).registry ∧
      outcome.world.media = (Sink.ofTarget (η := η) config.target w).2.media := by
  obtain ⟨⟨result, w'⟩, hresult, hmedia, hfailed, -⟩ :=
    openTee_of_granted (η := η) (w := w) h hopener
  obtain rfl : result = .error e := hresult.trans hsink
  obtain ⟨hdevice, habandon⟩ := abandon_eq config.slave e device w'
  rw [hfailed e w' rfl]
  exact ⟨rfl, congrArg some hdevice, rfl, habandon.trans hmedia⟩

/-- Where all three stages succeed there is one tee, and it owns the device. -/
theorem openTee_of_opened {sink : Sink η} (h : (TeeConfig.ofNode node).1 = .ok config)
    (hopener : (opener config.slave direction nonblocking registry).result = .ok device)
    (hsink : (Sink.ofTarget config.target w).1 = .ok sink) :
    let outcome : OpenOutcome ρ δ μ η := openTee node direction nonblocking opener registry w
    outcome.result = .ok ⟨[⟨sink, true, Device.direction device, {}⟩], device⟩ ∧
      outcome.abandoned = none ∧
      outcome.registry = (opener config.slave direction nonblocking registry).registry ∧
      outcome.world.media = (Sink.ofTarget (η := η) config.target w).2.media := by
  obtain ⟨⟨result, w'⟩, hresult, hmedia, -, hopened⟩ :=
    openTee_of_granted (η := η) (w := w) h hopener
  obtain rfl : result = .ok sink := hresult.trans hsink
  rw [hopened sink w' rfl]
  exact ⟨rfl, rfl, rfl, hmedia⟩

end Stages

namespace TeeStack

variable [Device δ] [Medium μ η]

/-- What can become of a stack of tees that stays open: an application acts on it, and past the tees
anything may happen to the media, to the log and to the device, closing it apart. -/
inductive Used (stack₀ : TeeStack (Tallied δ) η) (w₀ : World μ) :
    TeeStack (Tallied δ) η → World μ → Prop where
  | start : Used stack₀ w₀ stack₀ w₀
  | act {stack : TeeStack (Tallied δ) η} {w : World μ} (action : Action)
      (h : Used stack₀ w₀ stack w) :
      Used stack₀ w₀ (stack.act action w).stack (stack.act action w).world
  | past {stack : TeeStack (Tallied δ) η} {w : World μ} (device : δ) (w' : World μ)
      (h : Used stack₀ w₀ stack w) :
      Used stack₀ w₀ { stack with device := { stack.device with device } } w'

variable {stack₀ stack : TeeStack (Tallied δ) η} {w₀ w : World μ}

/-- Nothing that is done with open tees closes the device. -/
theorem Used.closes_eq (h : Used stack₀ w₀ stack w) :
    stack.device.closes = stack₀.device.closes := by
  induction h with
  | start => rfl
  | act action h ih => rw [device_act, Tallied.after_eq, ih]
  | past device w' h ih => exact ih

/-- Tees that own what is below them go on to own it. -/
theorem Used.owned (h : Used stack₀ w₀ stack w) (howned : TeeStack.owned stack₀.layers = true) :
    TeeStack.owned stack.layers = true := by
  induction h with
  | start => exact howned
  | act action h ih =>
      rw [TeeStack.owned, List.all_eq_true] at ih ⊢
      exact forall_act action (fun layer stats hlayer => hlayer) ih
  | past device w' h ih => exact ih

/-- However tees that own what is below them were used, closing them closes the device. -/
theorem Used.closes_closeAll (h : Used stack₀ w₀ stack w)
    (howned : TeeStack.owned stack₀.layers = true) :
    (closeAll stack.device stack.layers w).device.closes = stack₀.device.closes + 1 := by
  rw [device_closeAll, h.owned howned, if_pos rfl, ← h.closes_eq]
  rfl

end TeeStack

open TeeStack

/-- Opening a tee leaks no device. A description that is rejected has no stream opened and no sink;
otherwise the opener is called once, with the stream that the description names. A stream that
cannot be opened has no sink opened, and its error is the answer. Where the sink cannot be opened
the device is closed once, and the answer is the error of the sink whatever comes of that. Where
everything can be opened there is a tee that owns the device, and however it is used, closing it
closes the device once. -/
theorem openTee_leaks_nothing [Device δ] [Medium μ η] (node : ConfigNode) (direction : Direction)
    (nonblocking : Bool) (opener : StreamOpener ρ δ) (registry : Called ρ)
    (w : World (Gated μ)) :
    let outcome : OpenOutcome (Called ρ) (Tallied δ) (Gated μ) η :=
      openTee node direction nonblocking opener.called registry w
    match (TeeConfig.ofNode node).1 with
    | .error e =>
      outcome.result = .error (.config e) ∧ outcome.abandoned = none ∧
        outcome.registry = registry ∧ outcome.world.media = w.media
    | .ok config =>
      node["sname"]? = some (.text config.slave) ∧
      outcome.registry.calls = registry.calls ++ [⟨config.slave, direction, nonblocking⟩] ∧
      match (opener config.slave direction nonblocking registry.registry).result with
      | .error e =>
        outcome.result = .error e ∧ outcome.abandoned = none ∧ outcome.world.media = w.media
      | .ok device =>
        outcome.world.media.targets = w.media.targets ++ [config.target] ∧
        match (Sink.ofTarget (η := η) config.target w).1 with
        | .error e =>
          outcome.result = .error (.sink e) ∧
            outcome.abandoned = some ⟨(Device.close device).device, 1⟩
        | .ok sink =>
          outcome.abandoned = none ∧
          ∃ layer stack, layer.closeSlave = true ∧ layer.sink = sink ∧
            stack = ⟨[layer], ⟨device, 0⟩⟩ ∧ outcome.result = .ok stack ∧
            ∀ (used : TeeStack (Tallied δ) η) (w' : World (Gated μ)),
              Used stack outcome.world used w' →
                (closeAll used.device used.layers w').device.closes = 1 ∧
                  (close used w').device.closes = 1 := by
  intro outcome
  cases hnode : (TeeConfig.ofNode node).1 with
  | error e =>
      have houtcome : outcome = _ := openTee_of_rejected hnode
      rw [houtcome]
      exact ⟨rfl, rfl, rfl, rfl⟩
  | ok config =>
      refine ⟨TeeConfig.sname_of_ofNode hnode, ?_⟩
      have hcalled : (opener.called config.slave direction nonblocking registry).result =
          (opener config.slave direction nonblocking registry.registry).result.map
            fun device => ⟨device, 0⟩ := rfl
      cases hopener : (opener config.slave direction nonblocking registry.registry).result with
      | error e =>
          rw [hopener] at hcalled
          obtain ⟨hresult, habandoned, hregistry, hmedia⟩ :=
            openTee_of_refused (η := η) (w := w) hnode hcalled
          exact ⟨by rw [hregistry]; rfl, hresult, habandoned, hmedia⟩
      | ok device =>
          rw [hopener] at hcalled
          have htargets := Sink.targets_ofTarget (η := η) config.target w
          cases hsink : (Sink.ofTarget (η := η) config.target w).1 with
          | error e =>
              obtain ⟨hresult, habandoned, hregistry, hmedia⟩ :=
                openTee_of_sinkless hnode hcalled hsink
              exact ⟨by rw [hregistry]; rfl, by rw [hmedia, htargets], hresult, habandoned⟩
          | ok sink =>
              obtain ⟨hresult, habandoned, hregistry, hmedia⟩ :=
                openTee_of_opened hnode hcalled hsink
              refine ⟨by rw [hregistry]; rfl, by rw [hmedia, htargets], habandoned, _, _, rfl,
                rfl, rfl, hresult, ?_⟩
              intro used w' hused
              rw [device_close, hused.closes_closeAll rfl]
              exact ⟨rfl, rfl⟩

end FrameTee
