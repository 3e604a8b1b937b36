import FrameTee.Config.Tee
import FrameTee.Stack.Basic

/-!
# Opening a tee from its description

`openTee` reads a description, has the stream that it names opened, opens the sink and puts the tee
over the stream, which the tee owns. If the sink cannot be opened the stream is closed again, and
the error of the sink is the answer whatever comes of that.
-/

namespace FrameTee

/-- What a stream opener answers: a device or an error, and its own state afterwards. -/
structure OpenerAnswer (ρ δ : Type) where
  /-- The device. -/
  result : Except StreamError δ
  /-- State of the opener. -/
  registry : ρ
  /-- What was reported meanwhile. -/
  events : List LogEvent := []

/-- Opens the stream of a name in a direction, blocking or not. -/
abbrev StreamOpener (ρ δ : Type) :=
  String → Direction → Bool → ρ → OpenerAnswer ρ δ

/-- What opening a tee leaves behind. -/
structure OpenOutcome (ρ δ μ η : Type) where
  /-- The tee, over the stream it owns. -/
  result : Except StreamError (TeeStack δ η)
  /-- A device that was opened and closed again. -/
  abandoned : Option δ
  /-- State of the opener. -/
  registry : ρ
  /-- The media and the log afterwards. -/
  world : World μ

variable {ρ δ μ η : Type} [Device δ] [Medium μ η]

/-- Closes a stream whose sink could not be opened. -/
def abandon (slave : String) (error : SinkError) (device : δ) (w : World μ) : δ × World μ :=
  let step := Device.close device
  let w := (w.report (.sinkOpenFailed slave error)).reportAll step.events
  match step.result with
  | .error e => (step.device, w.report (.slaveCloseFailed e))
  | .ok () => (step.device, w)

/-- Opens the tee of a description. -/
def openTee (node : ConfigNode) (direction : Direction) (nonblocking : Bool)
    (opener : StreamOpener ρ δ) (registry : ρ) (w : World μ) : OpenOutcome ρ δ μ η :=
  let (read, events) := TeeConfig.ofNode node
  let w := w.reportAll events
  match read with
  | .error e => ⟨.error (.config e), none, registry, w⟩
  | .ok config =>
    let answer := opener config.slave direction nonblocking registry
    let w := w.reportAll answer.events
    match answer.result with
    | .error e => ⟨.error e, none, answer.registry, w⟩
    | .ok device =>
      match Sink.ofTarget config.target w with
      | (.error e, w) =>
        let (device, w) := abandon config.slave e device w
        ⟨.error (.sink e), some device, answer.registry, w⟩
      | (.ok sink, w) =>
        let (stack, w) := (TeeStack.bare device).push sink true w
        ⟨.ok stack, none, answer.registry, w⟩

end FrameTee
