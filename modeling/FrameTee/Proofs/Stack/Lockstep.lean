import FrameTee.Proofs.Stack.Requests
import FrameTee.Storage.Basic

/-!
# Stacked tees in lockstep

When a memory device has moved frames, all tees above it ask the same of their sinks, from the
innermost to the outermost (`Lockstep`): all of them carry out the same requests, or the sink of one
of them fails, and then the tees below it have carried out all requests and the tees above it have
asked for nothing. So over a run in which no sink fails all sinks receive the same
(`TeeStack.lockstep_of_session`).

What the sinks receive is told from the calls of a traced medium.
-/

namespace FrameTee

open MemoryDevice TeeStack

variable {μ η : Type}

/-- The calls through a handle that carry out requests: one call for each request, which its reply
grants. -/
inductive Answered (handle : η) : List SinkRequest → List (MediumCall η) → Prop where
  | nil : Answered handle [] []
  | cons {request : SinkRequest} {rest : List SinkRequest} {reply : Except IoError Nat}
      {calls : List (MediumCall η)} (hgranted : request.GrantedBy reply)
      (hrest : Answered handle rest calls) :
      Answered handle (request :: rest) (request.call handle reply :: calls)

/-- The tee after all of the requests were granted. -/
def Layer.countingAll (layer : Layer η) (requests : List SinkRequest) : Layer η :=
  requests.foldl Layer.counting layer

/-- The calls of tees that all carry out the same requests, those of the innermost tee first. -/
def AllAnswered (requests : List SinkRequest) : List (Layer η) → List (MediumCall η) → Prop
  | [], calls => calls = []
  | outer :: inner, calls => ∃ below own, calls = below ++ own ∧ AllAnswered requests inner below ∧
      Answered outer.sink.handle requests own

/-- What tees make of requests that all of them are to carry out. Either all of them do, and count
alike, or one sink fails. The tees below have then carried out all requests, and the tees above have
made no call and have counted nothing. -/
inductive Lockstep (requests : List SinkRequest) (layers : List (Layer η)) :
    Except StreamError Unit → List (Layer η) → List (MediumCall η) → Prop where
  | all {calls : List (MediumCall η)} (hcalls : AllAnswered requests layers calls) :
      Lockstep requests layers (.ok ()) (layers.map (·.countingAll requests)) calls
  | cut {outer inner : List (Layer η)} {failing : Layer η} {done rest : List SinkRequest}
      {request : SinkRequest} {reply : Except IoError Nat} {e : SinkError}
      {below own : List (MediumCall η)} (hlayers : layers = outer ++ failing :: inner)
      (hrequests : requests = done ++ request :: rest) (hbelow : AllAnswered requests inner below)
      (hown : Answered failing.sink.handle done own)
      (hfails : request.Fails failing.sink.label reply e) :
      Lockstep requests layers (.error (.sink e))
        (outer ++ failing.countingAll done :: inner.map (·.countingAll requests))
        (below ++ own ++ [request.call failing.sink.handle reply])

/-- Tees whose sinks have accepted in full all that they were given have carried out all
requests. -/
theorem Lockstep.eq_ok {requests : List SinkRequest} {layers layers' : List (Layer η)}
    {result : Except StreamError Unit} {calls : List (MediumCall η)}
    (h : Lockstep requests layers result layers' calls)
    (hfull : ∀ call ∈ calls, call.isFullWrite = true) : result = .ok () := by
  cases h with
  | all hcalls => rfl
  | cut hlayers hrequests hbelow hown hfails =>
      have hlast := hfull _ (List.mem_append_right _ List.mem_cons_self)
      exact absurd (hlast.symm.trans (hfails.isFullWrite_eq_false _)) nofun

namespace Answered

variable {handle : η} {requests requests' : List SinkRequest} {calls calls' : List (MediumCall η)}

theorem append (h : Answered handle requests calls) (h' : Answered handle requests' calls') :
    Answered handle (requests ++ requests') (calls ++ calls') := by
  induction h with
  | nil => exact h'
  | cons hgranted hrest ih => exact .cons hgranted ih

theorem handle_eq (h : Answered handle requests calls) : ∀ call ∈ calls, call.handle = handle := by
  induction h with
  | nil => exact List.forall_mem_nil _
  | cons hgranted hrest ih =>
      exact List.forall_mem_cons.mpr ⟨SinkRequest.handle_call _ _ _, ih⟩

end Answered

section Record

variable [Medium μ η] {requests : List SinkRequest} {layer : Layer η} {w : World (Traced μ η)}

/-- What one tee makes of requests that it is to carry out: all are granted, or one fails, and the
rest are not made. -/
inductive Layer.Serves (requests : List SinkRequest) (layer : Layer η) :
    Except StreamError Unit → Layer η → List (MediumCall η) → Prop where
  | all {own : List (MediumCall η)} (hown : Answered layer.sink.handle requests own) :
      Serves requests layer (.ok ()) (layer.countingAll requests) own
  | cut {done rest : List SinkRequest} {request : SinkRequest} {reply : Except IoError Nat}
      {e : SinkError} {own : List (MediumCall η)} (hrequests : requests = done ++ request :: rest)
      (hown : Answered layer.sink.handle done own)
      (hfails : request.Fails layer.sink.label reply e) :
      Serves requests layer (.error (.sink e)) (layer.countingAll done)
        (own ++ [request.call layer.sink.handle reply])

/-- A request that is granted comes before the rest. -/
theorem Layer.Serves.cons {request : SinkRequest} {reply : Except IoError Nat}
    {result : Except StreamError Unit} {layer' : Layer η} {own : List (MediumCall η)}
    (hgranted : request.GrantedBy reply)
    (h : Serves requests (layer.counting request) result layer' own) :
    Serves (request :: requests) layer result layer'
      (request.call layer.sink.handle reply :: own) := by
  cases h with
  | all hown => exact .all (.cons hgranted hown)
  | @cut done rest failing reply' e own hrequests hown hfails =>
      have hsplit : request :: requests = (request :: done) ++ failing :: rest := by
        rw [hrequests]
        rfl
      have hall : Answered layer.sink.handle (request :: done)
          (request.call layer.sink.handle reply :: own) := .cons hgranted hown
      exact .cut hsplit hall hfails

/-- Requests that are calls are all granted, or the sink fails at one of them. -/
theorem Layer.Carries.serves {fault : Option StreamError}
    {ended : Except StreamError Unit × Layer η × World (Traced μ η)}
    (h : Carries requests fault layer w ended) (hfault : fault = none)
    (hcalls : ∀ request ∈ requests, request.Calls) :
    ∃ own, ended.2.2.media.calls = w.media.calls ++ own ∧
      Serves requests layer ended.1 ended.2.1 own := by
  induction h with
  | done => exact ⟨[], (List.append_nil _).symm, .all .nil⟩
  | fault e => cases hfault
  | report event hrest ih => exact ih hfault hcalls
  | @next request rest _ layer layer' w w' ended hrequest hrest ih =>
      have hcarried := carried_carryOut request layer w
      rw [hrequest] at hcarried
      have hcall := hcalls request List.mem_cons_self
      obtain ⟨own, hown, hserves⟩ :=
        ih hfault fun other hmem => hcalls other (List.mem_cons_of_mem _ hmem)
      cases hcarried with
      | nothing frames hempty hmedia =>
          subst hempty
          cases hcall
      | granted _ hgranted hmedia =>
          rw [SinkRequest.send_traced] at hgranted hmedia
          refine ⟨_, ?_, hserves.cons hgranted⟩
          rw [hown, hmedia, List.append_assoc]
          rfl
  | @failed request rest _ layer layer' w w' e hrequest =>
      have hcarried := carried_carryOut request layer w
      rw [hrequest] at hcarried
      have hcall := hcalls request List.mem_cons_self
      cases hcarried with
      | far frames bytes hfar hdistance =>
          subst hfar
          exact absurd hcall (Nat.not_le.mpr hdistance)
      | failed _ hfails hmedia =>
          rw [SinkRequest.send_traced] at hfails hmedia
          have hsplit : request :: rest = [] ++ request :: rest := rfl
          refine ⟨_, ?_, .cut hsplit .nil hfails⟩
          rw [hmedia]
          rfl

variable {recording : Recording (Traced μ η) η}

/-- All tees carry out the requests of a recording that no fault ends, or one of them fails. -/
theorem lockstep_recordAll (hasks : recording.Asks requests none)
    (hcalls : ∀ request ∈ requests, request.Calls) (layers : List (Layer η))
    (w : World (Traced μ η)) :
    ∃ calls, (recordAll recording layers w).2.2.media.calls = w.media.calls ++ calls ∧
      Lockstep requests layers (recordAll recording layers w).1
        (recordAll recording layers w).2.1 calls := by
  induction layers with
  | nil => exact ⟨[], (List.append_nil _).symm, .all rfl⟩
  | cons outer inner ih =>
      -- The tees below have recorded first, and the outer one is asked only if all of them could.
      obtain ⟨below, hbelow, hinner⟩ := ih
      rw [recordAll]
      generalize recordAll recording inner w = ended at hbelow hinner
      obtain ⟨result, inner', w'⟩ := ended
      dsimp only at hbelow hinner
      cases hinner with
      | @cut upper lower failing done rest request reply e calls own hlayers hrequests hcalls hown
          hfails =>
          have hsplit : outer :: inner = (outer :: upper) ++ failing :: lower := by
            rw [hlayers]
            rfl
          exact ⟨_, hbelow, .cut hsplit hrequests hcalls hown hfails⟩
      | all hall =>
          obtain ⟨own, hown, hserves⟩ := (hasks outer w').serves rfl hcalls
          dsimp only
          generalize recording outer w' = last at hown hserves
          obtain ⟨result, outer', w''⟩ := last
          dsimp only at hown hserves
          refine ⟨below ++ own, ?_, ?_⟩
          · rw [hown, hbelow, List.append_assoc]
          · cases hserves with
            | all hanswered => exact .all ⟨below, own, rfl, hall, hanswered⟩
            | @cut done rest request reply e calls hrequests hanswered hfails =>
                have hsplit : outer :: inner = [] ++ outer :: inner := rfl
                rw [← List.append_assoc]
                exact .cut hsplit hrequests hall hanswered hfails

end Record

/-- What tees above a memory device have asked of their sinks in a run in which no sink failed: one
round for each transfer that moved frames. -/
inductive Rounds (layers : List (Layer η)) : List (List SinkRequest) → List (MediumCall η) → Prop
    where
  | none : Rounds layers [] []
  | round {rounds : List (List SinkRequest)} {requests : List SinkRequest}
      {calls more : List (MediumCall η)} {g : FrameGeometry} {n : Nat}
      (h : Rounds layers rounds calls)
      (hn : 0 < n) (hmoves : SinkRequest.Moves g n requests)
      (hmore : AllAnswered requests layers more) :
      Rounds layers (rounds ++ [requests]) (calls ++ more)

section Rounds

variable {layers : List (Layer η)} {requests requests' : List SinkRequest}
  {rounds : List (List SinkRequest)} {calls : List (MediumCall η)}

theorem Layer.countingAll_append (layer : Layer η) :
    layer.countingAll (requests ++ requests') =
      (layer.countingAll requests).countingAll requests' :=
  List.foldl_append

@[simp] theorem Layer.sink_countingAll (layer : Layer η) (requests : List SinkRequest) :
    (layer.countingAll requests).sink = layer.sink := by
  induction requests generalizing layer with
  | nil => rfl
  | cons request rest ih =>
      exact (ih (layer.counting request)).trans (layer.sink_counting request)

/-- Calls have nothing to do with counters. -/
theorem AllAnswered.of_map
    (h : AllAnswered requests (layers.map (·.countingAll requests')) calls) :
    AllAnswered requests layers calls := by
  induction layers generalizing calls with
  | nil => exact h
  | cons outer inner ih =>
      obtain ⟨below, own, hcalls, hbelow, hown⟩ := h
      rw [Layer.sink_countingAll] at hown
      exact ⟨below, own, hcalls, ih hbelow, hown⟩

/-- All calls go through the handles of the tees. -/
theorem AllAnswered.handle_mem (h : AllAnswered requests layers calls) :
    ∀ call ∈ calls, call.handle ∈ layers.map (·.sink.handle) := by
  induction layers generalizing calls with
  | nil =>
      obtain rfl : calls = [] := h
      exact List.forall_mem_nil _
  | cons outer inner ih =>
      obtain ⟨below, own, rfl, hbelow, hown⟩ := h
      intro call hcall
      rw [List.map_cons]
      obtain hmem | hmem := List.mem_append.mp hcall
      · exact List.mem_cons_of_mem _ (ih hbelow call hmem)
      · rw [hown.handle_eq call hmem]
        exact List.mem_cons_self

variable [DecidableEq η]

/-- Tees with handles of their own each carry out all requests. -/
theorem AllAnswered.answered (h : AllAnswered requests layers calls)
    (hnodup : (layers.map (·.sink.handle)).Nodup) {layer : Layer η} (hlayer : layer ∈ layers) :
    Answered layer.sink.handle requests (calls.filter (·.handle = layer.sink.handle)) := by
  induction layers generalizing calls with
  | nil => cases hlayer
  | cons outer inner ih =>
      obtain ⟨below, own, rfl, hbelow, hown⟩ := h
      rw [List.map_cons, List.nodup_cons] at hnodup
      rw [List.filter_append]
      obtain rfl | hinner := List.mem_cons.mp hlayer
      · have hothers : below.filter (·.handle = layer.sink.handle) = [] := by
          apply List.filter_eq_nil_iff.mpr
          intro call hcall heq
          have hmem := hbelow.handle_mem call hcall
          rw [of_decide_eq_true heq] at hmem
          exact hnodup.1 hmem
        have hall : own.filter (·.handle = layer.sink.handle) = own :=
          List.filter_eq_self.mpr fun call hcall => decide_eq_true (hown.handle_eq call hcall)
        rw [hothers, hall]
        exact hown
      · have hothers : own.filter (·.handle = layer.sink.handle) = [] := by
          apply List.filter_eq_nil_iff.mpr
          intro call hcall heq
          rw [hown.handle_eq call hcall] at heq
          have hmem : layer.sink.handle ∈ inner.map (·.sink.handle) :=
            List.mem_map_of_mem hinner
          rw [← of_decide_eq_true heq] at hmem
          exact hnodup.1 hmem
        rw [hothers, List.append_nil]
        exact ih hbelow hnodup.2 hinner

theorem Rounds.answered (h : Rounds layers rounds calls)
    (hnodup : (layers.map (·.sink.handle)).Nodup) {layer : Layer η} (hlayer : layer ∈ layers) :
    Answered layer.sink.handle rounds.flatten (calls.filter (·.handle = layer.sink.handle)) := by
  induction h with
  | none => exact .nil
  | round h hn hmoves hmore ih =>
      rw [List.flatten_append, List.flatten_singleton, List.filter_append]
      exact ih.append (hmore.answered hnodup hlayer)

end Rounds

namespace TeeStack

variable [Medium μ η]

/-- The device of a session over a memory device stays a memory device that can be reached. -/
abbrev Reachable (m : MemoryDevice) : Prop :=
  ∃ laid, Reached m laid

/-- A transfer that moved frames is recorded by all tees, or cut off at one of them. -/
theorem lockstep_recorded {m : MemoryDevice} (h : m.Intact) {action : Action}
    {transfer : Transfer MemoryDevice (Traced μ η) η}
    (htransfer : action.transfer? (Traced μ η) η m = some transfer) {n : Nat}
    (hstep : transfer.step.result = .ok n) (hn : 0 < n) (layers : List (Layer η))
    (w : World (Traced μ η)) :
    let outcome := recorded layers transfer.step transfer.recording w
    ∃ s requests result calls, m.setup = some s ∧ SinkRequest.Moves s.geometry n requests ∧
      outcome.result = result.map (fun _ => n) ∧
      outcome.world.media.calls = w.media.calls ++ calls ∧
      Lockstep requests layers result outcome.stack.layers calls := by
  obtain ⟨s, requests, hsetup, hsupported, hle, hmoves, hasks⟩ :=
    Transfer.asked h htransfer hstep hn
  have hfar : n * s.geometry.frameBytes ≤ Sink.maxDistance :=
    calc
      n * s.geometry.frameBytes ≤ s.ringBytes := StreamSetup.Supported.bytes_le_ringBytes hle
      _ ≤ 0x10000000 := hsupported.ringBytes_le
      _ ≤ Sink.maxDistance := by decide
  obtain ⟨calls, hcalls, hlockstep⟩ := lockstep_recordAll hasks
    (hmoves.calls hsupported.frameBytes_pos hfar) layers (w.reportAll transfer.step.events)
  rw [recorded_of_moved hstep hn]
  exact ⟨s, requests, _, calls, hsetup, hmoves, rfl, hcalls, hlockstep⟩

/-- A transfer that moved frames is carried out by all tees, or cut off at one of them. -/
theorem lockstep_act {stack : TeeStack MemoryDevice η} {w : World (Traced μ η)}
    (hreached : Reachable stack.device) {action : Action}
    {transfer : Transfer MemoryDevice (Traced μ η) η}
    (htransfer : action.transfer? (Traced μ η) η stack.device = some transfer) {n : Nat}
    (hstep : transfer.step.result = .ok n) (hn : 0 < n) :
    ∃ s requests result calls, stack.device.setup = some s ∧
      SinkRequest.Moves s.geometry n requests ∧
      (stack.act action w).reply.result = result.map (fun _ => .count n) ∧
      (stack.act action w).world.media.calls = w.media.calls ++ calls ∧
      Lockstep requests stack.layers result (stack.act action w).stack.layers calls := by
  obtain ⟨laid, hreached⟩ := hreached
  obtain ⟨hresult, hstack, hworld⟩ := act_of_transfer stack w htransfer
  obtain ⟨s, requests, result, calls, hsetup, hmoves, hanswer, hcalls, hlockstep⟩ :=
    lockstep_recorded hreached.sound.intact htransfer hstep hn stack.layers w
  rw [hresult, hstack, hworld, hanswer]
  refine ⟨s, requests, result, calls, hsetup, hmoves, ?_, hcalls, hlockstep⟩
  cases result <;> rfl

/-- The tees above a memory device, and the calls their sinks have made, are those of the tees
`layers₀` after some rounds. -/
def InRounds (layers₀ : List (Layer η)) (calls₀ : List (MediumCall η)) (layers : List (Layer η))
    (w : World (Traced μ η)) : Prop :=
  ∃ rounds calls, Rounds layers₀ rounds calls ∧ w.media.calls = calls₀ ++ calls ∧
    layers = layers₀.map (·.countingAll rounds.flatten)

/-- An action in which no sink fails adds a round, or it asks nothing of the sinks. -/
theorem InRounds.act {layers₀ : List (Layer η)} {calls₀ : List (MediumCall η)}
    {stack : TeeStack MemoryDevice η} {w : World (Traced μ η)}
    (h : InRounds layers₀ calls₀ stack.layers w) (hreached : Reachable stack.device)
    (action : Action)
    (havoids : Avoids StreamError.isSinkFailure (stack.act action w).reply.result) :
    InRounds layers₀ calls₀ (stack.act action w).stack.layers (stack.act action w).world := by
  obtain ⟨rounds, calls, hrounds, hcalls, hlayers⟩ := h
  obtain ⟨hsame, hmedia⟩ | ⟨transfer, n, htransfer, hstep, hn, -⟩ := act_cases action stack w
  · exact ⟨rounds, calls, hrounds, by rw [hmedia, hcalls], by rw [hsame, hlayers]⟩
  · obtain ⟨s, requests, result, more, -, hmoves, hresult, hmore, hlockstep⟩ :=
      lockstep_act (w := w) hreached htransfer (congrArg DeviceStep.result hstep) hn
    generalize (stack.act action w).stack.layers = layers at hlockstep
    -- A transfer that was cut off has answered with the failure of a sink.
    cases hlockstep with
    | all hall =>
        rw [hlayers] at hall ⊢
        refine ⟨rounds ++ [requests], calls ++ more, ?_, ?_, ?_⟩
        · exact hrounds.round hn hmoves hall.of_map
        · rw [hmore, hcalls, List.append_assoc]
        · rw [List.flatten_append, List.flatten_singleton, List.map_map]
          apply List.map_congr_left
          intro layer _
          exact (layer.countingAll_append).symm
    | cut hsplit hrequests hbelow hown hfails =>
        rw [hresult] at havoids
        cases havoids

/-- A session in which no sink fails goes in rounds. -/
theorem inRounds_of_session {stack₀ stack : TeeStack MemoryDevice η} {w₀ w : World (Traced μ η)}
    (hreached : Reachable stack₀.device)
    (h : Session Reachable StreamError.isSinkFailure stack₀ w₀ stack w) :
    Reachable stack.device ∧ InRounds stack₀.layers w₀.media.calls stack.layers w := by
  induction h with
  | start =>
      refine ⟨hreached, [], [], .none, (List.append_nil _).symm, ?_⟩
      exact (List.map_id _).symm
  | act action h hdevice havoids ih =>
      obtain ⟨hbefore, hrounds⟩ := ih
      refine ⟨?_, hrounds.act hbefore action havoids⟩
      rwa [device_act]
  | past device events h hdevice ih => exact ⟨hdevice, ih.2⟩

/-- In a run of stacked tees over a memory device in which no sink fails, all sinks receive the same
writes and moves back, in rounds in which the innermost tee comes first. Every transfer on a stack
of tees that moves frames adds a round, or it is cut off at one tee. -/
theorem lockstep_of_session [DecidableEq η] {stack₀ : TeeStack MemoryDevice η}
    {w₀ : World (Traced μ η)} (hreached : Reachable stack₀.device)
    {stack : TeeStack MemoryDevice η} {w : World (Traced μ η)}
    (h : Session Reachable StreamError.isSinkFailure stack₀ w₀ stack w) :
    (∃ rounds calls, Rounds stack₀.layers rounds calls ∧
      w.media.calls = w₀.media.calls ++ calls ∧
      stack.layers = stack₀.layers.map (·.countingAll rounds.flatten) ∧
      ((stack₀.layers.map (·.sink.handle)).Nodup → ∀ layer ∈ stack₀.layers,
        Answered layer.sink.handle rounds.flatten
          (calls.filter (·.handle = layer.sink.handle)))) ∧
    ∀ (action : Action) (transfer : Transfer MemoryDevice (Traced μ η) η) (n : Nat),
      action.transfer? (Traced μ η) η stack.device = some transfer →
      transfer.step.result = .ok n → 0 < n →
        ∃ s requests result calls, stack.device.setup = some s ∧
          SinkRequest.Moves s.geometry n requests ∧
          (stack.act action w).reply.result = result.map (fun _ => .count n) ∧
          (stack.act action w).world.media.calls = w.media.calls ++ calls ∧
          Lockstep requests stack.layers result (stack.act action w).stack.layers calls := by
  obtain ⟨hreached', rounds, calls, hrounds, hcalls, hlayers⟩ := inRounds_of_session hreached h
  constructor
  · exact ⟨rounds, calls, hrounds, hcalls, hlayers,
      fun hnodup layer hlayer => hrounds.answered hnodup hlayer⟩
  · intro action transfer n htransfer hstep hn
    exact lockstep_act hreached' htransfer hstep hn

/-- Three tees over a player of four frames. The writer in the middle takes one write and fails from
then on, so the second write of the player is recorded below it and not above. -/
theorem lockstep_of_session_cut :
    let tee (name : String) (number : Nat) : Layer Handle :=
      ⟨.ofWriter name (.writer number), true, .playback, {}⟩
    let stack₀ : TeeStack MemoryDevice Handle :=
      ⟨[tee "upper" 0, tee "middle" 1, tee "lower" 2], readyPlayer⟩
    let w₀ : World (Traced Storage Handle) :=
      { media := { media := { writers :=
        #[{}, { writeError := some "full", writeErrorFrom := 1 }, {}] } } }
    let first := stack₀.act (.ask (.writeInterleaved #[1, 2] 2)) w₀
    let next := Action.ask (.writeInterleaved #[3] 1)
    let second := first.stack.act next first.world
    first.stack.layers.map (·.stats) = [⟨2, 2, 1, 0⟩, ⟨2, 2, 1, 0⟩, ⟨2, 2, 1, 0⟩] ∧
      second.stack.layers.map (·.stats) = [⟨2, 2, 1, 0⟩, ⟨2, 2, 1, 0⟩, ⟨3, 3, 2, 0⟩] ∧
      (∃ rounds calls, Rounds stack₀.layers rounds calls ∧
        first.world.media.calls = calls ∧ calls.length = 3) ∧
      ∃ requests result calls, second.reply.result = result.map (fun _ => .count 1) ∧
        second.world.media.calls = first.world.media.calls ++ calls ∧
        Lockstep requests first.stack.layers result second.stack.layers calls := by
  intro tee stack₀ w₀ first next second
  have hreached : Reachable stack₀.device := ⟨_, reached_readyPlayer⟩
  have hfirst : Session Reachable StreamError.isSinkFailure stack₀ w₀ first.stack first.world :=
    .act (.ask (.writeInterleaved #[1, 2] 2)) .start ⟨_, .act _ reached_readyPlayer⟩
      (by decide +kernel)
  obtain ⟨⟨rounds, calls, hrounds, hcalls, -, -⟩, hnext⟩ := lockstep_of_session hreached hfirst
  have hmoved : (first.stack.device.writeInterleaved #[3] 1).result = .ok 1 :=
    eq_ok_of_toOption (by decide +kernel)
  obtain ⟨s, requests, result, more, -, -, hresult, hmore, hlockstep⟩ :=
    hnext next ⟨first.stack.device.writeInterleaved #[3] 1, Layer.recordInterleaved #[3]⟩ 1 rfl
      hmoved (by decide)
  have hlength : first.world.media.calls.length = 3 := by decide +kernel
  refine ⟨by decide +kernel, by decide +kernel, ⟨rounds, calls, hrounds, hcalls, ?_⟩, requests,
    result, more, hresult, hmore, hlockstep⟩
  rw [hcalls] at hlength
  exact hlength

end TeeStack

end FrameTee
