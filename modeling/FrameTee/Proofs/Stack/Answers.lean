import FrameTee.Proofs.Area.Strided
import FrameTee.Proofs.Stack.Transfer

/-!
# Answers of tees

A tee that cannot record what the device has moved says so, but for one case. To copy frames it
first makes room for their bytes, as many as the device has claimed, and where there can be no room
for them the call ends without an answer. `Action.Vast` says for which actions and how many frames
this can happen, and it happens for no others (`Action.isAnswer_or_vast`).
-/

namespace FrameTee

variable {δ μ η : Type} [Device δ] [Medium μ η]

namespace Device

/-- When the device does not tell its setup or its ring, it answers with an error. -/
structure Answers (device : δ) : Prop where
  /-- It answers for its setup. -/
  setup : ∀ e, Device.setup device = .error e → e.isAnswer = true
  /-- It answers for its ring. -/
  ring : ∀ e, Device.mappedRing device = .error e → e.isAnswer = true

theorem Answers.geometry {device : δ} (h : Answers device) {e : StreamError}
    (hgeometry : Device.geometry device = .error e) : e.isAnswer = true := by
  apply h.setup
  rw [Device.geometry] at hgeometry
  cases hsetup : Device.setup device with
  | error e' =>
      rw [hsetup] at hgeometry
      exact congrArg _ (Except.error.inj hgeometry)
  | ok s =>
      rw [hsetup] at hgeometry
      cases hgeometry

end Device

/-- There may be no room to record the `n` frames that the action has moved. Several buffers, one
for each channel, are copied at once, if their bytes can be counted; a commit is copied span by
span, and a span has at most the frames of the ring. What else tees record is not copied. -/
def Action.Vast (action : Action) (device : δ) (n : Nat) : Prop :=
  match action with
  | .ask (.writePlanar ..) | .ask (.readPlanar ..) =>
      ∃ g, Device.geometry device = .ok g ∧ 1 < g.channelCount ∧
        Bytes.maxSize < n * g.frameBytes ∧ n * g.frameBytes < Count.limit
  | .ask (.commit _) =>
      ∃ s, Device.setup device = .ok s ∧
        Bytes.maxSize < min n s.bufferSize * s.geometry.frameBytes
  | _ => False

namespace Layer

variable {device : δ} {n : Nat} {layer : Layer η} {w : World μ} {e : StreamError}

/-- A buffer that does not hold the frames is told to the caller. -/
theorem isAnswer_of_leadingFrames {g : FrameGeometry} {buffer : Bytes}
    (h : leadingFrames g buffer n = .error e) : e.isAnswer = true := by
  rw [leadingFrames] at h
  split at h
  · cases h
    rfl
  · split at h
    · cases h
      rfl
    · cases h

/-- Only the sink makes a recording of bytes fail. -/
theorem isAnswer_of_record {bytes : Bytes} (h : (record bytes n layer w).1 = .error e) :
    e.isAnswer = true := by
  rw [record] at h
  rcases hwrite : layer.sink.write bytes w with ⟨source | ⟨⟩, w'⟩
  · rw [hwrite] at h
    obtain rfl := Except.error.inj h
    rfl
  · rw [hwrite] at h
    cases h

/-- What keeps a tee from finding the frames in a buffer it answers. -/
theorem isAnswer_of_geometry_leadingFrames (hanswers : Device.Answers device) {buffer : Bytes}
    (h : (Device.geometry device >>= (leadingFrames · buffer n)) = .error e) :
    e.isAnswer = true := by
  cases hgeometry : Device.geometry device with
  | error e' =>
      rw [hgeometry] at h
      obtain rfl := Except.error.inj h
      exact hanswers.geometry hgeometry
  | ok g =>
      rw [hgeometry] at h
      exact isAnswer_of_leadingFrames h

theorem isAnswer_of_recordInterleaved (hanswers : Device.Answers device) {buffer : Bytes}
    (h : (recordInterleaved buffer device n layer w).1 = .error e) : e.isAnswer = true := by
  rw [recordInterleaved] at h
  cases hdata : Device.geometry device >>= (leadingFrames · buffer n) with
  | error e' =>
      rw [hdata] at h
      obtain rfl := Except.error.inj h
      exact isAnswer_of_geometry_leadingFrames hanswers hdata
  | ok data =>
      rw [hdata] at h
      exact isAnswer_of_record h

theorem isAnswer_or_lt_of_recordPlanar (hanswers : Device.Answers device)
    {buffers : Array Bytes} (h : (recordPlanar buffers device n layer w).1 = .error e) :
    e.isAnswer = true ∨ ∃ g, Device.geometry device = .ok g ∧ 1 < g.channelCount ∧
      Bytes.maxSize < n * g.frameBytes ∧ n * g.frameBytes < Count.limit := by
  rw [recordPlanar] at h
  cases hgeometry : Device.geometry device with
  | error e' =>
      rw [hgeometry] at h
      obtain rfl := Except.error.inj h
      exact .inl (hanswers.geometry hgeometry)
  | ok g =>
      rw [hgeometry] at h
      dsimp only at h
      cases hcopy : (ChannelAreas.planar buffers g).copyInterleaved g 0 n with
      | error fault =>
          rw [hcopy] at h
          obtain rfl := Except.error.inj h
          by_cases hanswer : fault.isAnswer = true
          · exact .inl hanswer
          · obtain rfl := AreaError.isAnswer_eq_false_iff.mp (Bool.eq_false_iff.mpr hanswer)
            obtain ⟨hcount, hlt, hroom⟩ :=
              ChannelAreas.copyInterleaved_eq_capacityOverflow_iff.mp hcopy
            rw [ChannelAreas.size_areas_planar] at hcount
            obtain ⟨hseveral, hmany⟩ := (ChannelAreas.not_hasRoom_planar_iff hcount).mp hroom
            rw [hcount] at hseveral
            exact .inr ⟨g, rfl, hseveral, hmany, hlt⟩
      | ok data =>
          rw [hcopy] at h
          exact .inl (isAnswer_of_record h)

/-- A span that cannot be recorded is answered, unless there is no room for it. -/
theorem isAnswer_or_lt_of_recordSpan {ring : MappedRing} {g : FrameGeometry} {span : RingSpan}
    {state : Layer η × World μ} (h : (recordSpan ring g span state).1 = .error e) :
    e.isAnswer = true ∨ Bytes.maxSize < span.frames * g.frameBytes := by
  rw [recordSpan] at h
  cases hcopy : ring.copyInterleaved g span.offset span.frames with
  | error fault =>
      rw [hcopy] at h
      obtain rfl := Except.error.inj h
      exact ChannelAreas.isAnswer_or_lt_of_copyInterleaved hcopy
  | ok data =>
      rw [hcopy] at h
      exact .inl (isAnswer_of_record h)

/-- No span has more frames than there are or than the ring has, so there is room for every span if
there is room for as many frames. -/
theorem isAnswer_or_lt_of_walk {ring : MappedRing} {g : FrameGeometry} {position capacity : Nat}
    (hpos : 0 < capacity) {state : Layer η × World μ}
    (h : (((RingCursor.ofPosition position capacity).split n).walk
      (recordSpan ring g) state).1 = .error e) :
    e.isAnswer = true ∨ Bytes.maxSize < min n capacity * g.frameBytes := by
  have hends := RingSpans.ends_walk (recordSpan ring g)
    (P := fun _ (_ : Layer η × World μ) => True)
    (Q := fun e _ => e.isAnswer = true ∨ Bytes.maxSize < min n capacity * g.frameBytes)
    hpos position n state ?_ trivial
  · generalize ((RingCursor.ofPosition position capacity).split n).walk
      (recordSpan ring g) state = walked at h hends
    obtain ⟨e' | ⟨⟩, after⟩ := walked
    · obtain rfl := Except.error.inj h
      exact hends
    · cases h
  · intro reached k state _ _ hreached hfits _
    have hle : k * g.frameBytes ≤ min n capacity * g.frameBytes :=
      Nat.mul_le_mul_right _ (by omega)
    rcases hspan : recordSpan ring g ⟨reached % capacity, k⟩ state with ⟨e' | ⟨⟩, after⟩
    · obtain hanswer | hmany := isAnswer_or_lt_of_recordSpan (congrArg Prod.fst hspan)
      · exact .inl hanswer
      · exact .inr (Nat.lt_of_lt_of_le hmany hle)
    · trivial

theorem isAnswer_or_lt_of_recordCommit (hanswers : Device.Answers device) {position : Nat}
    (h : (recordCommit position device n layer w).1 = .error e) :
    e.isAnswer = true ∨ ∃ s, Device.setup device = .ok s ∧
      Bytes.maxSize < min n s.bufferSize * s.geometry.frameBytes := by
  rw [recordCommit] at h
  cases hsetup : Device.setup device with
  | error e' =>
      rw [hsetup] at h
      obtain rfl := Except.error.inj h
      exact .inl (hanswers.setup _ hsetup)
  | ok s =>
      rw [hsetup] at h
      dsimp only at h
      split at h
      · obtain rfl := Except.error.inj h
        exact .inl rfl
      · rename_i hcapacity
        cases hring : Device.mappedRing device with
        | error e' =>
            rw [hring] at h
            obtain rfl := Except.error.inj h
            exact .inl (hanswers.ring _ hring)
        | ok ring =>
            rw [hring] at h
            obtain hanswer | hmany := isAnswer_or_lt_of_walk (Nat.pos_of_ne_zero hcapacity) h
            · exact .inl hanswer
            · exact .inr ⟨s, rfl, hmany⟩

theorem isAnswer_of_recordRewind (hanswers : Device.Answers device)
    (h : (recordRewind device n layer w).1 = .error e) : e.isAnswer = true := by
  rw [recordRewind] at h
  cases hgeometry : Device.geometry device with
  | error e' =>
      rw [hgeometry] at h
      obtain rfl := Except.error.inj h
      exact hanswers.geometry hgeometry
  | ok g =>
      rw [hgeometry] at h
      dsimp only at h
      split at h
      · obtain rfl := Except.error.inj h
        rfl
      · split at h
        · obtain rfl := Except.error.inj h
          rfl
        · cases h

end Layer

/-- What a tee cannot record it answers, unless there is no room for the frames. -/
theorem Action.isAnswer_or_vast {action : Action} {device : δ}
    {transfer : Transfer δ μ η} (htransfer : action.transfer? μ η device = some transfer)
    (hanswers : Device.Answers transfer.step.device) {n : Nat} {layer : Layer η} {w : World μ}
    {e : StreamError}
    (h : (transfer.recording transfer.step.device n layer w).1 = .error e) :
    e.isAnswer = true ∨ action.Vast transfer.step.device n := by
  cases action with
  | poke address value => cases htransfer
  | ask request =>
      cases request with
      | writeInterleaved | readInterleaved =>
          cases htransfer
          exact .inl (Layer.isAnswer_of_recordInterleaved hanswers h)
      | writePlanar | readPlanar =>
          cases htransfer
          exact Layer.isAnswer_or_lt_of_recordPlanar hanswers h
      | commit frames =>
          cases htransfer
          exact Layer.isAnswer_or_lt_of_recordCommit hanswers h
      | rewind frames =>
          cases htransfer
          exact .inl (Layer.isAnswer_of_recordRewind hanswers h)
      | _ => cases htransfer

end FrameTee
