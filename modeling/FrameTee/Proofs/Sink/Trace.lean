import FrameTee.Sink.Basic

/-!
# Media that keep the calls

What a run has asked of its media cannot be told from the media afterwards. `Traced` is media
together with the calls that were made through handles, each with its reply, oldest first. A traced
medium passes every call on to the medium below and answers what that answers.

Between a tee and the medium stand `SinkRequest`s: to write the bytes of frames, and to move back
over them. A request makes at most one call (`SinkRequest.Calls`), and what its reply means for the
sink is `SinkRequest.GrantedBy` or `SinkRequest.Fails`.
-/

namespace FrameTee

variable {μ η : Type}

/-- A call through a handle, with the reply. -/
inductive MediumCall (η : Type) where
  /-- To write bytes. -/
  | write (handle : η) (bytes : Bytes) (reply : Except IoError Nat)
  /-- To move the position. -/
  | seek (handle : η) (distance : Int) (reply : Except IoError Nat)
  /-- To pass on what is held back. -/
  | flush (handle : η) (reply : Except IoError Unit)

namespace MediumCall

/-- The handle of a call. -/
def handle : MediumCall η → η
  | write handle _ _ | seek handle _ _ | flush handle _ => handle

/-- Whether a call is a write that was accepted in full. -/
def isFullWrite : MediumCall η → Bool
  | write _ bytes (.ok taken) => taken == bytes.size
  | _ => false

end MediumCall

/-- Media with the calls made so far, oldest first. -/
structure Traced (μ η : Type) where
  /-- The media. -/
  media : μ
  /-- The calls. -/
  calls : List (MediumCall η) := []

/-- Opening and duplicating go through no handle yet, so they are passed on without a call. -/
instance [Medium μ η] : Medium (Traced μ η) η where
  openFile path t :=
    let (opened, media) := Medium.openFile path t.media
    (opened, { t with media })
  duplicate fd t :=
    let (opened, media) := Medium.duplicate fd t.media
    (opened, { t with media })
  write handle bytes t :=
    let (reply, media) := Medium.write handle bytes t.media
    (reply, ⟨media, t.calls ++ [.write handle bytes reply]⟩)
  seek handle distance t :=
    let (reply, media) := Medium.seek handle distance t.media
    (reply, ⟨media, t.calls ++ [.seek handle distance reply]⟩)
  flush handle t :=
    let (reply, media) := Medium.flush handle t.media
    (reply, ⟨media, t.calls ++ [.flush handle reply]⟩)

/-- How many writes through a handle were accepted in full. -/
def Traced.fullWrites [DecidableEq η] (t : Traced μ η) (handle : η) : Nat :=
  t.calls.countP fun call => call.isFullWrite && decide (call.handle = handle)

theorem Traced.fullWrites_append [DecidableEq η] (t : Traced μ η) (media : μ)
    (call : MediumCall η) (handle : η) :
    (⟨media, t.calls ++ [call]⟩ : Traced μ η).fullWrites handle =
      t.fullWrites handle +
        if call.isFullWrite && decide (call.handle = handle) then 1 else 0 := by
  rw [fullWrites, List.countP_append, List.countP_singleton]
  rfl

/-- What a tee asks of its sink. -/
inductive SinkRequest where
  /-- To write the bytes of frames. -/
  | write (bytes : Bytes) (frames : Nat)
  /-- To move back over the bytes of frames. -/
  | back (frames bytes : Nat)
  deriving DecidableEq, Repr

namespace SinkRequest

/-- The frames that a request is for. -/
def frames : SinkRequest → Nat
  | write _ frames | back frames _ => frames

/-- A request is for at least one frame, and for the bytes of its frames. -/
def Fits (g : FrameGeometry) : SinkRequest → Prop
  | write bytes frames => 0 < frames ∧ bytes.size = frames * g.frameBytes
  | back frames bytes => 0 < frames ∧ bytes = frames * g.frameBytes

/-- Whether a request makes a call: not to write no bytes, nor to move further than a seek can. -/
def Calls : SinkRequest → Prop
  | write bytes _ => bytes.isEmpty = false
  | back _ bytes => bytes ≤ Sink.maxDistance

/-- The call that a request makes on a medium. -/
def send [Medium μ η] (handle : η) (media : μ) : SinkRequest → Except IoError Nat × μ
  | write bytes _ => Medium.write handle bytes media
  | back _ bytes => Medium.seek handle (-(bytes : Int)) media

/-- The call that a request makes, with a reply. -/
def call (handle : η) (reply : Except IoError Nat) : SinkRequest → MediumCall η
  | write bytes _ => .write handle bytes reply
  | back _ bytes => .seek handle (-(bytes : Int)) reply

/-- A reply grants a request: all bytes were taken, or the position was moved. -/
def GrantedBy (reply : Except IoError Nat) : SinkRequest → Prop
  | write bytes _ => reply = .ok bytes.size
  | back .. => ∃ position, reply = .ok position

/-- A reply does not grant a request, and this is how the sink fails: the write or the seek failed,
or the write took another number of bytes. -/
inductive Fails (label : SinkLabel) : SinkRequest → Except IoError Nat → SinkError → Prop where
  | write (bytes : Bytes) (frames : Nat) (source : IoError) :
      Fails label (.write bytes frames) (.error source) (.write label source)
  | short (bytes : Bytes) (frames taken : Nat) (htaken : taken ≠ bytes.size) :
      Fails label (.write bytes frames) (.ok taken) (.shortWrite label bytes.size taken)
  | seek (frames bytes : Nat) (source : IoError) :
      Fails label (.back frames bytes) (.error source) (.seek label source)

variable {g : FrameGeometry} {request : SinkRequest}

/-- A traced medium answers what the medium below answers and keeps the call. -/
theorem send_traced [Medium μ η] (handle : η) (t : Traced μ η) (request : SinkRequest) :
    request.send handle t =
      ((request.send handle t.media).1,
        ⟨(request.send handle t.media).2,
          t.calls ++ [request.call handle (request.send handle t.media).1]⟩) := by
  cases request <;> rfl

@[simp] theorem handle_call (handle : η) (reply : Except IoError Nat) (request : SinkRequest) :
    (request.call handle reply).handle = handle := by
  cases request <;> rfl

/-- A request that fails made no write that was accepted in full. -/
theorem Fails.isFullWrite_eq_false {label : SinkLabel} {reply : Except IoError Nat}
    {e : SinkError} (h : request.Fails label reply e) (handle : η) :
    (request.call handle reply).isFullWrite = false := by
  cases h with
  | write | seek => rfl
  | short _ _ _ htaken => exact beq_eq_false_iff_ne.mpr htaken

/-- Frames of at least one channel have bytes to write. -/
theorem Fits.calls_write {bytes : Bytes} {frames : Nat} (h : (write bytes frames).Fits g)
    (hpos : 0 < g.frameBytes) : (write bytes frames).Calls := by
  have hsize : 0 < bytes.size := by
    rw [h.2]
    exact Nat.mul_pos h.1 hpos
  exact Bool.eq_false_iff.mpr fun hempty => by
    rw [Array.isEmpty_iff_size_eq_zero] at hempty
    omega

end SinkRequest

end FrameTee
