import FrameTee.Proofs.Area.Interleaving
import FrameTee.Proofs.Device.Reached
import FrameTee.Proofs.Stack.Asking

/-!
# Requests over a memory device

Frames that a memory device has moved come to requests that are known in advance
(`Transfer.Asked`): writes of whole frames, as many as were moved, or one move back over all of
them. No fault follows them, so a recording over a memory device ends when its sink fails or when
all requests were granted.
-/

namespace FrameTee

open MappedRing MemoryDevice RingSpans

variable {μ η : Type} [Medium μ η]

/-- Frames of several requests together. -/
def SinkRequest.total (requests : List SinkRequest) : Nat :=
  requests.foldr (·.frames + ·) 0

/-- The requests that `n` frames come to: to write them in pieces, or to move back over them. -/
inductive SinkRequest.Moves (g : FrameGeometry) (n : Nat) : List SinkRequest → Prop where
  | forth {requests : List SinkRequest}
      (hwrites : ∀ request ∈ requests, ∃ bytes frames, request = .write bytes frames ∧
        (SinkRequest.write bytes frames).Fits g)
      (htotal : total requests = n) : Moves g n requests
  | back : Moves g n [.back n (n * g.frameBytes)]

theorem SinkRequest.Moves.calls {g : FrameGeometry} {n : Nat} {requests : List SinkRequest}
    (h : Moves g n requests) (hpos : 0 < g.frameBytes)
    (hfar : n * g.frameBytes ≤ Sink.maxDistance) : ∀ request ∈ requests, request.Calls := by
  cases h with
  | forth hwrites htotal =>
      intro request hmem
      obtain ⟨bytes, frames, rfl, hfits⟩ := hwrites request hmem
      exact hfits.calls_write hpos
  | back => exact List.forall_mem_singleton.mpr hfar

/-- A recording of bytes comes to a single write. -/
theorem Recording.exists_asks_of_eq_record {g : FrameGeometry} {n : Nat} {bytes : Bytes}
    {recording : Recording μ η} (hrecording : recording = Layer.record bytes n)
    (hsize : bytes.size = n * g.frameBytes) (hn : 0 < n) :
    ∃ requests, SinkRequest.Moves g n requests ∧ recording.Asks requests none := by
  refine ⟨[.write bytes n], .forth ?_ (Nat.add_zero n), ?_⟩
  · exact List.forall_mem_singleton.mpr ⟨bytes, n, rfl, hn, hsize⟩
  · rw [hrecording]
    exact Layer.asks_carryOut _

section Memory

variable {m : MemoryDevice} {layout : RingLayout} {s : StreamSetup} {n : Nat}

namespace Layer

/-- All spans inside a ring that is laid out can be read. -/
theorem spanRequests_of_laid {ring : MappedRing} (h : ring.Laid layout s) {spans : List RingSpan}
    (hspans : ∀ span ∈ spans, span.offset + span.frames ≤ s.bufferSize) :
    spanRequests ring s.geometry spans =
      (spans.map fun span =>
        .write (ring.streamBytes s span.offset span.frames) span.frames, none) := by
  induction spans with
  | nil => rfl
  | cons span rest ih =>
      rw [spanRequests, h.copyInterleaved_eq_ok (hspans span List.mem_cons_self)]
      dsimp only
      rw [ih fun other hmem => hspans other (List.mem_cons_of_mem _ hmem)]
      rfl

/-- Frames that are handed over in the ring are asked to be written span by span. -/
theorem exists_asks_recordCommit (hsetup : m.setup = some s) (h : m.mapped.Laid layout s)
    (position : Nat) :
    ∃ requests, SinkRequest.Moves s.geometry n requests ∧
      (recordCommit position m n : Recording μ η).Asks requests none := by
  have hmapped : Device.mappedRing m = .ok m.mapped := MemoryDevice.mappedRing_eq_ok hsetup
  have hdevice : Device.setup m = .ok s := MemoryDevice.requireSetup_eq_ok hsetup "setup"
  have hpos := h.supported.bufferSize_pos
  generalize hsplit : (RingCursor.ofPosition position s.bufferSize).split n = spans
  have hcapacity : spans.cursor.capacity = s.bufferSize := by
    rw [← hsplit]
    rfl
  have hspans : ∀ span ∈ spans.toList,
      0 < span.frames ∧ span.offset + span.frames ≤ s.bufferSize := by
    intro span hspan
    rw [← hcapacity]
    exact bounds_of_mem_toList hspan
  refine ⟨spans.toList.map fun span =>
    .write (m.mapped.streamBytes s span.offset span.frames) span.frames, .forth ?_ ?_, ?_⟩
  · intro request hmem
    obtain ⟨span, hspan, rfl⟩ := List.mem_map.mp hmem
    exact ⟨_, _, rfl, (hspans span hspan).1, size_streamBytes _ _⟩
  · rw [SinkRequest.total, List.foldr_map]
    refine (foldr_frames_toList (by omega)).trans ?_
    rw [← hsplit]
    rfl
  · intro layer w
    have hcarries := carries_visitAll m.mapped s.geometry spans.toList layer w
    rw [spanRequests_of_laid h fun span hspan => (hspans span hspan).2] at hcarries
    simp only [recordCommit, hdevice, if_neg (Nat.pos_iff_ne_zero.mp hpos), hmapped, hsplit,
      walk_eq_visitAll]
    exact hcarries

/-- Frames that are taken back are asked to be taken back at once. -/
theorem asks_recordRewind (hsetup : m.setup = some s) (hs : s.Supported) (hn : n ≤ s.bufferSize) :
    (recordRewind m n : Recording μ η).Asks [.back n (n * s.geometry.frameBytes)] none := by
  have hrecord : (recordRewind m n : Recording μ η) =
      carryOut (.back n (n * s.geometry.frameBytes)) := by
    funext layer w
    simp only [recordRewind, geometry_eq_ok hsetup, hs.framesToBytes?_eq hn, carryOut]
    rfl
  rw [hrecord]
  exact asks_carryOut _

end Layer

/-- Frames that a memory device has moved come to requests that no fault follows. -/
def Transfer.Asked (m : MemoryDevice) (transfer : Transfer MemoryDevice μ η) (n : Nat) : Prop :=
  ∃ s requests, m.setup = some s ∧ s.Supported ∧ n ≤ s.bufferSize ∧
    SinkRequest.Moves s.geometry n requests ∧
    (transfer.recording transfer.step.device n).Asks requests none

section Asked

variable {transfer : Transfer MemoryDevice μ η} (h : m.Intact)
include h

theorem Transfer.asked_of_moved {after : MemoryDevice} {k : Nat} (hsetup : m.setup = some s)
    (hk : k ≤ s.bufferSize) (hmoved : transfer.step = .ok k after)
    (hasks : 0 < k → ∃ requests, SinkRequest.Moves s.geometry k requests ∧
      (transfer.recording after k).Asks requests none)
    (hstep : transfer.step.result = .ok n) (hn : 0 < n) : transfer.Asked m n := by
  rw [hmoved] at hstep
  obtain rfl := Except.ok.inj hstep
  obtain ⟨layout, hlaid⟩ := h.laid s hsetup
  obtain ⟨requests, hmoves, hrequests⟩ := hasks hn
  refine ⟨s, requests, hsetup, hlaid.supported, hk, hmoves, ?_⟩
  rw [hmoved]
  exact hrequests

theorem asked_writeInterleaved (buffer : Bytes) (frames : Nat)
    (hstep : (m.writeInterleaved buffer frames).result = .ok n) (hn : 0 < n) :
    (⟨m.writeInterleaved buffer frames, Layer.recordInterleaved buffer⟩ :
      Transfer MemoryDevice μ η).Asked m n := by
  obtain hrefuses | ⟨s, k, ring, -, hgrants, hsize, -, hmoved⟩ :=
    writeInterleaved_cases h buffer frames
  · exact absurd hstep hrefuses.result_ne_ok
  · obtain ⟨layout, hlaid⟩ := h.laid s hgrants.setup
    have hle := h.le_bufferSize hgrants
    refine Transfer.asked_of_moved h hgrants.setup hle hmoved ?_ hstep hn
    apply Recording.exists_asks_of_eq_record
    · exact Layer.recordInterleaved_eq_record (m := m.advanced k ring) hgrants.setup
        hlaid.supported hle hsize
    · rw [Array.size_extract, Nat.min_eq_left hsize, Nat.sub_zero]

theorem asked_writePlanar (buffers : Array Bytes) (frames : Nat)
    (hstep : (m.writePlanar buffers frames).result = .ok n) (hn : 0 < n) :
    (⟨m.writePlanar buffers frames, Layer.recordPlanar buffers⟩ :
      Transfer MemoryDevice μ η).Asked m n := by
  obtain hrefuses | ⟨s, k, flat, ring, -, hgrants, hflat, -, hmoved⟩ :=
    writePlanar_cases h buffers frames
  · exact absurd hstep hrefuses.result_ne_ok
  · refine Transfer.asked_of_moved h hgrants.setup (h.le_bufferSize hgrants) hmoved ?_ hstep hn
    apply Recording.exists_asks_of_eq_record
    · exact Layer.recordPlanar_eq_record (m := m.advanced k ring) hgrants.setup hflat
    · exact ChannelAreas.size_of_copyInterleaved_eq_ok hflat

theorem asked_readInterleaved (buffer : Bytes) (frames : Nat)
    (hstep : (m.readInterleaved buffer frames).1.result = .ok n) (hn : 0 < n) :
    (⟨(m.readInterleaved buffer frames).1,
      Layer.recordInterleaved (m.readInterleaved buffer frames).2⟩ :
      Transfer MemoryDevice μ η).Asked m n := by
  obtain ⟨hrefuses, -⟩ | ⟨s, k, -, hgrants, hsize, hmoved⟩ :=
    readInterleaved_cases h buffer frames
  · exact absurd hstep hrefuses.result_ne_ok
  · obtain ⟨layout, hlaid⟩ := h.laid s hgrants.setup
    generalize hfilled : Bytes.blit (m.mapped.streamBytes s m.applPtr k) 0 buffer 0
      (k * s.geometry.frameBytes) = filled at hmoved
    have hlong : k * s.geometry.frameBytes ≤ filled.size := by
      rw [← hfilled, Bytes.size_blit]
      exact hsize
    rw [hmoved] at hstep ⊢
    have hle := h.le_bufferSize hgrants
    refine Transfer.asked_of_moved h hgrants.setup hle rfl ?_ hstep hn
    apply Recording.exists_asks_of_eq_record
    · exact Layer.recordInterleaved_eq_record (m := m.advanced k m.ring) hgrants.setup
        hlaid.supported hle hlong
    · rw [Array.size_extract, Nat.min_eq_left hlong, Nat.sub_zero]

theorem asked_readPlanar (buffers : Array Bytes) (frames : Nat)
    (hstep : (m.readPlanar buffers frames).1.result = .ok n) (hn : 0 < n) :
    (⟨(m.readPlanar buffers frames).1, Layer.recordPlanar (m.readPlanar buffers frames).2⟩ :
      Transfer MemoryDevice μ η).Asked m n := by
  obtain ⟨hrefuses, -⟩ | ⟨s, k, -, hgrants, hcount, hsize, hmoved⟩ :=
    readPlanar_cases h buffers frames
  · exact absurd hstep hrefuses.result_ne_ok
  · obtain ⟨layout, hlaid⟩ := h.laid s hgrants.setup
    have hfits := h.bytes_le_maxSize hgrants
    rw [hmoved] at hstep ⊢
    refine Transfer.asked_of_moved h hgrants.setup (h.le_bufferSize hgrants) rfl ?_ hstep hn
    apply Recording.exists_asks_of_eq_record
    · exact Layer.recordPlanar_eq_record (m := m.advanced k m.ring) hgrants.setup
        (copyInterleaved_spread hcount hlaid.supported.channels_pos hsize hfits
          (size_streamBytes _ _))
    · exact size_streamBytes m.applPtr k

theorem asked_commit (frames : Nat) (hstep : (m.commit frames).result = .ok n) (hn : 0 < n) :
    (⟨m.commit frames, Layer.recordCommit m.applPtr⟩ : Transfer MemoryDevice μ η).Asked m n := by
  obtain hrefuses | ⟨s, k, hgrants, hmoved⟩ := m.commit_cases frames
  · exact absurd hstep hrefuses.result_ne_ok
  · obtain ⟨layout, hlaid⟩ := h.laid s hgrants.setup
    exact Transfer.asked_of_moved h hgrants.setup (h.le_bufferSize hgrants) hmoved
      (fun _ => Layer.exists_asks_recordCommit (m := m.advanced k m.ring) hgrants.setup hlaid
        m.applPtr) hstep hn

theorem asked_rewind (frames : Nat) (hstep : (m.rewind frames).result = .ok n) (hn : 0 < n) :
    (⟨m.rewind frames, Layer.recordRewind⟩ : Transfer MemoryDevice μ η).Asked m n := by
  obtain hrefuses | ⟨s, k, hsetup, hrewindable, hmoved⟩ := m.rewind_cases frames
  · exact absurd hstep hrefuses.result_ne_ok
  · obtain ⟨layout, hlaid⟩ := h.laid s hsetup
    have hk : k ≤ s.bufferSize :=
      Nat.le_trans hrewindable (rewindable_le_bufferSize (h.window s hsetup))
    exact Transfer.asked_of_moved h hsetup hk hmoved
      (fun _ => ⟨_, .back, Layer.asks_recordRewind (m := { m with applPtr := m.applPtr - k })
        hsetup hlaid.supported hk⟩) hstep hn

theorem Transfer.asked {action : Action} (htransfer : action.transfer? μ η m = some transfer)
    (hstep : transfer.step.result = .ok n) (hn : 0 < n) : transfer.Asked m n := by
  cases action with
  | poke address value => cases htransfer
  | ask request =>
      cases request with
      | writeInterleaved buffer frames =>
          cases htransfer
          exact asked_writeInterleaved h buffer frames hstep hn
      | writePlanar buffers frames =>
          cases htransfer
          exact asked_writePlanar h buffers frames hstep hn
      | readInterleaved buffer frames =>
          cases htransfer
          exact asked_readInterleaved h buffer frames hstep hn
      | readPlanar buffers frames =>
          cases htransfer
          exact asked_readPlanar h buffers frames hstep hn
      | commit frames =>
          cases htransfer
          exact asked_commit h frames hstep hn
      | rewind frames =>
          cases htransfer
          exact asked_rewind h frames hstep hn
      | _ => cases htransfer

end Asked

end Memory

end FrameTee
