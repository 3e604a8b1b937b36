import FrameTee.Proofs.Area.Checked
import FrameTee.Proofs.Device.Operations
import FrameTee.Proofs.Ring.Split

/-!
# Checked moves into and out of a ring

The operations of a memory device compute with counts and take slices of buffers. In this module and
the next ones each of them is stated once more with every sum, difference and product and the bounds
of every slice checked, and without an outcome if one of these checks fails: `MemoryDevice.storeAt?`
is `MemoryDevice.storeAt`, and so on.

No check fails when frames are stored in a ring or loaded from it. Opening a transfer subtracts the
frames that are pending from the room in the ring, and so needs the positions to be no further apart
than the ring is long.
-/

namespace FrameTee

/-- A list is mapped as a whole if each of its elements is. -/
theorem mapM_eq_some {α β : Type} {f : α → Option β} {g : α → β} {xs : List α}
    (h : ∀ x ∈ xs, f x = some (g x)) : xs.mapM f = some (xs.map g) := by
  induction xs with
  | nil => rfl
  | cons x xs ih =>
      rw [List.mapM_cons, h x List.mem_cons_self, ih fun y hy => h y (List.mem_cons_of_mem _ hy)]
      rfl

namespace StreamSetup.Supported

variable {s : StreamSetup}

theorem bufferSize_lt (h : s.Supported) : s.bufferSize < Count.limit :=
  Nat.lt_of_le_of_lt h.bufferSize_le (by decide)

theorem byteLength_eq (h : s.Supported) {frames : Nat} (hframes : frames ≤ s.bufferSize) :
    MemoryDevice.byteLength s frames = .ok (frames * s.geometry.frameBytes) := by
  rw [MemoryDevice.byteLength, h.framesToBytes?_eq hframes]

end StreamSetup.Supported

namespace MemoryDevice

open MappedRing

variable {m : MemoryDevice} {s : StreamSetup} {n : Nat}

/-- The positions of a device are counts. -/
structure Countable (m : MemoryDevice) : Prop where
  /-- The position of the application is a count. -/
  applPtr : m.applPtr < Count.limit
  /-- The position of the hardware is a count. -/
  hwPtr : m.hwPtr < Count.limit

section Checked

variable (m : MemoryDevice)

/-- Frames that the application can move at once. -/
def avail? (s : StreamSetup) : Option Nat :=
  match m.direction with
  | .playback => Count.sub? s.bufferSize m.pending
  | .capture => some m.captured

/-- The frames that a transfer of `frames` frames may move now. -/
def movable? (s : StreamSetup) (frames : Nat) : Option Nat := do
  let avail ← m.avail? s
  let n := min frames avail
  match m.transferLimit with
  | none => some n
  | some limit => some (min n limit)

/-- Opens a transfer. -/
def beginTransfer? (op : String) (frames : Nat) :
    Option (Except StreamError Nat × MemoryDevice) :=
  match m.fault with
  | some error => some (.error error, { m with fault := none })
  | none =>
    match m.setup with
    | none => some (.error (m.badState op), m)
    | some s =>
      match m.state with
      | .prepared | .running => do
        let n ← m.movable? s frames
        if n = 0 ∧ 0 < frames ∧ m.nonblocking = true then some (.error .wouldBlock, m)
        else if 0 < n then some (.ok n, { m with state := .running })
        else some (.ok n, m)
      | .xrun => some (.error .xrun, m)
      | .suspended => some (.error .suspended, m)
      | .disconnected => some (.error .disconnected, m)
      | _ => some (.error (m.badState op), m)

/-- Stores one span of `src` in the ring, taken as a slice. -/
def storeSpan? (s : StreamSetup) (src : Bytes) (span : RingSpan) (state : Memory × Nat) :
    Option (Except StreamError Unit × Memory × Nat) := do
  let (data, done) := state
  let reached ← Count.add? done span.frames
  match byteLength s done, byteLength s reached with
  | .ok start, .ok stop =>
    let frames ← src.slice? start stop
    let (result, data) ←
      MappedRing.storeInterleaved? ⟨data, m.areas⟩ s.geometry span.offset frames
    some (result.mapError .area, data, reached)
  | .error e, _ => some (.error e, data, done)
  | _, .error e => some (.error e, data, done)

/-- Stores the whole frames of `src` in the ring from a stream position on. -/
def storeAt? (s : StreamSetup) (position : Nat) (src : Bytes) :
    Option (Except StreamError Unit × Memory) := do
  let spans := (RingCursor.ofPosition position s.bufferSize).split
    (s.geometry.bytesToFrames src.size)
  let (result, data, _) ← spans.walk? (m.storeSpan? s src) (m.ring, 0)
  some (result, data)

/-- Appends the frames of one span of the ring to `out`. -/
def loadSpan? (s : StreamSetup) (span : RingSpan) (out : Bytes) :
    Option (Except StreamError Unit × Bytes) := do
  match ← m.mapped.areas.copyInterleaved? s.geometry span.offset span.frames with
  | .error e => some (.error (.area e), out)
  | .ok data => some (.ok (), out ++ data)

/-- Appends frames of the ring to `out`. -/
def loadOnto? (s : StreamSetup) (position frames : Nat) (out : Bytes) :
    Option (Except StreamError Unit × Bytes) :=
  ((RingCursor.ofPosition position s.bufferSize).split frames).walk? (m.loadSpan? s) out

/-- The frames of the ring from a stream position on. -/
def loadAt? (s : StreamSetup) (position frames : Nat) : Option (Except StreamError Bytes) := do
  match ← m.loadOnto? s position frames #[] with
  | (.error e, _) => some (.error e)
  | (.ok (), out) => some (.ok out)

/-- Stores `n` frames at the application position and moves the position on. -/
def storeNext? (s : StreamSetup) (src : Bytes) (n : Nat) :
    Option (DeviceStep MemoryDevice Nat) := do
  match ← m.storeAt? s m.applPtr src with
  | (.error e, ring) => some (.fail e { m with ring })
  | (.ok (), ring) =>
    let applPtr ← Count.add? m.applPtr n
    some (.ok n { m with ring, applPtr })

end Checked

theorem storeSpan?_eq_some (hpos : 0 < s.geometry.frameBytes) {src : Bytes} {done offset : Nat}
    (hsrc : (done + n) * s.geometry.frameBytes ≤ src.size) (hlt : src.size < Count.limit)
    (data : Memory) :
    m.storeSpan? s src ⟨offset, n⟩ (data, done) =
      some (m.storeSpan s src ⟨offset, n⟩ (data, done)) := by
  have hreached : done + n ≤ (done + n) * s.geometry.frameBytes := Nat.le_mul_of_pos_right _ hpos
  have hdone : done * s.geometry.frameBytes ≤ (done + n) * s.geometry.frameBytes :=
    Nat.mul_le_mul_right _ (Nat.le_add_right _ _)
  have hstart : byteLength s done = .ok (done * s.geometry.frameBytes) := by
    rw [byteLength, s.geometry.framesToBytes?_eq_some (by omega)]
  have hstop : byteLength s (done + n) = .ok ((done + n) * s.geometry.frameBytes) := by
    rw [byteLength, s.geometry.framesToBytes?_eq_some (by omega)]
  have hslice : (src.extract (done * s.geometry.frameBytes)
      ((done + n) * s.geometry.frameBytes)).size < Count.limit := by
    rw [Array.size_extract]
    omega
  have hsum : Count.add? done n = some (done + n) := Count.add?_eq_some (by omega)
  simp only [storeSpan?, storeSpan, hsum, hstart, hstop, Bytes.slice?_eq_some hdone hsrc,
    storeInterleaved?_eq_some _ _ _ hslice, Option.bind_eq_bind, Option.bind_some]

theorem storeAt?_eq_some (hs : s.Supported) (position : Nat) {src : Bytes}
    (hlt : src.size < Count.limit) :
    m.storeAt? s position src = some (m.storeAt s position src) := by
  have hwalk : ((RingCursor.ofPosition position s.bufferSize).split
      (s.geometry.bytesToFrames src.size)).walk? (m.storeSpan? s src) (m.ring, 0) =
        some (((RingCursor.ofPosition position s.bufferSize).split
          (s.geometry.bytesToFrames src.size)).walk (m.storeSpan s src) (m.ring, 0)) := by
    -- The second part of the state counts the frames stored so far.
    apply RingSpans.walk?_eq_some (P := fun reached state => reached = position + state.2)
      hs.bufferSize_pos hs.bufferSize_lt
    · rintro reached n ⟨data, done⟩ - - hend - rfl
      have hsrc : (done + n) * s.geometry.frameBytes ≤ src.size :=
        s.geometry.bytes_le_of_le_bytesToFrames (by omega)
      refine ⟨storeSpan?_eq_some hs.frameBytes_pos hsrc hlt data, ?_⟩
      dsimp only [storeSpan]
      rcases MappedRing.storeInterleaved ⟨data, m.areas⟩ s.geometry _ _ with ⟨e | ⟨⟩, after⟩
      · trivial
      · exact Nat.add_assoc _ _ _
    · rfl
  rw [storeAt?, storeAt, hwalk]
  rfl

theorem loadSpan?_eq_some (hs : s.Supported) {span : RingSpan} (hspan : span.frames ≤ s.bufferSize)
    (out : Bytes) : m.loadSpan? s span out = some (m.loadSpan s span out) := by
  have hroom : m.mapped.areas.HasRoom s.geometry span.frames := .of_le (hs.bytes_le_maxSize hspan)
  rw [loadSpan?, loadSpan, ChannelAreas.copyInterleaved?_eq_some _ _ _ hroom, copyInterleaved]
  cases m.mapped.areas.copyInterleaved s.geometry span.offset span.frames <;> rfl

theorem loadOnto?_eq_some (hs : s.Supported) (position frames : Nat) (out : Bytes) :
    m.loadOnto? s position frames out = some (m.loadOnto s position frames out) := by
  apply RingSpans.walk?_eq_some (P := fun _ _ => True) hs.bufferSize_pos hs.bufferSize_lt
  · intro reached n state _ _ _ hspan _
    refine ⟨loadSpan?_eq_some hs hspan _, ?_⟩
    rcases m.loadSpan s ⟨reached % s.bufferSize, n⟩ state with ⟨e | ⟨⟩, after⟩ <;> trivial
  · trivial

theorem loadAt?_eq_some (hs : s.Supported) (position frames : Nat) :
    m.loadAt? s position frames = some (m.loadAt s position frames) := by
  rw [loadAt?, loadAt, loadOnto?_eq_some hs]
  rcases m.loadOnto s position frames #[] with ⟨e | ⟨⟩, out⟩ <;> rfl

theorem storeNext?_eq_some (hs : s.Supported) {src : Bytes} (hlt : src.size < Count.limit) (n : Nat)
    (hcountable : (m.storeNext s src n).device.Countable) :
    m.storeNext? s src n = some (m.storeNext s src n) := by
  rw [storeNext] at hcountable
  rw [storeNext?, storeNext, storeAt?_eq_some hs _ hlt, Option.bind_eq_bind, Option.bind_some]
  rcases hstore : m.storeAt s m.applPtr src with ⟨e | ⟨⟩, ring⟩
  · rfl
  · rw [hstore] at hcountable
    have happl : m.applPtr + n < Count.limit := hcountable.applPtr
    dsimp only
    rw [Count.add?_eq_some happl]
    rfl

section Window

variable (hwindow : m.direction.Window m.applPtr m.hwPtr s.bufferSize)
include hwindow

/-- The free room of a player does not fall below zero. -/
theorem avail?_eq_some : m.avail? s = some (m.avail s) := by
  rw [avail?, avail]
  cases hdirection : m.direction with
  | playback =>
      rw [hdirection, Direction.window_playback] at hwindow
      apply Count.sub?_eq_some
      rw [pending]
      omega
  | capture => rfl

theorem movable?_eq_some (frames : Nat) : m.movable? s frames = some (m.movable s frames) := by
  rw [movable?, movable, avail?_eq_some hwindow]
  cases m.transferLimit <;> rfl

end Window

theorem beginTransfer?_eq_some (h : m.Intact) (op : String) (frames : Nat) :
    m.beginTransfer? op frames = some (m.beginTransfer op frames) := by
  rw [beginTransfer?, beginTransfer]
  cases m.fault with
  | some planted => rfl
  | none =>
      cases hsetup : m.setup with
      | none => rfl
      | some s =>
          have hmovable := movable?_eq_some (h.window s hsetup) frames
          cases m.state <;> try rfl
          all_goals
            dsimp only
            rw [hmovable, Option.bind_eq_bind, Option.bind_some]
            split
            · rfl
            · split <;> rfl

end MemoryDevice

end FrameTee
