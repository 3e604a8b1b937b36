import FrameTee.Proofs.Bytes
import FrameTee.Proofs.Ring.Store

/-!
# Frames of a memory device

Loading frames from the ring of a memory device and storing frames in it, both at a position of the
stream, succeed for every position when the ring is laid out for its setup. The spans of the range
are walked one after the other, and the property that is carried along says what the spans so far
have loaded or stored.
-/

namespace FrameTee.MemoryDevice

open MappedRing

variable {m : MemoryDevice} {layout : RingLayout} {s : StreamSetup}

/-- Loading appends what the ring holds for the frames. -/
theorem loadOnto_eq_ok (h : m.mapped.Laid layout s) (position frames : Nat) (out : Bytes) :
    m.loadOnto s position frames out =
      (.ok (), out ++ m.mapped.streamBytes s position frames) := by
  have hwalk := RingSpans.exists_walk_eq_ok (m.loadSpan s)
    (P := fun reached state => position ≤ reached ∧
      state = out ++ m.mapped.streamBytes s position (reached - position))
    h.supported.bufferSize_pos position frames out ?_ ?_
  · obtain ⟨after, hafter, -, rfl⟩ := hwalk
    rw [loadOnto, hafter, Nat.add_sub_cancel_left]
  · rintro reached n state hreached - - hfits ⟨-, rfl⟩
    refine ⟨_, ?_, by omega, rfl⟩
    have hsplit : reached + n - position = reached - position + n := by omega
    have hstart : position + (reached - position) = reached := by omega
    rw [loadSpan, h.copyInterleaved_eq_ok hfits, hsplit, streamBytes_add, hstart,
      h.streamBytes_mod]
    simp only [Array.append_assoc]
  · refine ⟨Nat.le_refl _, ?_⟩
    rw [Nat.sub_self]
    simp [streamBytes]

/-- Loading yields what the ring holds for the frames. -/
theorem loadAt_eq_ok (h : m.mapped.Laid layout s) (position frames : Nat) :
    m.loadAt s position frames = .ok (m.mapped.streamBytes s position frames) := by
  simp only [loadAt, loadOnto_eq_ok h, Array.empty_append]

/-- Storing one span carries what has been stored from a position on one span further. The span
takes its frames from where the spans before it have stopped. -/
theorem storeSpan_eq_ok (h : m.mapped.Laid layout s) {position done n : Nat} {src : Bytes}
    (hspan : (position + done) % s.bufferSize + n ≤ s.bufferSize)
    (hsrc : (done + n) * s.geometry.frameBytes ≤ src.size) (hfits : done + n ≤ s.bufferSize)
    {data : Memory} (hstored : Stored s (position * s.geometry.frameBytes)
      (done * s.geometry.frameBytes) (src.getD · 0) m.mapped ⟨data, m.areas⟩) :
    ∃ data', m.storeSpan s src ⟨(position + done) % s.bufferSize, n⟩ (data, done) =
        (.ok (), data', done + n) ∧
      Stored s (position * s.geometry.frameBytes) ((done + n) * s.geometry.frameBytes)
        (src.getD · 0) m.mapped ⟨data', m.areas⟩ := by
  have hsize : (src.extract (done * s.geometry.frameBytes)
      ((done + n) * s.geometry.frameBytes)).size = n * s.geometry.frameBytes := by
    rw [Array.size_extract, Nat.min_eq_left hsrc, Nat.add_mul, Nat.add_sub_cancel_left]
  have hcount : s.geometry.bytesToFrames (src.extract (done * s.geometry.frameBytes)
      ((done + n) * s.geometry.frameBytes)).size = n := by
    rw [hsize, s.geometry.bytesToFrames_mul h.supported.channels_pos]
  have hlaid := hstored.laid h
  obtain ⟨data', hdata', hnext⟩ := hlaid.storeInterleaved_eq_ok
    ((position + done) % s.bufferSize) (by rw [hcount]; exact hspan)
  rw [hcount] at hnext
  refine ⟨data', by simp only [storeSpan, hdata']; rfl, ?_⟩
  rw [Nat.add_mul]
  apply hstored.trans _ (by
    rw [← Nat.add_mul]
    exact Nat.mul_le_mul_right _ hfits)
  rw [← Nat.add_mul]
  apply (hnext.ofPlace hlaid).congr
  intro i hi
  apply Bytes.getD_extract _ hsrc
  rw [Nat.add_mul]
  omega

/-- Storing no more frames than the ring has room for stores all of them. -/
theorem storeAt_eq_ok (h : m.mapped.Laid layout s) (position : Nat) (src : Bytes)
    (hfits : s.geometry.bytesToFrames src.size ≤ s.bufferSize) :
    ∃ ring, m.storeAt s position src = (.ok (), ring) ∧
      Stored s (position * s.geometry.frameBytes)
        (s.geometry.bytesToFrames src.size * s.geometry.frameBytes) (src.getD · 0) m.mapped
        ⟨ring, m.areas⟩ := by
  have hsrc := s.geometry.bytesToFrames_mul_le src.size
  generalize hk : s.geometry.bytesToFrames src.size = k at hfits hsrc ⊢
  have hwalk := RingSpans.exists_walk_eq_ok (m.storeSpan s src)
    (P := fun reached state => reached = position + state.2 ∧
      Stored s (position * s.geometry.frameBytes) (state.2 * s.geometry.frameBytes) (src.getD · 0)
        m.mapped ⟨state.1, m.areas⟩)
    h.supported.bufferSize_pos position k (m.ring, 0) ?_ ?_
  · obtain ⟨⟨ring, done⟩, hafter, hdone, hstored⟩ := hwalk
    obtain rfl : k = done := Nat.add_left_cancel hdone
    exact ⟨ring, by rw [storeAt, hk, hafter], hstored⟩
  · rintro reached n ⟨data, done⟩ - - hend hspan ⟨rfl, hstored⟩
    have hle : (done + n) * s.geometry.frameBytes ≤ src.size :=
      Nat.le_trans (Nat.mul_le_mul_right _ (by omega)) hsrc
    obtain ⟨data', hdata', hnext⟩ := storeSpan_eq_ok h hspan hle (by omega) hstored
    exact ⟨(data', done + n), hdata', Nat.add_assoc _ _ _, hnext⟩
  · refine ⟨rfl, ?_⟩
    simp only [Nat.zero_mul]
    exact Stored.refl s _ _ m.mapped

end FrameTee.MemoryDevice
