import FrameTee.Proofs.Ring.Store

/-!
# Rings that hold the same frames

Two rings that are laid out for the same setup, each in its own way, may hold the same stream of
frames (`MappedRing.Alike`). Then the same frames are read from both, and storing the same frames in
both leaves them alike (`MappedRing.Alike.stored`).
-/

namespace FrameTee.MappedRing

variable {s : StreamSetup} {ring ring' next next' : MappedRing}

/-- Two rings are laid out for a setup, in whatever way, and hold the same stream of frames. -/
structure Alike (s : StreamSetup) (ring ring' : MappedRing) : Prop where
  /-- The one ring is laid out. -/
  laid : ∃ layout, ring.Laid layout s
  /-- The other ring is laid out. -/
  laid' : ∃ layout, ring'.Laid layout s
  /-- Both hold the same byte for every byte of the stream. -/
  streamByte_eq : ∀ j, ring'.streamByte s j = ring.streamByte s j

namespace Alike

theorem streamBytes_eq (h : Alike s ring ring') (position frames : Nat) :
    ring'.streamBytes s position frames = ring.streamBytes s position frames :=
  streamBytes_congr fun j _ _ => h.streamByte_eq j

/-- The same frames are read from both. -/
theorem copyInterleaved_eq (h : Alike s ring ring') {offset frames : Nat}
    (hfits : offset + frames ≤ s.bufferSize) :
    ring'.copyInterleaved s.geometry offset frames =
      ring.copyInterleaved s.geometry offset frames := by
  obtain ⟨layout, hlaid⟩ := h.laid
  obtain ⟨layout', hlaid'⟩ := h.laid'
  calc
    ring'.copyInterleaved s.geometry offset frames = .ok (ring'.streamBytes s offset frames) :=
      hlaid'.copyInterleaved_eq_ok hfits
    _ = .ok (ring.streamBytes s offset frames) := by rw [h.streamBytes_eq]
    _ = ring.copyInterleaved s.geometry offset frames := (hlaid.copyInterleaved_eq_ok hfits).symm

/-- Storing the same bytes at the same place of the stream leaves the rings alike. -/
theorem stored (h : Alike s ring ring') {start count : Nat} {byte : Nat → UInt8}
    (hstored : Stored s start count byte ring next)
    (hstored' : Stored s start count byte ring' next') : Alike s next next' := by
  obtain ⟨layout, hlaid⟩ := h.laid
  obtain ⟨layout', hlaid'⟩ := h.laid'
  have hnext := hstored.laid hlaid
  have hnext' := hstored'.laid hlaid'
  refine ⟨⟨layout, hnext⟩, ⟨layout', hnext'⟩, fun j => ?_⟩
  -- A byte of the stream is one of those that were stored, up to whole rings, or it stays.
  by_cases hin : ∃ i < count, (start + i) % s.ringBytes = j % s.ringBytes
  · obtain ⟨i, hi, hij⟩ := hin
    calc
      next'.streamByte s j = next'.streamByte s (start + i) := hnext'.streamByte_congr hij.symm
      _ = byte i := hstored'.inside i hi
      _ = next.streamByte s (start + i) := (hstored.inside i hi).symm
      _ = next.streamByte s j := hnext.streamByte_congr hij
  · have hout : ∀ i < count, (start + i) % s.ringBytes ≠ j % s.ringBytes :=
      fun i hi hij => hin ⟨i, hi, hij⟩
    calc
      next'.streamByte s j = ring'.streamByte s j := hstored'.outside j hout
      _ = ring.streamByte s j := h.streamByte_eq j
      _ = next.streamByte s j := (hstored.outside j hout).symm

/-- Rings of zeros are alike. -/
theorem zeros (hs : s.Supported) (layout layout' : RingLayout) :
    Alike s ⟨.zeros s.ringBytes, MemoryDevice.channelLayouts layout s⟩
      ⟨.zeros s.ringBytes, MemoryDevice.channelLayouts layout' s⟩ := by
  have hlaid : ∀ layout, Laid layout s
      ⟨.zeros s.ringBytes, MemoryDevice.channelLayouts layout s⟩ := fun _ => ⟨hs, rfl, rfl⟩
  refine ⟨⟨layout, hlaid layout⟩, ⟨layout', hlaid layout'⟩, fun j => ?_⟩
  rw [(hlaid layout).streamByte_eq, (hlaid layout').streamByte_eq, Memory.get_zeros,
    Memory.get_zeros]

end Alike

end FrameTee.MappedRing
