import FrameTee.Proofs.Sink.Trace

/-!
# Positions of handles

A `Gauge` reads off media where the next write of a handle goes, for a handle of which a failing
write or seek moves nothing. Nothing is said of writes that are taken in part, and nothing of the
bytes. Other handles may reach the same bytes; what is asked through them leaves the gauge alone if
it ignores them (`Gauge.Ignores`).
-/

namespace FrameTee

variable {μ η : Type} [Medium μ η]

/-- A way to read the position of a handle that moves with requests that are granted and with no
others. -/
structure Gauge (μ : Type) {η : Type} [Medium μ η] (handle : η) where
  /-- The position, if there is one. -/
  position : μ → Option Nat
  /-- A write that is taken in full moves on over its bytes. -/
  write_full : ∀ {media : μ} {p : Nat} (bytes : Bytes), position media = some p →
    bytes.isEmpty = false → (Medium.write handle bytes media).1 = .ok bytes.size →
      position (Medium.write handle bytes media).2 = some (p + bytes.size)
  /-- A write that fails moves nothing. -/
  write_failed : ∀ {media : μ} {p : Nat} {source : IoError} (bytes : Bytes),
    position media = some p → bytes.isEmpty = false →
      (Medium.write handle bytes media).1 = .error source →
        position (Medium.write handle bytes media).2 = some p
  /-- A seek back ends before the position by its distance. -/
  seek_back : ∀ {media : μ} {p told : Nat} (distance : Nat), position media = some p →
    (Medium.seek handle (-(distance : Int)) media).1 = .ok told →
      distance ≤ p ∧
        position (Medium.seek handle (-(distance : Int)) media).2 = some (p - distance)
  /-- A seek back that fails moves nothing. -/
  seek_failed : ∀ {media : μ} {p : Nat} {source : IoError} (distance : Nat),
    position media = some p →
      (Medium.seek handle (-(distance : Int)) media).1 = .error source →
        position (Medium.seek handle (-(distance : Int)) media).2 = some p

namespace Gauge

variable {handle : η} (gauge : Gauge μ handle)

/-- Writes and seeks through another handle leave the position alone. -/
structure Ignores (other : η) : Prop where
  /-- It is another handle. -/
  ne : other ≠ handle
  /-- Writes leave the position alone. -/
  write : ∀ (media : μ) (bytes : Bytes),
    gauge.position (Medium.write other bytes media).2 = gauge.position media
  /-- Seeks leave the position alone. -/
  seek : ∀ (media : μ) (distance : Int),
    gauge.position (Medium.seek other distance media).2 = gauge.position media

variable {gauge} {media : μ} {p : Nat} {request : SinkRequest}

theorem Ignores.position_send {other : η} (h : gauge.Ignores other) (media : μ)
    (request : SinkRequest) :
    gauge.position (request.send other media).2 = gauge.position media := by
  cases request with
  | write bytes frames => exact h.write media bytes
  | back frames bytes => exact h.seek media _

/-- A request that is not granted moves nothing, unless a write was taken in part. -/
theorem position_of_fails {label : SinkLabel} {e : SinkError} (h : gauge.position media = some p)
    (hcalls : request.Calls) (hfails : request.Fails label (request.send handle media).1 e) :
    gauge.position (request.send handle media).2 = some p ∨
      ∃ expected written, e = .shortWrite label expected written := by
  generalize hreply : (request.send handle media).1 = reply at hfails
  cases hfails with
  | write bytes frames source => exact .inl (gauge.write_failed bytes h hcalls hreply)
  | short bytes frames taken _ => exact .inr ⟨_, _, rfl⟩
  | seek frames bytes source => exact .inl (gauge.seek_failed bytes h hreply)

end Gauge

end FrameTee
