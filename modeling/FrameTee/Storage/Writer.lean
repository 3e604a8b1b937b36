import FrameTee.Bytes
import FrameTee.Storage.IoError

/-!
# Writers

A `BufferWriter` is a growable sequence of bytes with a position, as a sink may be given in place of
a file. It can be told to take only so many bytes at a time and to fail its writes, from a given one
on, its seeks or its flushes.
-/

namespace FrameTee

/-- Bytes in memory that can be written and sought in. -/
structure BufferWriter where
  /-- The bytes. -/
  data : Bytes := #[]
  /-- Where the next write goes. -/
  position : Nat := 0
  /-- Most bytes that one write takes. -/
  writeLimit : Option Nat := none
  /-- Failure of writes. -/
  writeError : Option String := none
  /-- Number of the first write that fails, counted from zero. -/
  writeErrorFrom : Nat := 0
  /-- Failure of seeks. -/
  seekError : Option String := none
  /-- Failure of flushes. -/
  flushError : Option String := none
  /-- Writes asked for so far. -/
  writes : Nat := 0
  deriving DecidableEq, Repr

namespace BufferWriter

variable (b : BufferWriter)

/-- The failure of the next write, if it is to fail. -/
def pendingWriteError? : Option String :=
  if b.writeErrorFrom ≤ b.writes then b.writeError else none

/-- How many of `count` bytes one write takes. -/
def accepts (count : Nat) : Nat :=
  match b.writeLimit with
  | none => count
  | some limit => min count limit

/-- Writes at the position and moves it on. -/
def write (bytes : Bytes) : Except IoError Nat × BufferWriter :=
  match b.pendingWriteError? with
  | some text => (.error (.reported text), { b with writes := b.writes + 1 })
  | none =>
    let taken := b.accepts bytes.size
    (.ok taken,
      { b with
        data := Bytes.overwriteAt b.data b.position (bytes.extract 0 taken)
        position := b.position + taken
        writes := b.writes + 1 })

/-- Moves the position by a distance. -/
def seek (distance : Int) : Except IoError Nat × BufferWriter :=
  match b.seekError with
  | some text => (.error (.reported text), b)
  | none =>
    let target := (b.position : Int) + distance
    if target < 0 then (.error .seekBeforeStart, b)
    else (.ok target.toNat, { b with position := target.toNat })

/-- Nothing is held back, so a flush only fails when it is told to. -/
def flush : Except IoError Unit :=
  match b.flushError with
  | some text => .error (.reported text)
  | none => .ok ()

end BufferWriter

end FrameTee
