import TracedMath.Stream

/-!
Where log text can go: a buffer of limited room, and the standard streams. A line is written in
pieces, and the first piece that fails ends it.
-/

namespace TracedMath.Log

/-- What a full buffer does with a piece that does not fit. -/
inductive OnFull where
  | fail
  | panic
  deriving DecidableEq, Repr

/-- How many bytes a buffer still takes, if there is a limit. -/
structure Capacity where
  room? : Option Nat
  onFull : OnFull
  deriving DecidableEq, Repr

def Capacity.unlimited : Capacity := ⟨none, .fail⟩

structure Buffer where
  text : List UInt8
  capacity : Capacity
  deriving DecidableEq, Repr

inductive Outcome where
  | written
  | failed
  | panicked
  deriving DecidableEq, Repr

def OnFull.outcome : OnFull → Outcome
  | fail => .failed
  | panic => .panicked

/-- Of a piece that does not fit the bytes that do are stored. -/
def Buffer.write (b : Buffer) (bytes : List UInt8) : Outcome × Buffer :=
  match b.capacity.room? with
  | none => (.written, { b with text := b.text ++ bytes })
  | some room =>
    (if bytes.length ≤ room then .written else b.capacity.onFull.outcome,
      ⟨b.text ++ bytes.take room, ⟨some (room - bytes.length), b.capacity.onFull⟩⟩)

/-- One buffer and two streams serve all outputs. -/
structure Sinks where
  buffer : Buffer
  streams : Streams
  deriving DecidableEq, Repr

inductive Endpoint where
  | buffer
  | stream (writer : StreamWriter)
  deriving DecidableEq, Repr

namespace Sinks

def empty : Sinks := ⟨⟨[], .unlimited⟩, ⟨[], []⟩⟩

/-- Forgets what has arrived. The room of the buffer is not given back. -/
def drain (s : Sinks) : Sinks := ⟨{ s.buffer with text := [] }, ⟨[], []⟩⟩

def limit (s : Sinks) (c : Capacity) : Sinks := { s with buffer := { s.buffer with capacity := c } }

/-- Gives the buffer new room, or none to keep it in. -/
def refill (s : Sinks) (room? : Option Nat) : Sinks := s.limit { s.buffer.capacity with room? }

def writePiece (s : Sinks) (e : Endpoint) (text : String) : Outcome × Sinks :=
  match e with
  | .buffer =>
    let (outcome, buffer) := s.buffer.write (utf8 text)
    (outcome, { s with buffer })
  | .stream writer =>
    match writer.writeText text s.streams with
    | some streams => (.written, { s with streams })
    | none => (.failed, s)

/-- Stops at the first piece that is not written. -/
def write (s : Sinks) (e : Endpoint) : List String → Outcome × Sinks
  | [] => (.written, s)
  | piece :: rest =>
    match s.writePiece e piece with
    | (.written, s) => s.write e rest
    | stopped => stopped

end Sinks

/-- The bytes that arrive are the first ones that there is room for. -/
theorem Buffer.text_write (b : Buffer) (bytes : List UInt8) :
    (b.write bytes).2.text = b.text ++ b.capacity.room?.elim bytes bytes.take := by
  unfold Buffer.write
  split <;> simp_all

/-- Writing two pieces one after the other leaves the text that writing them as one would. -/
theorem Buffer.text_write_append (b : Buffer) (x y : List UInt8) :
    (b.write (x ++ y)).2 = ((b.write x).2.write y).2 := by
  unfold Buffer.write
  split
  · simp_all
  · simp [List.take_append, Nat.sub_sub]

end TracedMath.Log
