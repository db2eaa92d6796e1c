import TracedMath.Log.Facade

/-!
# What arrives at an endpoint

A line is handed over in pieces, and the first piece that fails ends it. `write_receive` shows that
the pieces do not matter: what arrives is what would arrive if the line were one piece. Nor do they
matter to how the writing ends (`write_outcome`).
-/

namespace TracedMath.Log

/-- Whether there is room for that many bytes. -/
def Capacity.takes (c : Capacity) (count : Nat) : Bool := c.room?.all fun room => count ≤ room

theorem Capacity.takes_of_room {c : Capacity} {room : Nat} (h : c.room? = some room) (count : Nat) :
    c.takes count = decide (count ≤ room) := by
  rw [takes, h]
  rfl

theorem Buffer.write_outcome (b : Buffer) (bytes : List UInt8) :
    (b.write bytes).1 =
      if b.capacity.takes bytes.length then .written else b.capacity.onFull.outcome := by
  unfold Buffer.write Capacity.takes
  cases b.capacity.room? with
  | none => rfl
  | some room => simp

theorem Buffer.write_onFull (b : Buffer) (bytes : List UInt8) :
    (b.write bytes).2.capacity.onFull = b.capacity.onFull := by
  unfold Buffer.write
  split <;> rfl

/-- What is there for a second write when the first one has fitted. -/
theorem Buffer.takes_write {b : Buffer} {bytes : List UInt8} (fits : b.capacity.takes bytes.length)
    (count : Nat) :
    (b.write bytes).2.capacity.takes count = b.capacity.takes (bytes.length + count) := by
  unfold Capacity.takes at fits ⊢
  unfold Buffer.write
  cases room : b.capacity.room? with
  | none => simp [room]
  | some n =>
    rw [room, Option.all_some, decide_eq_true_eq] at fits
    simp only [Option.all_some, decide_eq_decide]
    omega

theorem Capacity.takes_of_le {c : Capacity} {less more : Nat} (le : less ≤ more)
    (h : c.takes more) : c.takes less := by
  unfold Capacity.takes at h ⊢
  cases room : c.room? with
  | none => rfl
  | some n =>
    rw [room, Option.all_some, decide_eq_true_eq] at h
    simp only [Option.all_some, decide_eq_true_eq]
    exact Nat.le_trans le h

namespace Sinks

/-- The sinks after an endpoint has been handed some bytes. A full buffer drops what does not fit, and
a descriptor without a stream drops everything. -/
def receive (s : Sinks) (e : Endpoint) (bytes : List UInt8) : Sinks :=
  match e with
  | .buffer => { s with buffer := (s.buffer.write bytes).2 }
  | .stream writer =>
    if writer.fd = 1 then { s with streams.stdout := s.streams.stdout ++ bytes }
    else if writer.fd = 2 then { s with streams.stderr := s.streams.stderr ++ bytes }
    else s

/-- Whether an endpoint takes at least one more byte. -/
def accepts (s : Sinks) : Endpoint → Bool
  | .buffer => s.buffer.capacity.room? != some 0
  | .stream writer => writer.fd == 1 || writer.fd == 2

theorem receive_nil (s : Sinks) (e : Endpoint) : s.receive e [] = s := by
  cases e with
  | buffer =>
    have same : (s.buffer.write []).2 = s.buffer := by
      rcases s with ⟨⟨text, room? | room, onFull⟩, streams⟩ <;> simp [Buffer.write]
    rw [receive, same]
  | stream writer =>
    simp only [receive, List.append_nil]
    split
    · rfl
    · split <;> rfl

theorem receive_append (s : Sinks) (e : Endpoint) (x y : List UInt8) :
    s.receive e (x ++ y) = (s.receive e x).receive e y := by
  cases e with
  | buffer => simp only [receive, Buffer.text_write_append]
  | stream writer =>
    simp only [receive]
    split
    · simp only [List.append_assoc]
    · split
      · simp only [List.append_assoc]
      · rfl

theorem receive_onFull (s : Sinks) (e : Endpoint) (bytes : List UInt8) :
    (s.receive e bytes).buffer.capacity.onFull = s.buffer.capacity.onFull := by
  cases e with
  | buffer => exact s.buffer.write_onFull bytes
  | stream writer =>
    simp only [receive]
    split
    · rfl
    · split <;> rfl

/-- A buffer without a limit keeps none. -/
theorem receive_room {s : Sinks} (h : s.buffer.capacity.room? = none) (e : Endpoint)
    (bytes : List UInt8) : (s.receive e bytes).buffer.capacity.room? = none := by
  cases e with
  | buffer =>
    rw [receive, Buffer.write, h]
    exact h
  | stream writer =>
    simp only [receive]
    split
    · exact h
    · split
      · exact h
      · exact h

theorem writePiece_receive (s : Sinks) (e : Endpoint) (text : String) :
    (s.writePiece e text).2 = s.receive e (utf8 text) := by
  cases e with
  | buffer => rfl
  | stream writer =>
    simp only [writePiece, receive, StreamWriter.writeText, StreamWriter.write]
    by_cases out : writer.fd = 1
    · simp only [out, if_true, Except.toOption]
    · by_cases err : writer.fd = 2
      · simp only [err, if_true, Except.toOption]
        rfl
      · simp only [out, err, if_false, Except.toOption]

/-- An endpoint that has failed on a piece takes nothing more. -/
theorem receive_of_stopped {s : Sinks} {e : Endpoint} {text : String}
    (h : (s.writePiece e text).1 ≠ .written) (more : List UInt8) :
    (s.receive e (utf8 text)).receive e more = s.receive e (utf8 text) := by
  cases e with
  | buffer =>
    obtain ⟨⟨held, room?, onFull⟩, streams⟩ := s
    cases room? with
    | none => exact absurd rfl h
    | some room =>
      have full : ¬ (utf8 text).length ≤ room := by
        intro fits
        exact h (by simp [writePiece, Buffer.write, fits])
      have rest : room - (utf8 text).length = 0 := by omega
      simp [receive, Buffer.write, rest]
  | stream writer =>
    have apart : ¬ writer.fd = 1 ∧ ¬ writer.fd = 2 := by
      constructor
      · intro out
        exact h (by simp [writePiece, StreamWriter.writeText, StreamWriter.write, out, Except.toOption])
      · intro err
        exact h (by simp [writePiece, StreamWriter.writeText, StreamWriter.write, err, Except.toOption])
    simp only [receive, apart, if_false]

/-- **The pieces do not matter.** What a line leaves in the sinks depends on its bytes alone. -/
theorem write_receive (s : Sinks) (e : Endpoint) (pieces : List String) :
    (s.write e pieces).2 = s.receive e (pieces.flatMap utf8) := by
  induction pieces generalizing s with
  | nil => exact (s.receive_nil e).symm
  | cons piece rest ih =>
    have arrived := s.writePiece_receive e piece
    rw [List.flatMap_cons, receive_append, write]
    cases written : s.writePiece e piece with
    | mk outcome after =>
      rw [written] at arrived
      cases outcome with
      | written =>
        simp only [ih]
        rw [← arrived]
      | failed => exact arrived.trans (receive_of_stopped (by simp [written]) _).symm
      | panicked => exact arrived.trans (receive_of_stopped (by simp [written]) _).symm

/-- Writing to the buffer ends well if there is room for all pieces together. -/
theorem write_outcome (s : Sinks) (pieces : List String) :
    (s.write .buffer pieces).1 =
      if s.buffer.capacity.takes (pieces.flatMap utf8).length then .written
      else s.buffer.capacity.onFull.outcome := by
  induction pieces generalizing s with
  | nil =>
    have fits : s.buffer.capacity.takes ([] : List UInt8).length := by
      unfold Capacity.takes
      cases s.buffer.capacity.room? <;> simp
    exact (if_pos fits).symm
  | cons piece rest ih =>
    have first := s.buffer.write_outcome (utf8 piece)
    have after : (s.writePiece .buffer piece).2.buffer = (s.buffer.write (utf8 piece)).2 := rfl
    rw [List.flatMap_cons, List.length_append, write]
    by_cases fits : s.buffer.capacity.takes (utf8 piece).length
    · rw [if_pos fits] at first
      have written : (s.writePiece .buffer piece).1 = .written := first
      cases stepped : s.writePiece .buffer piece with
      | mk outcome sinks =>
        rw [stepped] at written after
        subst written
        dsimp only
        rw [ih, after, Buffer.takes_write fits, Buffer.write_onFull]
    · rw [if_neg fits] at first
      have whole : ¬ s.buffer.capacity.takes ((utf8 piece).length + (rest.flatMap utf8).length) :=
        fun h => fits (Capacity.takes_of_le (Nat.le_add_right _ _) h)
      have stopped : (s.writePiece .buffer piece).1 = s.buffer.capacity.onFull.outcome := first
      rw [if_neg whole]
      cases stepped : s.writePiece .buffer piece with
      | mk outcome sinks =>
        rw [stepped] at stopped
        subst stopped
        cases s.buffer.capacity.onFull <;> rfl

theorem write_stream_not_panicked (s : Sinks) (writer : StreamWriter) (pieces : List String) :
    (s.write (.stream writer) pieces).1 ≠ .panicked := by
  induction pieces generalizing s with
  | nil => exact Outcome.noConfusion
  | cons piece rest ih =>
    rw [write, writePiece]
    cases writer.writeText piece s.streams with
    | some streams => exact ih _
    | none => exact Outcome.noConfusion

theorem receive_ne {s : Sinks} {e : Endpoint} (h : s.accepts e) {bytes : List UInt8}
    (some : bytes ≠ []) : s.receive e bytes ≠ s := by
  intro same
  cases e with
  | buffer =>
    have text := congrArg (fun t => t.buffer.text) same
    simp only [receive, Buffer.text_write] at text
    cases room : s.buffer.capacity.room? with
    | none =>
      rw [room] at text
      exact some (List.append_right_eq_self.mp text)
    | some n =>
      rw [room] at text
      have none := List.append_right_eq_self.mp text
      rcases List.take_eq_nil_iff.mp none with zero | empty
      · simp [accepts, room, zero] at h
      · exact some empty
  | stream writer =>
    simp only [receive] at same
    split at same
    · exact some (List.append_right_eq_self.mp (congrArg (fun t => t.streams.stdout) same))
    · split at same
      · exact some (List.append_right_eq_self.mp (congrArg (fun t => t.streams.stderr) same))
      · rename_i out err
        simp [accepts, out, err] at h

end Sinks

theorem Record.text_ne_nil (r : Record) (processName : String) : utf8 (r.text processName) ≠ [] := by
  have opening : utf8 "[" ≠ [] := by decide
  rw [Record.utf8_text, Record.pieces]
  simp [opening]

namespace Logger

/-- What a record leaves in the sinks: its line, if the filter admits it. -/
theorem log_sinks (l : Logger) (r : Record) (s : Sinks) :
    (l.log r s).2 =
      if l.enabled r.level then s.receive l.output.endpoint (utf8 (l.line r)) else s := by
  rw [log]
  split
  · rw [line, Record.utf8_text]
    exact s.write_receive _ _
  · rfl

theorem log_onFull (l : Logger) (r : Record) (s : Sinks) :
    (l.log r s).2.buffer.capacity.onFull = s.buffer.capacity.onFull := by
  rw [log_sinks]
  split
  · exact s.receive_onFull _ _
  · rfl

theorem log_room (l : Logger) (r : Record) {s : Sinks} (h : s.buffer.capacity.room? = none) :
    (l.log r s).2.buffer.capacity.room? = none := by
  rw [log_sinks]
  split
  · exact Sinks.receive_room h _ _
  · exact h

/-- A record makes the caller panic if its line does not fit into a buffer that panics then. -/
theorem log_panicked_iff (l : Logger) (r : Record) (s : Sinks) :
    (l.log r s).1 = true ↔
      l.enabled r.level = true ∧ l.output.endpoint = .buffer ∧
        s.buffer.capacity.onFull = .panic ∧
        s.buffer.capacity.takes (utf8 (l.line r)).length = false := by
  rw [log]
  by_cases enabled : l.enabled r.level = true
  · rw [if_pos enabled]
    simp only [enabled, true_and, beq_iff_eq]
    cases endpoint : l.output.endpoint with
    | stream writer =>
      constructor
      · intro panicked
        exact absurd panicked (s.write_stream_not_panicked writer _)
      · rintro ⟨buffer, -⟩
        cases buffer
    | buffer =>
      rw [Sinks.write_outcome, ← Record.utf8_text, ← line]
      cases fits : s.buffer.capacity.takes (utf8 (l.line r)).length <;>
        cases s.buffer.capacity.onFull <;> simp [OnFull.outcome]
  · simp [enabled]

theorem log_of_not_enabled {l : Logger} {r : Record} (h : l.enabled r.level = false) (s : Sinks) :
    l.log r s = (false, s) := by
  rw [log, h]
  rfl

end Logger

end TracedMath.Log
