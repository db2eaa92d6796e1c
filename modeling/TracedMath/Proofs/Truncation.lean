import TracedMath.Log.Run
import TracedMath.Proofs.Delivery

namespace TracedMath.Log

/-- What a program asks of a logger that it has set up. -/
inductive Call where
  | log (record : Record)
  | enabled (level : Level)
  | flush
  deriving DecidableEq, Repr

def Call.action : Call → Action
  | log r => .log r
  | enabled level => .enabled level
  | flush => .flush

def Call.record? : Call → Option Record
  | log r => some r
  | _ => none

/-- The lines of the records that the filter admits, in the order of the calls. -/
def Logger.stream (l : Logger) (calls : List Call) : List UInt8 :=
  ((calls.filterMap Call.record?).filter fun r => l.enabled r.level).flatMap fun r => utf8 (l.line r)

theorem Logger.stream_log (l : Logger) (r : Record) (rest : List Call) :
    l.stream (.log r :: rest) =
      (if l.enabled r.level then utf8 (l.line r) else []) ++ l.stream rest := by
  have records : (Call.log r :: rest).filterMap Call.record? = r :: rest.filterMap Call.record? := rfl
  rw [stream, records, List.filter_cons]
  split
  · rw [List.flatMap_cons, stream]
  · rfl

namespace Desk

theorem act_log (d : Desk) (r : Record) :
    (d.act (.log r)).2.logger = d.logger ∧
      (d.act (.log r)).2.sinks = (d.logger.log r d.sinks).2 := by
  rw [act, log_eq]
  exact ⟨rfl, rfl⟩

/-- The calls leave the logger as it is, and the endpoint as if all lines were one. -/
theorem run_calls (d : Desk) (calls : List Call) :
    (d.run (calls.map Call.action)).logger = d.logger ∧
      (d.run (calls.map Call.action)).sinks =
        d.sinks.receive d.logger.output.endpoint (d.logger.stream calls) := by
  induction calls generalizing d with
  | nil => exact ⟨rfl, (d.sinks.receive_nil _).symm⟩
  | cons call rest ih =>
    cases call with
    | enabled level => exact ih d
    | flush => exact ih d
    | log r =>
      obtain ⟨logger, sinks⟩ := d.act_log r
      obtain ⟨same, arrived⟩ := ih (d.act (.log r)).2
      rw [logger, sinks, Logger.log_sinks] at arrived
      rw [logger] at same
      refine ⟨same, arrived.trans ?_⟩
      rw [Logger.stream_log]
      split
      · rw [Sinks.receive_append]
      · rfl

end Desk

/-- Sinks that have received the same and have the same room, whatever a full buffer does. -/
structure Sinks.Alike (s t : Sinks) : Prop where
  text : s.buffer.text = t.buffer.text
  room : s.buffer.capacity.room? = t.buffer.capacity.room?
  streams : s.streams = t.streams

theorem Sinks.Alike.receive {s t : Sinks} (h : s.Alike t) (e : Endpoint) (bytes : List UInt8) :
    (s.receive e bytes).Alike (t.receive e bytes) := by
  obtain ⟨text, room, streams⟩ := h
  cases e with
  | buffer =>
    simp only [Sinks.receive, Buffer.write, room, text]
    cases t.buffer.capacity.room? with
    | none => exact ⟨rfl, room, streams⟩
    | some n => exact ⟨rfl, rfl, streams⟩
  | stream writer =>
    simp only [Sinks.receive, streams]
    split
    · exact ⟨text, room, rfl⟩
    · split
      · exact ⟨text, room, rfl⟩
      · exact ⟨text, room, streams⟩

theorem Sinks.Alike.prepare {s t : Sinks} (h : s.Alike t) (setting : Setting) :
    (s.prepare setting).Alike (t.prepare setting) := by
  unfold Sinks.prepare
  split
  · exact ⟨h.text, rfl, h.streams⟩
  · exact h

/-- Desks with the same logger and sinks alike. Nothing is said of their locks. -/
structure Desk.Twins (d e : Desk) : Prop where
  logger : d.logger = e.logger
  sinks : d.sinks.Alike e.sinks

namespace Desk.Twins

variable {d e : Desk}

theorem act (h : d.Twins e) (a : Action) : (d.act a).2.Twins (e.act a).2 := by
  cases a with
  | configure setting =>
    constructor
    · exact congrArg (fun l => l.configure setting) h.logger
    · exact h.sinks.prepare setting
  | log r =>
    obtain ⟨logger, sinks⟩ := d.act_log r
    obtain ⟨logger', sinks'⟩ := e.act_log r
    constructor
    · rw [logger, logger', h.logger]
    · rw [sinks, sinks', Logger.log_sinks, Logger.log_sinks, h.logger]
      split
      · exact h.sinks.receive _ _
      · exact h.sinks
  | enabled level => exact h
  | flush => exact h
  | refill room? => exact ⟨h.logger, h.sinks.text, rfl, h.sinks.streams⟩

theorem run (h : d.Twins e) (actions : List Action) : (d.run actions).Twins (e.run actions) := by
  induction actions generalizing d e with
  | nil => exact h
  | cons a rest ih => exact ih (h.act a)

end Desk.Twins

/-- **A full endpoint cuts the log short and does nothing else.** Of the lines that are logged to a
buffer with room for `n` bytes the first `n` bytes arrive, and the logger stays as it is. A record
makes its caller panic if the filter admits it, the buffer is one that panics, and the line does not
fit into what room is left. A buffer that fails, with any lock, receives the same in any run. -/
theorem bounded_stream (d : Desk) (n : Nat) (onBuffer : d.logger.output.endpoint = .buffer)
    (room : d.sinks.buffer.capacity.room? = some n) (calls : List Call) :
    let ended := d.run (calls.map Call.action)
    let stream := d.logger.stream calls
    ended.sinks.buffer.text = d.sinks.buffer.text ++ stream.take n ∧
    ended.sinks.streams = d.sinks.streams ∧
    ended.logger = d.logger ∧
    (∀ r, ((ended.act (.log r)).1 = .logged true ↔
      d.logger.enabled r.level = true ∧ d.sinks.buffer.capacity.onFull = .panic ∧
        n - stream.length < (utf8 (d.logger.line r)).length) ∧
      ((ended.act (.log r)).1 = .logged true → (ended.act (.log r)).2.lock.poisoned = true)) ∧
    ∀ (lock : Lock) (onFull : OnFull) (actions : List Action),
      let other : Desk := ⟨d.logger, lock, d.sinks.limit ⟨some n, onFull⟩⟩
      (other.run actions).sinks.buffer.text = (d.run actions).sinks.buffer.text ∧
        (other.run actions).sinks.streams = (d.run actions).sinks.streams := by
  intro ended stream
  obtain ⟨logger, arrived⟩ := d.run_calls calls
  have sinks : ended.sinks = d.sinks.receive .buffer stream := by rw [arrived, onBuffer]
  have buffer : ended.sinks.buffer = (d.sinks.buffer.write stream).2 := congrArg Sinks.buffer sinks
  have left : ended.sinks.buffer.capacity.room? = some (n - stream.length) := by
    rw [buffer, Buffer.write, room]
  refine ⟨?_, ?_, logger, ?_, ?_⟩
  · rw [buffer, Buffer.text_write, room, Option.elim_some]
  · rw [sinks]
    rfl
  · intro r
    have reply : (ended.act (.log r)).1 = .logged (ended.logger.log r ended.sinks).1 := by
      rw [Desk.act, Desk.log_eq]
    have lock : (ended.act (.log r)).2.lock.poisoned =
        (ended.lock.poisoned || (ended.logger.log r ended.sinks).1) := by
      rw [Desk.act, Desk.log_eq]
    rw [reply, lock, Reply.logged.injEq]
    constructor
    · rw [Logger.log_panicked_iff, Capacity.takes_of_room left, buffer, Buffer.write_onFull, logger,
        onBuffer, decide_eq_false_iff_not, Nat.not_le]
      simp only [true_and]
    · intro panicked
      rw [panicked, Bool.or_true]
  · intro lock onFull actions other
    have twins : other.Twins d := ⟨rfl, rfl, room.symm, rfl⟩
    have after := twins.run actions
    exact ⟨after.sinks.text, after.sinks.streams⟩

/-- A buffer with room for one line and a part of the next, behind a lock that is poisoned already. -/
def scarce : Desk where
  logger := (Logger.initial.withOutput ⟨.buffer, .upTo .info⟩).withProcessName "p"
  lock := ⟨true⟩
  sinks := Sinks.empty.limit ⟨some 20, .panic⟩

/-- Two records that are admitted, with one that is not and calls that write nothing between them. -/
def scarceCalls : List Call :=
  [.log ⟨.info, "t", none, none, "first"⟩, .enabled .warn, .log ⟨.debug, "t", none, none, "hidden"⟩,
    .flush, .log ⟨.warn, "t", some "m", some 7, "second"⟩]

theorem bounded_stream_scarce :
    scarce.logger.output.endpoint = .buffer ∧ scarce.sinks.buffer.capacity.room? = some 20 ∧
      (scarce.run (scarceCalls.map Call.action)).sinks.buffer.text =
        utf8 "[p@t INFO] first\n[p@" ∧
      ((scarce.run (scarceCalls.map Call.action)).act (.log ⟨.error, "", none, none, ""⟩)).1 =
        .logged true := by
  obtain ⟨text, -, -, panics, -⟩ := bounded_stream scarce 20 rfl rfl scarceCalls
  refine ⟨rfl, rfl, text.trans (by decide +kernel), ?_⟩
  exact (panics ⟨.error, "", none, none, ""⟩).1.mpr ⟨rfl, rfl, by decide +kernel⟩

end TracedMath.Log
