import TracedMath.Proofs.Admission

/-!
# Records handed to the facade one after the other

What a run of records leaves behind (`emitAll`), with the three kinds of facades that matter to a
program that traces: one on which nothing panics (`Calm`), one that writes every trace record
(`Open`), and one that writes none (`Shut`). A record does not change the kind.
-/

namespace TracedMath.Log

/-- A trace record before it is made: where it comes from, and its message. -/
structure Note where
  site : Site
  message : String
  deriving DecidableEq, Repr

def Note.record (n : Note) : Record := n.site.record .trace n.message

/-- The lines of the records that the logger's filter admits. -/
def Logger.lines (l : Logger) (records : List Record) : List UInt8 :=
  (records.filter fun r => l.output.filter.admits r.level).flatMap fun r => utf8 (l.line r)

namespace Facade

variable {f : Facade} {l : Logger}

def emitAll (f : Facade) (records : List Record) : Facade :=
  records.foldl (fun f r => (f.emit r).2) f

/-- Whether one of the records makes an endpoint panic. -/
def panics (f : Facade) : List Record → Bool
  | [] => false
  | r :: rest => (f.emit r).1 || (f.emit r).2.panics rest

theorem emitAll_append (f : Facade) (xs ys : List Record) :
    f.emitAll (xs ++ ys) = (f.emitAll xs).emitAll ys := List.foldl_append

/-- A record is written through the installed logger, or nothing happens. -/
theorem emit_cases (f : Facade) (r : Record) :
    f.emit r = (false, f) ∨
      ∃ l, f.logger? = some l ∧ f.passes r.level = true ∧
        f.emit r = ((l.log r f.sinks).1, { f with sinks := (l.log r f.sinks).2 }) := by
  unfold emit
  cases installed : f.logger? with
  | none => exact .inl rfl
  | some l =>
    cases passes : f.passes r.level with
    | false => exact .inl rfl
    | true => exact .inr ⟨l, rfl, rfl, rfl⟩

/-- Where the facade's level hides nothing, records leave the lines that the logger's filter admits. -/
theorem emitAll_of_installed (h : f.logger? = some l) (wide : l.output.filter ≤ f.maxLevel)
    (records : List Record) :
    f.emitAll records =
      { f with sinks := f.sinks.receive l.output.endpoint (l.lines records) } := by
  induction records generalizing f with
  | nil =>
    have nothing : l.lines [] = [] := rfl
    rw [nothing, Sinks.receive_nil]
    rfl
  | cons r rest ih =>
    have first : f.emitAll (r :: rest) = (f.emit r).2.emitAll rest := rfl
    have later := ih (f := { f with sinks := (l.log r f.sinks).2 }) h wide
    rw [first, emit_of_installed h wide]
    refine later.trans ?_
    rw [Logger.log_sinks, Logger.lines, Logger.lines, Logger.enabled, List.filter_cons]
    by_cases admitted : l.output.filter.admits r.level = true
    · simp only [admitted, if_true, List.flatMap_cons, Sinks.receive_append]
    · simp only [admitted, Bool.false_eq_true, if_false]

/-! ## Nothing panics -/

/-- If the installed logger writes to a buffer that panics when it is full, the buffer has no limit. -/
def Calm (f : Facade) : Prop :=
  ∀ l, f.logger? = some l → l.output.endpoint = .buffer →
    f.sinks.buffer.capacity.onFull = .panic → f.sinks.buffer.capacity.room? = none

theorem Calm.emit (h : f.Calm) (r : Record) : (f.emit r).1 = false ∧ (f.emit r).2.Calm := by
  rcases f.emit_cases r with nothing | ⟨l, installed, -, written⟩
  · rw [nothing]
    exact ⟨rfl, h⟩
  · rw [written]
    constructor
    · apply Bool.eq_false_iff.mpr
      intro panicked
      obtain ⟨-, buffer, onFull, short⟩ := (l.log_panicked_iff r f.sinks).mp panicked
      rw [Capacity.takes, h l installed buffer onFull] at short
      cases short
    · intro m same buffer onFull
      obtain rfl : l = m := Option.some.inj (installed.symm.trans same)
      have panics : f.sinks.buffer.capacity.onFull = .panic := (l.log_onFull r f.sinks).symm.trans onFull
      exact l.log_room r (h l installed buffer panics)

theorem Calm.panics (h : f.Calm) (records : List Record) : f.panics records = false := by
  induction records generalizing f with
  | nil => rfl
  | cons r rest ih =>
    obtain ⟨quiet, calm⟩ := h.emit r
    rw [Facade.panics, quiet, ih calm]
    rfl

/-! ## Every trace record is written -/

/-- Trace records pass, and go to a buffer without a limit. -/
structure Open (f : Facade) (l : Logger) : Prop where
  logger : f.logger? = some l
  passes : f.passes .trace = true
  enabled : l.enabled .trace = true
  endpoint : l.output.endpoint = .buffer
  room : f.sinks.buffer.capacity.room? = none

theorem Open.emit (h : f.Open l) (n : Note) :
    (f.emit n.record).2.Open l ∧
      (f.emit n.record).2.sinks.buffer.text = f.sinks.buffer.text ++ utf8 (l.line n.record) := by
  have passes : f.passes n.record.level = true := h.passes
  have enabled : l.enabled n.record.level = true := h.enabled
  have written : (f.emit n.record).2 =
      { f with sinks := f.sinks.receive .buffer (utf8 (l.line n.record)) } := by
    rw [Facade.emit, h.logger]
    dsimp only
    rw [if_pos passes, Logger.log_sinks, if_pos enabled, h.endpoint]
  rw [written]
  constructor
  · exact ⟨h.logger, h.passes, h.enabled, h.endpoint, Sinks.receive_room h.room _ _⟩
  · rw [Sinks.receive, Buffer.text_write, h.room, Option.elim_none]

theorem Open.emitAll (h : f.Open l) (notes : List Note) :
    (f.emitAll (notes.map Note.record)).Open l ∧
      (f.emitAll (notes.map Note.record)).sinks.buffer.text =
        f.sinks.buffer.text ++ notes.flatMap fun n => utf8 (l.line n.record) := by
  induction notes generalizing f with
  | nil => exact ⟨h, (List.append_nil _).symm⟩
  | cons n rest ih =>
    obtain ⟨first, text⟩ := h.emit n
    obtain ⟨last, texts⟩ := ih first
    refine ⟨last, texts.trans ?_⟩
    rw [text, List.append_assoc, List.flatMap_cons]

theorem Open.drain (h : f.Open l) : Open { f with sinks := f.sinks.drain } l :=
  ⟨h.logger, h.passes, h.enabled, h.endpoint, h.room⟩

/-! ## No trace record is written -/

/-- The facade or the installed logger holds trace records back. -/
def Shut (f : Facade) : Prop :=
  ∀ l, f.logger? = some l → f.passes .trace = false ∨ l.enabled .trace = false

theorem Shut.emit (h : f.Shut) (n : Note) : (f.emit n.record).2 = f := by
  rcases f.emit_cases n.record with nothing | ⟨l, installed, passes, written⟩
  · rw [nothing]
  · rcases h l installed with hidden | refused
    · have passes : f.passes .trace = true := passes
      rw [hidden] at passes
      cases passes
    · have refused : l.enabled n.record.level = false := refused
      rw [written, Logger.log_of_not_enabled refused]

theorem Shut.emitAll (h : f.Shut) (notes : List Note) :
    f.emitAll (notes.map Note.record) = f := by
  induction notes with
  | nil => rfl
  | cons n rest ih =>
    have first : f.emitAll ((n :: rest).map Note.record) =
        (f.emit n.record).2.emitAll (rest.map Note.record) := rfl
    rw [first, h.emit, ih]

end Facade

end TracedMath.Log
