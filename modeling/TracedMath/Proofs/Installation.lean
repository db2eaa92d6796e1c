import TracedMath.Host

namespace TracedMath.Log

namespace Facade

/-- The facade has this logger and the level that the logger needs, or no logger and no level. -/
structure Holds (f : Facade) (held? : Option Logger) : Prop where
  logger : f.logger? = held?
  level : f.maxLevel = held?.elim .off Logger.levelNeeded

variable {f : Facade} {held? : Option Logger}

theorem initial_holds : Facade.initial.Holds none := ⟨rfl, rfl⟩

theorem Holds.or_none (h : f.Holds held?) : f.Holds (held?.or none) := by
  rw [Option.or_none]
  exact h

theorem Holds.emit (h : f.Holds held?) (r : Record) : (f.emit r).2.Holds held? := by
  obtain ⟨logger, level⟩ := f.emit_logger r
  exact ⟨logger.trans h.logger, level.trans h.level⟩

theorem Holds.init (h : f.Holds held?) (request : LevelRequest) :
    (f.init request).Holds (held?.or (some request.logger)) := by
  cases held? with
  | some l =>
    obtain ⟨logger, level⟩ := init_of_installed h.logger request
    exact ⟨logger.trans h.logger, level.trans h.level⟩
  | none =>
    have installed : Holds { f with
        logger? := some request.logger, maxLevel := request.logger.levelNeeded }
        (some request.logger) := ⟨rfl, rfl⟩
    unfold Facade.init
    rw [install_of_vacant h.logger]
    cases request with
    | unset | level => exact installed
    | invalid text => exact installed.emit (invalidRecord text)

theorem Holds.enable (h : f.Holds held?) (settings : List Setting) :
    (f.enable settings).2.Holds (held?.or (some (Logger.build settings))) := by
  cases held? with
  | some l =>
    rw [enable_of_installed h.logger]
    exact ⟨h.logger, h.level⟩
  | none =>
    rw [enable_of_vacant h.logger]
    exact ⟨rfl, rfl⟩

end Facade

/-- Preparing the outputs of a logger writes nothing. -/
theorem Sinks.foldl_prepare (s : Sinks) (settings : List Setting) :
    (settings.foldl prepare s).buffer.text = s.buffer.text ∧
      (settings.foldl prepare s).streams = s.streams := by
  induction settings generalizing s with
  | nil => exact ⟨rfl, rfl⟩
  | cons setting rest ih =>
    have one : (s.prepare setting).buffer.text = s.buffer.text ∧
        (s.prepare setting).streams = s.streams := by
      unfold prepare
      split <;> exact ⟨rfl, rfl⟩
    obtain ⟨text, streams⟩ := ih (s.prepare setting)
    exact ⟨text.trans one.1, streams.trans one.2⟩

end TracedMath.Log

namespace TracedMath

variable {held? : Option Log.Logger} {c : Context}

/-- A traced call makes records, and leaves the rest of the log to its body. -/
theorem traced_holds (tracing : Bool) (site : Log.Site) (label : String) (text : α → String)
    {body : Context → α × Context} (h : c.log.Holds held?)
    (inside : ∀ inner : Context, inner.log.Holds held? → (body inner).2.log.Holds held?) :
    (traced tracing site label text body c).2.log.Holds held? := by
  cases tracing with
  | false => exact inside c h
  | true =>
    have opened := inside { c.trace site label with errno := .success } (h.emit _)
    exact opened.emit _

theorem EntryPoint.callCeil_holds {F : Format} (p : EntryPoint) (b : Build) (x : Binary F)
    (h : c.log.Holds held?) : (p.callCeil b x c).2.log.Holds held? := by
  apply traced_holds b.tracing p.site (p.label x) Binary.text h
  intro inner holds
  rw [Context.orErrno_log]
  exact holds

namespace Host

/-- The variable after a step. -/
def Step.variable (value? : Option (List UInt8)) : Step → Option (List UInt8)
  | .setVariable value => some value
  | .unsetVariable => none
  | _ => value?

/-- The logger that a step builds and tries to install, the variable being what it is. -/
def Step.built? (value? : Option (List UInt8)) : Step → Option Log.Logger
  | .init => some (Log.LevelRequest.ofVariable value?).logger
  | .enable settings => some (Log.Logger.build settings)
  | _ => none

/-- The logger built by the first init or enable of a run, if there is one. -/
def firstBuilt? (value? : Option (List UInt8)) : List Step → Option Log.Logger
  | [] => none
  | s :: rest => (s.built? value?).or (firstBuilt? (s.variable value?) rest)

theorem firstBuilt?_eq_none_iff (value? : Option (List UInt8)) (steps : List Step) :
    firstBuilt? value? steps = none ↔
      .init ∉ steps ∧ ∀ settings, .enable settings ∉ steps := by
  induction steps generalizing value? with
  | nil => simp [firstBuilt?]
  | cons s rest ih =>
    rw [firstBuilt?, Option.or_eq_none_iff, ih]
    cases s with
    | enable settings =>
      constructor
      · rintro ⟨built, -⟩
        cases built
      · rintro ⟨-, others⟩
        exact absurd List.mem_cons_self (others settings)
    | _ => simp [Step.built?]

theorem step_environment (h : Host) (s : Step) :
    (h.step s).2.environment? = s.variable h.environment? := by
  cases s <;> rfl

/-- What the facade holds stays, and a vacant facade takes what the step builds. -/
theorem step_holds {h : Host} (holds : h.context.log.Holds held?) (s : Step) :
    (h.step s).2.context.log.Holds (held?.or (s.built? h.environment?)) := by
  cases s with
  | init => exact holds.init _
  | enable settings => exact holds.enable settings
  | log record => exact (holds.emit record).or_none
  | ceil x => exact (EntryPoint.ceil.callCeil_holds .standard x holds).or_none
  | ceilf x => exact (EntryPoint.ceilf.callCeil_holds .standard x holds).or_none
  | setVariable | unsetVariable | enabled | setErrno => exact holds.or_none

theorem run_holds {h : Host} (holds : h.context.log.Holds held?) (steps : List Step) :
    (h.run steps).context.log.Holds (held?.or (firstBuilt? h.environment? steps)) := by
  induction steps generalizing h held? with
  | nil =>
    rw [firstBuilt?, Option.or_none]
    exact holds
  | cons s rest ih =>
    have rest_holds := ih (step_holds holds s)
    rw [step_environment, Option.or_assoc] at rest_holds
    exact rest_holds

/-- **The logger of a process is written once.** After any run from a fresh process the facade has the
logger that the first init or enable of the run has built, with the level that this logger needs, and
neither before that. From then on no step changes the logger or the level, and enabling another one
is refused without a byte being written. -/
theorem installation_write_once (steps : List Step) :
    let h := initial.run steps
    let first? := firstBuilt? none steps
    (h.context.log.logger? = first? ∧
      h.context.log.maxLevel = first?.elim .off fun l => l.maxInUse?.getD (.upTo .info)) ∧
    (first? = none ↔ .init ∉ steps ∧ ∀ settings, .enable settings ∉ steps) ∧
    ∀ l, first? = some l →
      (∀ s, (h.step s).2.context.log.logger? = some l ∧
        (h.step s).2.context.log.maxLevel = h.context.log.maxLevel) ∧
      ∀ settings, ∃ log, h.step (.enable settings) =
          (.enabled (.error .alreadyInstalled), h.withLog log) ∧
        log.sinks.buffer.text = h.context.log.sinks.buffer.text ∧
        log.sinks.streams = h.context.log.sinks.streams := by
  intro h first?
  have holds : h.context.log.Holds first? := by
    have fresh := run_holds (h := initial) Log.Facade.initial_holds steps
    rwa [Option.none_or] at fresh
  refine ⟨⟨holds.logger, holds.level⟩, firstBuilt?_eq_none_iff none steps, ?_⟩
  intro l first
  rw [first] at holds
  constructor
  · intro s
    have after := step_holds holds s
    exact ⟨after.logger, after.level.trans holds.level.symm⟩
  · intro settings
    let prepared := settings.foldl Log.Sinks.prepare h.context.log.sinks
    refine ⟨{ h.context.log with sinks := prepared }, ?_, Log.Sinks.foldl_prepare _ settings⟩
    rw [step, Log.Facade.enable_of_installed holds.logger]

/-- A process that is initialised after it has enabled a logger of its own, and enables a third. -/
theorem installation_write_once_thrice :
    let steps := [.enable [.minOverride .off], .setVariable (utf8 "trace"), .init]
    let h := initial.run steps
    firstBuilt? none steps = some (Log.Logger.build [.minOverride .off]) ∧
      (h.step .init).2.context.log.logger? = some (Log.Logger.build [.minOverride .off]) ∧
      h.context.log.maxLevel = .off ∧
      ∃ log, h.step (.enable []) = (.enabled (.error .alreadyInstalled), h.withLog log) := by
  intro steps h
  obtain ⟨⟨-, level⟩, -, later⟩ := installation_write_once steps
  obtain ⟨kept, refused⟩ := later _ rfl
  obtain ⟨log, step, -, -⟩ := refused []
  exact ⟨rfl, (kept .init).1, level.trans (by decide), log, step⟩

end Host

end TracedMath
