import TracedMath.Session
import TracedMath.Proofs.EntryPoints

namespace TracedMath.Session

open Log (Note)

/-- Neither a call nor steps that may contain one. -/
def Step.silent : Step → Bool
  | .ceil _ | .ceilf _ | .thread _ | .traced .. => false
  | _ => true

/-- The errno of a thread after these answers, if it was `e` before them. -/
def lastErrno (e : ErrorCode) : List Answer → ErrorCode
  | [] => e
  | a :: rest => lastErrno a.errno rest

/-- What the code in a closing record tells of the errno before and after the call. -/
structure Tells (shown before after : ErrorCode) : Prop where
  stored : shown ≠ .success → after = shown
  restored : shown = .success → after = before

mutual

/-- The records of a step that starts with the errno `before` and answers with `answer`, in the order
of a depth-first walk. The closing record of a call shows the value that the call returned and the
errno at the end of its body. -/
inductive Step.Logged (mode : Binary.Mode) : Step → ErrorCode → Answer → List Note → Prop
  | silent {step : Step} {before : ErrorCode} {answer : Answer} (h : step.silent) :
      Step.Logged mode step before answer []
  | ceil {x y : Binary64} {before after : ErrorCode}
      (tells : Tells (raised (x.ceilWith mode)) before after) :
      Step.Logged mode (.ceil x) before (.value (.double y) after)
        (bracket EntryPoint.ceil.site ("ceil(" ++ x.text ++ ")") y.text (raised (x.ceilWith mode)) [])
  | ceilf {x y : Binary32} {before after : ErrorCode}
      (tells : Tells (raised (x.ceilWith mode)) before after) :
      Step.Logged mode (.ceilf x) before (.value (.single y) after)
        (bracket EntryPoint.ceilf.site ("ceilf(" ++ x.text ++ ")") y.text (raised (x.ceilWith mode)) [])
  | thread {steps : List Step} {before : ErrorCode} {answers : List Answer} {inside : List Note}
      (body : AllLogged mode steps .success answers inside) :
      Step.Logged mode (.thread steps) before (.thread answers before) inside
  | traced {site : Log.Site} {label value : String} {steps : List Step} {before after : ErrorCode}
      {answers : List Answer} {inside : List Note}
      (body : AllLogged mode steps .success answers inside)
      (tells : Tells (lastErrno .success answers) before after) :
      Step.Logged mode (.traced site label value steps) before (.traced value answers after)
        (bracket site label value (lastErrno .success answers) inside)

/-- Each step starts with the errno that the one before it has left. -/
inductive AllLogged (mode : Binary.Mode) : List Step → ErrorCode → List Answer → List Note → Prop
  | nil {before : ErrorCode} : AllLogged mode [] before [] []
  | cons {step : Step} {rest : List Step} {before : ErrorCode} {answer : Answer}
      {answers : List Answer} {notes more : List Note}
      (first : Step.Logged mode step before answer notes)
      (others : AllLogged mode rest answer.errno answers more) :
      AllLogged mode (step :: rest) before (answer :: answers) (notes ++ more)

end

/-- The text of each step of a program is the lines of the records that the step logs, in a process of
that name. -/
inductive Transcript (mode : Binary.Mode) (name : String) :
    ErrorCode → List Step → List (Answer × List UInt8) → Prop
  | nil {before : ErrorCode} : Transcript mode name before [] []
  | cons {before : ErrorCode} {step : Step} {rest : List Step} {answer : Answer}
      {more : List (Answer × List UInt8)} {notes : List Note}
      (first : step.Logged mode before answer notes)
      (others : Transcript mode name answer.errno rest more) :
      Transcript mode name before (step :: rest)
        ((answer, notes.flatMap fun n => utf8 ("[" ++ name ++ "@" ++ n.site.path ++ ":" ++
          toString n.site.line.toNat ++ " TRACE] " ++ n.message ++ "\n")) :: more)

theorem tells_of_traced (shown before : ErrorCode) :
    Tells shown before (if shown = .success then before else shown) where
  stored := fun h => if_neg h
  restored := fun h => if_pos h

theorem callCeil_logged {F : Format} (p : EntryPoint) (mode : Binary.Mode) (x : Binary F)
    (c : Context) :
    Tells (raised (x.ceilWith mode)) c.errno (p.callCeil ⟨mode, true⟩ x c).2.errno ∧
      (p.callCeil ⟨mode, true⟩ x c).2.log =
        c.log.emitAll ((bracket p.site (p.label x) (p.callCeil ⟨mode, true⟩ x c).1.text
          (raised (x.ceilWith mode)) []).map Note.record) := by
  constructor
  · rw [EntryPoint.callCeil_errno]
    exact tells_of_traced _ _
  · rw [EntryPoint.callCeil_value]
    exact p.callCeil_log ⟨mode, true⟩ x c

theorem Step.run_errno (b : Build) (step : Step) (c : Context) :
    (step.run b c).2.errno = (step.run b c).1.errno := by
  cases step <;> rfl

theorem runAll_errno (b : Build) (steps : List Step) (c : Context) :
    (runAll b steps c).2.errno = lastErrno c.errno (runAll b steps c).1 := by
  induction steps generalizing c with
  | nil => rfl
  | cons step rest ih =>
    have next := ih (step.run b c).2
    rw [Step.run_errno] at next
    exact next

mutual

theorem Step.run_logged (mode : Binary.Mode) (step : Step) (c : Context) :
    ∃ notes, step.Logged mode c.errno (step.run ⟨mode, true⟩ c).1 notes ∧
      (step.run ⟨mode, true⟩ c).2.log = c.log.emitAll (notes.map Note.record) := by
  cases step with
  | read | write | modf | modff | ceilResult => exact ⟨[], .silent rfl, rfl⟩
  | orErrno result fallback => exact ⟨[], .silent rfl, Context.orErrno_log _ _ _⟩
  | ceil x =>
    obtain ⟨tells, log⟩ := callCeil_logged .ceil mode x c
    exact ⟨_, .ceil tells, log⟩
  | ceilf x =>
    obtain ⟨tells, log⟩ := callCeil_logged .ceilf mode x c
    exact ⟨_, .ceilf tells, log⟩
  | thread steps =>
    obtain ⟨inside, body, log⟩ := runAll_logged mode steps { c with errno := .success }
    exact ⟨inside, .thread body, log⟩
  | traced site label value steps =>
    obtain ⟨inside, body, log⟩ :=
      runAll_logged mode steps { c.trace site label with errno := .success }
    have last := runAll_errno ⟨mode, true⟩ steps { c.trace site label with errno := .success }
    have whole := traced_log site label (fun _ => value) (runAll ⟨mode, true⟩ steps) c inside log
    refine ⟨_, .traced body ?_, ?_⟩
    · rw [← last]
      exact tells_of_traced _ _
    · rw [← last]
      exact whole

theorem runAll_logged (mode : Binary.Mode) (steps : List Step) (c : Context) :
    ∃ notes, AllLogged mode steps c.errno (runAll ⟨mode, true⟩ steps c).1 notes ∧
      (runAll ⟨mode, true⟩ steps c).2.log = c.log.emitAll (notes.map Note.record) := by
  cases steps with
  | nil => exact ⟨[], .nil, rfl⟩
  | cons step rest =>
    obtain ⟨notes, first, log⟩ := Step.run_logged mode step c
    obtain ⟨more, others, logs⟩ := runAll_logged mode rest (step.run ⟨mode, true⟩ c).2
    rw [Step.run_errno] at others
    refine ⟨notes ++ more, .cons first others, ?_⟩
    rw [List.map_append, Log.Facade.emitAll_append, ← log]
    exact logs

end

mutual

/-- A build that does not trace leaves the log alone. -/
theorem Step.run_log_untraced (mode : Binary.Mode) (step : Step) (c : Context) :
    (step.run ⟨mode, false⟩ c).2.log = c.log := by
  cases step with
  | read | write | modf | modff | ceilResult => rfl
  | ceil x => exact EntryPoint.ceil.callCeil_log ⟨mode, false⟩ x c
  | ceilf x => exact EntryPoint.ceilf.callCeil_log ⟨mode, false⟩ x c
  | orErrno result fallback => exact Context.orErrno_log _ _ _
  | thread steps => exact runAll_log_untraced mode steps { c with errno := .success }
  | traced site label value steps => exact runAll_log_untraced mode steps c

theorem runAll_log_untraced (mode : Binary.Mode) (steps : List Step) (c : Context) :
    (runAll ⟨mode, false⟩ steps c).2.log = c.log := by
  cases steps with
  | nil => rfl
  | cons step rest =>
    have others := runAll_log_untraced mode rest (step.run ⟨mode, false⟩ c).2
    exact others.trans (Step.run_log_untraced mode step c)

end

theorem line_note (l : Log.Logger) (n : Note) :
    l.line n.record = "[" ++ l.processName?.getD "" ++ "@" ++ n.site.path ++ ":" ++
      toString n.site.line.toNat ++ " TRACE] " ++ n.message ++ "\n" := by
  have pieces : n.record.pieces (l.processName?.getD "") =
      ["[", l.processName?.getD "", "@", n.site.path, ":", toString n.site.line.toNat, " ", "TRACE",
        "] ", n.message, "\n"] := rfl
  rw [Log.Logger.line, Log.Record.text, pieces, ← String.toList_inj]
  simp

theorem answers_transcript (mode : Binary.Mode) {l : Log.Logger} (steps : List Step) {c : Context}
    (h : c.log.Open l) :
    Transcript mode (l.processName?.getD "") c.errno steps (answers ⟨mode, true⟩ steps c) := by
  induction steps generalizing c with
  | nil => exact .nil
  | cons step rest ih =>
    let drained : Context := { c with log.sinks := c.log.sinks.drain }
    obtain ⟨notes, first, log⟩ := Step.run_logged mode step drained
    obtain ⟨still, text⟩ := Log.Facade.Open.emitAll h.drain notes
    rw [← log] at still text
    simp only [line_note] at text
    have others := ih still
    rw [Step.run_errno] at others
    have given : answers ⟨mode, true⟩ (step :: rest) c =
        ((step.run ⟨mode, true⟩ drained).1,
          (step.run ⟨mode, true⟩ drained).2.log.sinks.buffer.text) ::
          answers ⟨mode, true⟩ rest (step.run ⟨mode, true⟩ drained).2 := rfl
    rw [given, text.trans (List.nil_append _)]
    exact .cons first others

theorem answers_silent (b : Build) (steps : List Step) {c : Context}
    (h : b.tracing = false ∨ c.log.Shut) : ∀ a ∈ answers b steps c, a.2 = [] := by
  induction steps generalizing c with
  | nil =>
    intro a none
    cases none
  | cons step rest ih =>
    let drained : Context := { c with log.sinks := c.log.sinks.drain }
    have same : (step.run b drained).2.log = drained.log := by
      obtain ⟨mode, tracing⟩ := b
      cases tracing with
      | false => exact Step.run_log_untraced mode step drained
      | true =>
        obtain untraced | shut := h
        · cases untraced
        · obtain ⟨notes, -, log⟩ := Step.run_logged mode step drained
          have still : drained.log.Shut := shut
          rw [log, still.emitAll]
    intro a ha
    rcases List.mem_cons.mp ha with rfl | later
    · exact congrArg (fun f : Log.Facade => f.sinks.buffer.text) same
    · apply ih _ a later
      refine h.imp_right ?_
      intro shut
      have still : drained.log.Shut := shut
      rwa [← same] at still

theorem Receiver.logger_output (r : Receiver) : r.logger.output = ⟨.buffer, r.filter⟩ := by
  unfold Receiver.logger
  cases r.processName? <;> rfl

theorem Receiver.logger_processName (r : Receiver) : r.logger.processName? = r.processName? := by
  unfold Receiver.logger
  cases name : r.processName? <;> rfl

namespace Receiver

variable {r : Receiver}

theorem facade_open (filter : r.filter = .upTo .trace)
    (level : r.maxLevel?.getD (.upTo .trace) = .upTo .trace) : r.facade.Open r.logger := by
  constructor
  · rfl
  · exact (Log.Filter.admits_trace_iff _).mpr level
  · rw [Log.Logger.enabled, r.logger_output]
    exact (Log.Filter.admits_trace_iff _).mpr filter
  · rw [r.logger_output]
  · rfl

theorem facade_shut (held : ¬(r.filter = .upTo .trace ∧
    r.maxLevel?.getD (.upTo .trace) = .upTo .trace)) : r.facade.Shut := by
  rintro l ⟨⟩
  by_cases level : r.maxLevel?.getD (.upTo .trace) = .upTo .trace
  · right
    rw [Log.Logger.enabled, r.logger_output]
    apply Bool.eq_false_iff.mpr
    intro enabled
    exact held ⟨(Log.Filter.admits_trace_iff _).mp enabled, level⟩
  · left
    apply Bool.eq_false_iff.mpr
    intro passes
    exact level ((Log.Filter.admits_trace_iff _).mp passes)

end Receiver

/-- **The trace log is a bracketed record of the run.** If the build traces and neither the logger nor
the facade holds trace records back, the text of each step is the lines of the records that the step
logs, and if not, there is no text. Without a name the process has the empty one. -/
theorem trace_log_faithful (b : Build) (r : Receiver) (steps : List Step) :
    if b.tracing ∧ r.filter = .upTo .trace ∧ r.maxLevel?.getD (.upTo .trace) = .upTo .trace then
      Transcript b.mode (r.processName?.getD "") .success steps (answers b steps (start (some r)))
    else ∀ a ∈ answers b steps (start (some r)), a.2 = [] := by
  split
  · rename_i written
    obtain ⟨mode, tracing⟩ := b
    obtain ⟨rfl, filter, level⟩ := written
    have isOpen : (start (some r)).log.Open r.logger := Receiver.facade_open filter level
    have transcript := answers_transcript mode steps isOpen
    rwa [r.logger_processName] at transcript
  · rename_i held
    apply answers_silent
    by_cases tracing : b.tracing = true
    · right
      apply Receiver.facade_shut
      rintro ⟨filter, level⟩
      exact held ⟨tracing, filter, level⟩
    · exact .inl (Bool.eq_false_iff.mpr tracing)

/-- A thread within a traced block, with a block of its own. -/
example :
    (answers .standard
      [.write .variable ⟨34⟩,
        .traced ⟨"m", 1⟩ "f" "7" [.thread [.traced ⟨"m", 2⟩ "g" "8" [.write .pointer ⟨5⟩]]]]
      (start (some ⟨.upTo .trace, some "p", none⟩))).map Prod.snd =
    [[], utf8 ("[p@m:1 TRACE] f\n[p@m:2 TRACE] g\n" ++
      "[p@m:2 TRACE] g = 8 (5, Input/output error)\n[p@m:1 TRACE] f = 7 (0, Success)\n")] := by
  decide +kernel

end TracedMath.Session
