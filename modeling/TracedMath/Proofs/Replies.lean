import TracedMath.Proofs.Destinations
import TracedMath.Proofs.EntryPoints
import TracedMath.Proofs.Startup

/-!
# What a program is told step by step adds up to its run

The replies to a run are made with the sinks drained before each step. No step depends on what its
sinks hold already (`step_behind`), so the replies are those of the run, and the texts that they show,
one behind the other, are the text of the run.
-/

namespace TracedMath

namespace Log

namespace Sinks

/-- The sinks with earlier text in front of what they hold, and with the room that they have. -/
def behind (s earlier : Sinks) : Sinks where
  buffer := { s.buffer with text := earlier.buffer.text ++ s.buffer.text }
  streams.stdout := earlier.streams.stdout ++ s.streams.stdout
  streams.stderr := earlier.streams.stderr ++ s.streams.stderr

variable (s earlier : Sinks)

theorem drain_behind : s.drain.behind s = s := by
  simp [drain, behind]

theorem behind_drain : (s.behind earlier).drain = s.drain := rfl

theorem arrived_behind (p : Place) :
    (s.behind earlier).arrived p = earlier.arrived p ++ s.arrived p := by
  cases p <;> rfl

theorem receive_behind (e : Endpoint) (bytes : List UInt8) :
    (s.behind earlier).receive e bytes = (s.receive e bytes).behind earlier := by
  cases e with
  | buffer =>
    simp only [receive, behind, Buffer.write]
    split <;> simp
  | stream writer =>
    simp only [receive, behind]
    split
    · simp
    · split <;> simp

theorem prepare_behind (setting : Setting) :
    (s.behind earlier).prepare setting = (s.prepare setting).behind earlier := by
  unfold prepare
  split <;> rfl

theorem foldl_prepare_behind (settings : List Setting) :
    settings.foldl prepare (s.behind earlier) = (settings.foldl prepare s).behind earlier := by
  induction settings generalizing s with
  | nil => rfl
  | cons setting rest ih => simp only [List.foldl_cons, prepare_behind, ih]

end Sinks

theorem Logger.log_behind (l : Logger) (r : Record) (s earlier : Sinks) :
    l.log r (s.behind earlier) = ((l.log r s).1, (l.log r s).2.behind earlier) := by
  apply Prod.ext
  · apply Bool.eq_iff_iff.mpr
    rw [log_panicked_iff, log_panicked_iff]
    rfl
  · simp only [log_sinks, Sinks.receive_behind]
    split <;> rfl

/-- What takes steps, replies to each, and writes to sinks. What the sinks hold already makes no
difference to a step. -/
structure Machine (σ α ρ : Type) where
  step : σ → α → ρ × σ
  sinks : σ → Sinks
  withSinks : σ → Sinks → σ
  sinks_withSinks : ∀ x s, sinks (withSinks x s) = s
  withSinks_withSinks : ∀ x s t, withSinks (withSinks x s) t = withSinks x t
  withSinks_sinks : ∀ x, withSinks x (sinks x) = x
  step_behind : ∀ x earlier a,
    step (withSinks x ((sinks x).behind earlier)) a =
      ((step x a).1, withSinks (step x a).2 ((sinks (step x a).2).behind earlier))

namespace Machine

variable {σ α ρ : Type}

def run (m : Machine σ α ρ) (x : σ) (actions : List α) : σ :=
  actions.foldl (fun x a => (m.step x a).2) x

def drain (m : Machine σ α ρ) (x : σ) : σ := m.withSinks x (m.sinks x).drain

def behind (m : Machine σ α ρ) (x : σ) (earlier : Sinks) : σ :=
  m.withSinks x ((m.sinks x).behind earlier)

/-- The reply to each action, with the state after it. Its sinks hold what this action wrote. -/
def replies (m : Machine σ α ρ) (x : σ) : List α → List (ρ × σ)
  | [] => []
  | a :: rest =>
    let answer := m.step (m.drain x) a
    answer :: m.replies answer.2 rest

variable (m : Machine σ α ρ) (x : σ)

theorem drain_behind : m.behind (m.drain x) (m.sinks x) = x := by
  simp only [behind, drain, m.sinks_withSinks, m.withSinks_withSinks, Sinks.drain_behind,
    m.withSinks_sinks]

theorem behind_drain (earlier : Sinks) : m.drain (m.behind x earlier) = m.drain x := by
  simp only [behind, drain, m.sinks_withSinks, m.withSinks_withSinks, Sinks.behind_drain]

/-- A step is the one from drained sinks, with the text that was there before in front. -/
theorem step_eq (a : α) :
    m.step x a = ((m.step (m.drain x) a).1, m.behind (m.step (m.drain x) a).2 (m.sinks x)) := by
  have later := m.step_behind (m.drain x) (m.sinks x) a
  rwa [← behind, drain_behind] at later

theorem replies_behind (earlier : Sinks) (actions : List α) :
    m.replies (m.behind x earlier) actions = m.replies x actions := by
  cases actions with
  | nil => rfl
  | cons a rest => simp only [replies, behind_drain]

theorem replies_cons (a : α) (rest : List α) :
    m.replies x (a :: rest) = m.step (m.drain x) a :: m.replies (m.step x a).2 rest := by
  rw [m.step_eq x a, replies_behind, replies]

theorem replies_append (before after : List α) :
    m.replies x (before ++ after) = m.replies x before ++ m.replies (m.run x before) after := by
  induction before generalizing x with
  | nil => rfl
  | cons a rest ih =>
    rw [List.cons_append, replies_cons, replies_cons, ih]
    rfl

theorem replies_length (actions : List α) : (m.replies x actions).length = actions.length := by
  induction actions generalizing x with
  | nil => rfl
  | cons a rest ih => simp [replies, ih]

theorem replies_getElem? (before : List α) (a : α) (after : List α) :
    (m.replies x (before ++ a :: after))[before.length]? =
      some (m.step (m.drain (m.run x before)) a) := by
  rw [replies_append, List.getElem?_append_right (Nat.le_of_eq (m.replies_length x before)),
    replies_length, Nat.sub_self, replies_cons, List.getElem?_cons_zero]

theorem step_arrived (a : α) (p : Place) :
    (m.sinks (m.step x a).2).arrived p =
      (m.sinks x).arrived p ++ (m.sinks (m.step (m.drain x) a).2).arrived p := by
  rw [m.step_eq x a, behind, m.sinks_withSinks, Sinks.arrived_behind]

theorem run_arrived (actions : List α) (p : Place) :
    (m.sinks (m.run x actions)).arrived p =
      (m.sinks x).arrived p ++ (m.replies x actions).flatMap fun r => (m.sinks r.2).arrived p := by
  induction actions generalizing x with
  | nil => exact (List.append_nil _).symm
  | cons a rest ih =>
    have later := ih (m.step x a).2
    rw [step_arrived, List.append_assoc] at later
    rw [replies_cons, List.flatMap_cons]
    exact later

end Machine

namespace Desk

def withSinks (d : Desk) (s : Sinks) : Desk := { d with sinks := s }

theorem act_behind (d : Desk) (earlier : Sinks) (a : Action) :
    (d.withSinks (d.sinks.behind earlier)).act a =
      ((d.act a).1, (d.act a).2.withSinks ((d.act a).2.sinks.behind earlier)) := by
  cases a with
  | configure setting => simp [act, configure, withSinks, Sinks.prepare_behind]
  | log r => simp [act, log_eq, withSinks, Logger.log_behind]
  | enabled | flush | refill => rfl

def machine : Machine Desk Action Reply where
  step := act
  sinks := sinks
  withSinks := withSinks
  sinks_withSinks _ _ := rfl
  withSinks_withSinks _ _ _ := rfl
  withSinks_sinks _ := rfl
  step_behind := act_behind

theorem replies_eq (d : Desk) (actions : List Action) :
    d.replies actions = machine.replies d actions := by
  induction actions generalizing d with
  | nil => rfl
  | cons a rest ih => exact congrArg (List.cons _) (ih _)

/-- **The replies of a logger add up to its run.** There is one reply for each action, the one that the
action is given within the run. The desk that is shown with it is the one of the run, but that its
sinks hold only what this action has written. All that was written, one behind the other, is what the
run has written. -/
theorem replies_tell_run (d : Desk) (actions : List Action) :
    (d.replies actions).length = actions.length ∧
    (∀ before a after, actions = before ++ a :: after →
      ∃ reply shown, (d.replies actions)[before.length]? = some (reply, shown) ∧
        (d.run before).act a =
          (reply, shown.withSinks (shown.sinks.behind (d.run before).sinks))) ∧
    ∀ p, (d.run actions).sinks.arrived p =
      d.sinks.arrived p ++ (d.replies actions).flatMap fun r => r.2.sinks.arrived p := by
  simp only [replies_eq]
  refine ⟨machine.replies_length d actions, ?_, machine.run_arrived d actions⟩
  rintro before a after rfl
  exact ⟨_, _, machine.replies_getElem? d before a after, machine.step_eq (d.run before) a⟩

end Desk

namespace Facade

def behind (f : Facade) (earlier : Sinks) : Facade := { f with sinks := f.sinks.behind earlier }

variable (f : Facade) (earlier : Sinks)

theorem emit_behind (r : Record) :
    (f.behind earlier).emit r = ((f.emit r).1, (f.emit r).2.behind earlier) := by
  rcases f with ⟨none | l, maxLevel, sinks⟩
  · rfl
  · by_cases admitted : maxLevel.admits r.level <;>
      simp [emit, behind, passes, Logger.log_behind, admitted]

theorem emitAll_behind (records : List Record) :
    (f.behind earlier).emitAll records = (f.emitAll records).behind earlier := by
  induction records generalizing f with
  | nil => rfl
  | cons r rest ih =>
    have later := ih (f.emit r).2
    rw [emitAll, List.foldl_cons, emit_behind]
    exact later

theorem init_behind (request : LevelRequest) :
    (f.behind earlier).init request = (f.init request).behind earlier := by
  cases installed : f.logger? with
  | none =>
    rw [init_of_vacant installed, ← emitAll_behind]
    exact init_of_vacant (f := f.behind earlier) installed request
  | some l =>
    rw [init_of_refused installed, ← emitAll_behind]
    exact init_of_refused (f := f.behind earlier) installed request

theorem enable_behind (settings : List Setting) :
    (f.behind earlier).enable settings =
      ((f.enable settings).1, (f.enable settings).2.behind earlier) := by
  cases installed : f.logger? with
  | none =>
    rw [enable_of_vacant installed, enable_of_vacant (f := f.behind earlier) installed, behind,
      Sinks.foldl_prepare_behind]
    rfl
  | some l =>
    rw [enable_of_installed installed, enable_of_installed (f := f.behind earlier) installed, behind,
      Sinks.foldl_prepare_behind]
    rfl

end Facade

end Log

/-- Text that has been written before makes no difference to a call. -/
theorem EntryPoint.callCeil_behind {F : Format} (p : EntryPoint) (b : Build) (x : Binary F)
    (c : Context) (earlier : Log.Sinks) :
    p.callCeil b x { c with log := c.log.behind earlier } =
      ((p.callCeil b x c).1,
        { (p.callCeil b x c).2 with log := (p.callCeil b x c).2.log.behind earlier }) := by
  apply Prod.ext
  · rw [callCeil_value, callCeil_value]
  · apply congrArg₂ Context.mk
    · rw [callCeil_errno, callCeil_errno]
    · rw [callCeil_log, callCeil_log, Log.Facade.emitAll_behind]

namespace Host

def sinks (h : Host) : Log.Sinks := h.context.log.sinks

def withSinks (h : Host) (s : Log.Sinks) : Host := h.withLog { h.context.log with sinks := s }

theorem step_behind (h : Host) (earlier : Log.Sinks) (s : Step) :
    (h.withSinks (h.sinks.behind earlier)).step s =
      ((h.step s).1, (h.step s).2.withSinks ((h.step s).2.sinks.behind earlier)) := by
  cases s with
  | init =>
    have later := h.context.log.init_behind earlier (.ofVariable h.environment?)
    exact congrArg (fun log => (Reply.nothing, h.withLog log)) later
  | enable settings =>
    have later := h.context.log.enable_behind earlier settings
    exact congrArg (fun after => (Reply.enabled after.1, h.withLog after.2)) later
  | log r =>
    have later := h.context.log.emit_behind earlier r
    exact congrArg (fun after => (Reply.truth (h.context.log.passes r.level), h.withLog after.2)) later
  | ceil x =>
    have later := EntryPoint.ceil.callCeil_behind .standard x h.context earlier
    exact congrArg (fun after => (Reply.double after.1, { h with context := after.2 })) later
  | ceilf x =>
    have later := EntryPoint.ceilf.callCeil_behind .standard x h.context earlier
    exact congrArg (fun after => (Reply.single after.1, { h with context := after.2 })) later
  | setVariable | unsetVariable | enabled | setErrno => rfl

def machine : Log.Machine Host Step Reply where
  step := step
  sinks := sinks
  withSinks := withSinks
  sinks_withSinks _ _ := rfl
  withSinks_withSinks _ _ _ := rfl
  withSinks_sinks _ := rfl
  step_behind := step_behind

theorem replies_eq (h : Host) (steps : List Step) : h.replies steps = machine.replies h steps := by
  induction steps generalizing h with
  | nil => rfl
  | cons s rest ih => exact congrArg (List.cons _) (ih _)

/-- **The replies of a process add up to its run**, as those of a logger do. -/
theorem replies_tell_run (h : Host) (steps : List Step) :
    (h.replies steps).length = steps.length ∧
    (∀ before s after, steps = before ++ s :: after →
      ∃ reply shown, (h.replies steps)[before.length]? = some (reply, shown) ∧
        (h.run before).step s =
          (reply, shown.withSinks (shown.sinks.behind (h.run before).sinks))) ∧
    ∀ p, (h.run steps).sinks.arrived p =
      h.sinks.arrived p ++ (h.replies steps).flatMap fun r => r.2.sinks.arrived p := by
  simp only [replies_eq]
  refine ⟨machine.replies_length h steps, ?_, machine.run_arrived h steps⟩
  rintro before s after rfl
  exact ⟨_, _, machine.replies_getElem? h before s after, machine.step_eq (h.run before) s⟩

end Host

end TracedMath
