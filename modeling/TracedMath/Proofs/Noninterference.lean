import TracedMath.Host
import TracedMath.Proofs.Determinacy

namespace TracedMath.Log

/-- A buffer of this capacity fails when it is full, or it never is. -/
def Capacity.calm (c : Capacity) : Bool := c.onFull != .panic || c.room? == none

/-- A setting that brings no endpoint that panics. -/
def Setting.calm : Setting → Bool
  | .output (.buffer capacity) _ => capacity.calm
  | _ => true

theorem Capacity.calm_iff (c : Capacity) : c.calm ↔ (c.onFull = .panic → c.room? = none) := by
  unfold calm
  cases c.onFull <;> simp

theorem Sinks.receive_calm {s : Sinks} (h : s.buffer.capacity.calm) (e : Endpoint)
    (bytes : List UInt8) : (s.receive e bytes).buffer.capacity.calm := by
  rw [Capacity.calm_iff] at h ⊢
  intro panics
  rw [receive_onFull] at panics
  exact receive_room (h panics) e bytes

theorem Sinks.prepare_calm {s : Sinks} (h : s.buffer.capacity.calm) {settings : List Setting}
    (calm : settings.all Setting.calm) : (settings.foldl prepare s).buffer.capacity.calm := by
  induction settings generalizing s with
  | nil => exact h
  | cons setting rest ih =>
    rw [List.all_cons, Bool.and_eq_true] at calm
    refine ih ?_ calm.2
    unfold prepare
    split
    · exact calm.1
    · exact h

namespace Facade

/-- The buffer does not panic, whichever logger writes to it. -/
def Safe (f : Facade) : Prop := f.sinks.buffer.capacity.calm

variable {f : Facade}

theorem Safe.calm (h : f.Safe) : f.Calm := fun _ _ _ => (Capacity.calm_iff _).mp h

theorem Safe.emit (h : f.Safe) (r : Record) : (f.emit r).2.Safe := by
  rcases f.emit_cases r with nothing | ⟨l, -, -, written⟩
  · rw [nothing]
    exact h
  · rw [written, Safe, Logger.log_sinks]
    split
    · exact Sinks.receive_calm h _ _
    · exact h

theorem Safe.emitAll (h : f.Safe) (records : List Record) : (f.emitAll records).Safe := by
  induction records generalizing f with
  | nil => exact h
  | cons r rest ih => exact ih (h.emit r)

theorem Safe.init (h : f.Safe) (request : LevelRequest) : (f.init request).Safe := by
  unfold Facade.init
  cases vacant : f.logger? with
  | some l =>
    have refused := h.emit refusedRecord
    rw [install_of_installed vacant]
    cases request with
    | unset | level => exact refused
    | invalid text => exact refused.emit (invalidRecord text)
  | none =>
    have installed : Safe { f with
        logger? := some request.logger, maxLevel := request.logger.levelNeeded } := h
    rw [install_of_vacant vacant]
    cases request with
    | unset | level => exact installed
    | invalid text => exact installed.emit (invalidRecord text)

theorem Safe.enable (h : f.Safe) {settings : List Setting} (calm : settings.all Setting.calm) :
    (f.enable settings).2.Safe := by
  have prepared := Sinks.prepare_calm h calm
  cases vacant : f.logger? with
  | some l =>
    rw [enable_of_installed vacant]
    exact prepared
  | none =>
    rw [enable_of_vacant vacant]
    exact prepared

end Facade

end TracedMath.Log

namespace TracedMath.Host

/-- A step that calculates or stores an errno. The others concern the environment and the log. -/
def Step.computes : Step → Bool
  | .ceil _ | .ceilf _ | .setErrno _ => true
  | _ => false

/-- A step that makes no endpoint that panics. -/
def Step.calm : Step → Bool
  | .enable settings => settings.all Log.Setting.calm
  | _ => true

/-- The replies to the steps that compute, each with the errno after it. -/
def computed (h : Host) (steps : List Step) : List (Reply × ErrorCode) :=
  ((steps.zip (h.replies steps)).filter fun a => a.1.computes).map fun a =>
    (a.2.1, a.2.2.context.errno)

variable {h k : Host} {s : Step}

theorem step_errno_of_not_computes (silent : s.computes = false) :
    (h.step s).2.context.errno = h.context.errno := by
  cases s with
  | ceil | ceilf | setErrno => cases silent
  | _ => rfl

/-- What a step computes follows from the errno before it. -/
theorem step_of_errno (computes : s.computes) (same : h.context.errno = k.context.errno) :
    (h.step s).1 = (k.step s).1 ∧ (h.step s).2.context.errno = (k.step s).2.context.errno := by
  cases s with
  | ceil x =>
    obtain ⟨value, errno⟩ := (EntryPoint.ceil.callCeil_determined .standard x).of_errno same
    exact ⟨congrArg Reply.double value, errno⟩
  | ceilf x =>
    obtain ⟨value, errno⟩ := (EntryPoint.ceilf.callCeil_determined .standard x).of_errno same
    exact ⟨congrArg Reply.single value, errno⟩
  | setErrno value => exact ⟨rfl, rfl⟩
  | _ => cases computes

theorem step_safe (safe : h.context.log.Safe) (calm : s.calm) : (h.step s).2.context.log.Safe := by
  cases s with
  | init => exact safe.init _
  | enable settings => exact safe.enable calm
  | log record => exact safe.emit record
  | ceil x =>
    have log := EntryPoint.ceil.callCeil_log .standard x h.context
    exact log ▸ safe.emitAll _
  | ceilf x =>
    have log := EntryPoint.ceilf.callCeil_log .standard x h.context
    exact log ▸ safe.emitAll _
  | setVariable | unsetVariable | enabled | setErrno => exact safe

theorem replies_calm (safe : h.context.log.Safe) {steps : List Step} (calm : ∀ s ∈ steps, s.calm) :
    ∀ a ∈ h.replies steps, a.2.context.log.Calm := by
  induction steps generalizing h with
  | nil =>
    intro a none
    cases none
  | cons s rest ih =>
    have drained : h.drain.context.log.Safe := safe
    have after := step_safe drained (calm s List.mem_cons_self)
    intro a ha
    rcases List.mem_cons.mp ha with rfl | later
    · exact after.calm
    · exact ih after (fun s hs => calm s (List.mem_cons_of_mem _ hs)) a later

/-- The steps that do not compute can be left out. -/
theorem computed_filter (same : h.context.errno = k.context.errno) (steps : List Step) :
    h.computed steps = k.computed (steps.filter Step.computes) := by
  induction steps generalizing h k with
  | nil => rfl
  | cons s rest ih =>
    have drained : h.drain.context.errno = k.drain.context.errno := same
    cases computes : s.computes with
    | true =>
      obtain ⟨reply, errno⟩ := step_of_errno computes drained
      have others := ih errno
      rw [List.filter_cons_of_pos computes]
      simp only [computed, replies, List.zip_cons_cons, List.filter_cons, computes, if_true,
        List.map_cons] at others ⊢
      rw [reply, errno, others]
    | false =>
      have errno := (step_errno_of_not_computes (h := h.drain) computes).trans same
      have others := ih errno
      rw [List.filter_cons_of_neg (by simp [computes]), ← others]
      simp only [computed, replies, List.zip_cons_cons, List.filter_cons, computes,
        Bool.false_eq_true, if_false]

end TracedMath.Host

namespace TracedMath

/-- **Logging does not show.** In each build a session gives the same answers, nested ones and errno
included, whatever its records are handed to. If two runs of a process have the same calculations and
stored errnos in the same order, and no endpoint that panics, they calculate the same with the same
errno, whatever else they do, and neither ever comes to a point where a record would panic. -/
theorem logging_noninterference :
    (∀ (b : Build) (steps : List Session.Step) (one? other? : Option Session.Receiver),
      (Session.answers b steps (Session.start one?)).map Prod.fst =
        (Session.answers b steps (Session.start other?)).map Prod.fst) ∧
    ∀ xs ys : List Host.Step,
      xs.filter Host.Step.computes = ys.filter Host.Step.computes →
      (∀ s ∈ xs, s.calm) → (∀ s ∈ ys, s.calm) →
      Host.initial.computed xs = Host.initial.computed ys ∧
        (∀ a ∈ Host.initial.replies xs, a.2.context.log.Calm) ∧
        ∀ a ∈ Host.initial.replies ys, a.2.context.log.Calm := by
  constructor
  · intro b steps one? other?
    rw [Session.map_fst_answers, Session.map_fst_answers]
    rfl
  · intro xs ys same xs_calm ys_calm
    have safe : Host.initial.context.log.Safe := rfl
    refine ⟨?_, Host.replies_calm safe xs_calm, Host.replies_calm safe ys_calm⟩
    calc Host.initial.computed xs = Host.initial.computed (xs.filter Host.Step.computes) :=
          Host.computed_filter rfl xs
      _ = Host.initial.computed (ys.filter Host.Step.computes) := by rw [same]
      _ = Host.initial.computed ys := (Host.computed_filter rfl ys).symm

/-- A buffer that is full after three bytes, a logger that is refused, a level from the environment and a
record of the program's own, against none of them. -/
theorem logging_noninterference_full_buffer :
    let xs : List Host.Step :=
      [.setErrno ⟨34⟩, .enable [.output (.buffer ⟨some 3, .fail⟩) (.upTo .trace)], .ceil .nan,
        .setVariable (utf8 "trace"), .init, .ceilf .one, .log ⟨.error, "", none, none, "m"⟩]
    let ys : List Host.Step := [.setErrno ⟨34⟩, .ceil .nan, .ceilf .one]
    xs.filter Host.Step.computes = ys.filter Host.Step.computes ∧
      (∀ s ∈ xs, s.calm) ∧ (∀ s ∈ ys, s.calm) ∧
      Host.initial.computed xs = Host.initial.computed ys := by
  intro xs ys
  have same : xs.filter Host.Step.computes = ys.filter Host.Step.computes := by decide
  have xs_calm : ∀ s ∈ xs, s.calm := by decide
  have ys_calm : ∀ s ∈ ys, s.calm := by decide
  exact ⟨same, xs_calm, ys_calm, (logging_noninterference.2 xs ys same xs_calm ys_calm).1⟩

end TracedMath
