import TracedMath.Proofs.Truncation

namespace TracedMath.Log

/-- Where text can be seen to arrive. -/
inductive Place where
  | buffer
  | stdout
  | stderr
  deriving DecidableEq, Repr

def Sinks.arrived (s : Sinks) : Place → List UInt8
  | .buffer => s.buffer.text
  | .stdout => s.streams.stdout
  | .stderr => s.streams.stderr

/-- The place that an endpoint leads to. A descriptor without a stream leads nowhere. -/
def Endpoint.place? : Endpoint → Option Place
  | .buffer => some .buffer
  | .stream writer =>
    if writer.fd = 1 then some .stdout else if writer.fd = 2 then some .stderr else none

namespace Sinks

theorem receive_arrived {s : Sinks} (room : s.buffer.capacity.room? = none) (e : Endpoint)
    (bytes : List UInt8) (p : Place) :
    (s.receive e bytes).arrived p =
      s.arrived p ++ if e.place? = some p then bytes else [] := by
  cases e with
  | buffer =>
    cases p with
    | buffer =>
      have text := s.buffer.text_write bytes
      rw [room] at text
      exact text
    | stdout | stderr => exact (List.append_nil _).symm
  | stream writer =>
    simp only [receive, Endpoint.place?]
    split
    · cases p <;> simp [arrived]
    · split
      · cases p <;> simp [arrived]
      · simp

theorem receive_nowhere {e : Endpoint} (h : e.place? = none) (s : Sinks) (bytes : List UInt8) :
    s.receive e bytes = s := by
  cases e with
  | buffer => cases h
  | stream writer =>
    simp only [Endpoint.place?] at h
    simp only [receive]
    split at h
    · cases h
    · split at h
      · cases h
      · rename_i out err
        rw [if_neg out, if_neg err]

theorem arrived_limit (s : Sinks) (c : Capacity) (p : Place) :
    (s.limit c).arrived p = s.arrived p := by
  cases p <;> rfl

theorem arrived_prepare (s : Sinks) (setting : Setting) (p : Place) :
    (s.prepare setting).arrived p = s.arrived p := by
  unfold prepare
  split
  · exact s.arrived_limit _ p
  · rfl

end Sinks

/-- The output that an action installs, if it installs one. -/
def Action.output? : Action → Option Output
  | .configure setting => setting.output?
  | _ => none

/-- Gives the buffer no limit. -/
def Action.Unlimited : Action → Prop
  | .configure (.output (.buffer capacity) _) => capacity.room? = none
  | .refill room? => room? = none
  | _ => True

namespace Logger

/-- The logger after an action. -/
def next (l : Logger) : Action → Logger
  | .configure setting => l.configure setting
  | _ => l

/-- The record of an action, if the logger admits it. -/
def admitted (l : Logger) : Action → List (Logger × Record)
  | .log r => if l.output.filter.admits r.level then [(l, r)] else []
  | _ => []

/-- The records of a run that were admitted, in their order, each with the logger as it was then. -/
def accepted (l : Logger) : List Action → List (Logger × Record)
  | [] => []
  | a :: rest => l.admitted a ++ (l.next a).accepted rest

/-- The lines of those records whose output led to a place. -/
def linesTo (p : Place) (records : List (Logger × Record)) : List UInt8 :=
  (records.filter fun (l, _) => l.output.endpoint.place? = some p).flatMap fun (l, r) => utf8 (l.line r)

theorem linesTo_append (p : Place) (xs ys : List (Logger × Record)) :
    linesTo p (xs ++ ys) = linesTo p xs ++ linesTo p ys := by
  rw [linesTo, List.filter_append, List.flatMap_append]
  rfl

theorem linesTo_admitted (l : Logger) (r : Record) (p : Place) :
    linesTo p (l.admitted (.log r)) =
      if l.output.filter.admits r.level ∧ l.output.endpoint.place? = some p then utf8 (l.line r)
      else [] := by
  rw [admitted]
  by_cases admits : l.output.filter.admits r.level = true
  · by_cases leads : l.output.endpoint.place? = some p <;> simp [linesTo, admits, leads]
  · simp [linesTo, admits]

theorem configure_endpoint (l : Logger) (s : Setting) :
    (l.configure s).output.endpoint = s.output?.elim l.output.endpoint Output.endpoint := by
  cases s <;> rfl

/-- A record goes through an output that was there before the run or that the run has installed. -/
theorem endpoint_of_accepted {l m : Logger} {r : Record} {actions : List Action}
    (h : (m, r) ∈ l.accepted actions) :
    m.output.endpoint = l.output.endpoint ∨
      ∃ a ∈ actions, ∃ o, a.output? = some o ∧ m.output.endpoint = o.endpoint := by
  induction actions generalizing l with
  | nil => cases h
  | cons a rest ih =>
    rcases List.mem_append.mp h with now | later
    · left
      cases a with
      | log record =>
        rw [admitted] at now
        split at now
        · cases List.mem_singleton.mp now
          rfl
        · cases now
      | configure | enabled | flush | refill => cases now
    · rcases ih later with same | ⟨b, mem, o, installed, endpoint⟩
      · cases a with
        | configure s =>
          have after := configure_endpoint l s
          cases output : s.output? with
          | none =>
            rw [output] at after
            exact .inl (same.trans after)
          | some o =>
            rw [output] at after
            exact .inr ⟨.configure s, List.mem_cons_self, o, output, same.trans after⟩
        | log | enabled | flush | refill => exact .inl same
      · exact .inr ⟨b, List.mem_cons_of_mem _ mem, o, installed, endpoint⟩

end Logger

namespace Desk

variable {d : Desk} {a : Action}

theorem act_logger (d : Desk) (a : Action) : (d.act a).2.logger = d.logger.next a := by
  cases a with
  | log r => exact (d.act_log r).1
  | configure | enabled | flush | refill => rfl

theorem act_room (room : d.sinks.buffer.capacity.room? = none) (unlimited : a.Unlimited) :
    (d.act a).2.sinks.buffer.capacity.room? = none := by
  cases a with
  | configure s =>
    cases s with
    | output destination f =>
      cases destination with
      | buffer capacity => exact unlimited
      | stream writer => exact room
    | minOverride | maxOverride | processName => exact room
  | log r =>
    rw [(d.act_log r).2]
    exact d.logger.log_room r room
  | enabled | flush => exact room
  | refill room? => exact unlimited

theorem act_arrived (room : d.sinks.buffer.capacity.room? = none) (a : Action) (p : Place) :
    (d.act a).2.sinks.arrived p = d.sinks.arrived p ++ Logger.linesTo p (d.logger.admitted a) := by
  cases a with
  | configure s => exact (d.sinks.arrived_prepare s p).trans (List.append_nil _).symm
  | log r =>
    rw [(d.act_log r).2, Logger.linesTo_admitted, Logger.log_sinks, Logger.enabled]
    by_cases admitted : d.logger.output.filter.admits r.level = true
    · simp only [admitted, if_true, true_and]
      exact Sinks.receive_arrived room _ _ p
    · simp [admitted]
  | enabled | flush => exact (List.append_nil _).symm
  | refill room? => exact (d.sinks.arrived_limit _ p).trans (List.append_nil _).symm

/-- Without a limit there is always room. -/
theorem act_not_panicked (room : d.sinks.buffer.capacity.room? = none) (a : Action) :
    (d.act a).1 ≠ .logged true := by
  cases a with
  | log r =>
    rw [act, log_eq]
    intro panicked
    have panicked : (d.logger.log r d.sinks).1 = true := Reply.logged.inj panicked
    obtain ⟨-, -, -, full⟩ := (d.logger.log_panicked_iff r d.sinks).mp panicked
    rw [Capacity.takes, room] at full
    cases full
  | configure | enabled | flush | refill => exact Reply.noConfusion

theorem run_append (d : Desk) (xs ys : List Action) : d.run (xs ++ ys) = (d.run xs).run ys :=
  List.foldl_append

theorem run_logger (d : Desk) (actions : List Action) :
    (d.run actions).logger = actions.foldl Logger.next d.logger := by
  induction actions generalizing d with
  | nil => rfl
  | cons a rest ih =>
    have later := ih (d.act a).2
    rw [act_logger] at later
    exact later

theorem run_room (room : d.sinks.buffer.capacity.room? = none) {actions : List Action}
    (unlimited : ∀ a ∈ actions, a.Unlimited) :
    (d.run actions).sinks.buffer.capacity.room? = none := by
  induction actions generalizing d with
  | nil => exact room
  | cons a rest ih =>
    obtain ⟨first, others⟩ := List.forall_mem_cons.mp unlimited
    exact ih (act_room room first) others

theorem run_arrived (room : d.sinks.buffer.capacity.room? = none) {actions : List Action}
    (unlimited : ∀ a ∈ actions, a.Unlimited) (p : Place) :
    (d.run actions).sinks.arrived p =
      d.sinks.arrived p ++ Logger.linesTo p (d.logger.accepted actions) := by
  induction actions generalizing d with
  | nil => exact (List.append_nil _).symm
  | cons a rest ih =>
    obtain ⟨first, others⟩ := List.forall_mem_cons.mp unlimited
    have later := ih (act_room room first) others
    rw [act_arrived room, act_logger] at later
    rw [Logger.accepted, Logger.linesTo_append, ← List.append_assoc]
    exact later

/-- A place that no output leads to receives nothing. -/
theorem run_quiet (room : d.sinks.buffer.capacity.room? = none) {actions : List Action}
    (unlimited : ∀ a ∈ actions, a.Unlimited) {p : Place}
    (elsewhere : d.logger.output.endpoint.place? ≠ some p)
    (never : ∀ a ∈ actions, ∀ o, a.output? = some o → o.endpoint.place? ≠ some p) :
    (d.run actions).sinks.arrived p = d.sinks.arrived p := by
  rw [run_arrived room unlimited, Logger.linesTo]
  have none : (d.logger.accepted actions).filter
      (fun (l, _) => l.output.endpoint.place? = some p) = [] := by
    rw [List.filter_eq_nil_iff]
    rintro ⟨m, r⟩ mem
    rw [decide_eq_true_eq]
    rcases Logger.endpoint_of_accepted mem with same | ⟨a, ha, o, installed, endpoint⟩
    · rw [same]
      exact elsewhere
    · rw [endpoint]
      exact never a ha o installed
  rw [none, List.flatMap_nil, List.append_nil]

/-- A record that leads nowhere is admitted or not, and nothing comes of it. -/
theorem act_log_nowhere (h : d.logger.output.endpoint.place? = none) (r : Record) :
    (d.act (.log r)).2.sinks = d.sinks := by
  rw [(d.act_log r).2, Logger.log_sinks]
  split
  · exact Sinks.receive_nowhere h _ _
  · rfl

/-- Once an output is replaced, nothing arrives where it led to, unless another one leads there. -/
theorem run_replaced (room : d.sinks.buffer.capacity.room? = none) {rest : List Action}
    (unlimited : ∀ b ∈ a :: rest, b.Unlimited) (replaced : a.output?.isSome) {p : Place}
    (never : ∀ b ∈ a :: rest, ∀ o, b.output? = some o → o.endpoint.place? ≠ some p) :
    (d.run (a :: rest)).sinks.arrived p = d.sinks.arrived p := by
  obtain ⟨first, others⟩ := List.forall_mem_cons.mp unlimited
  obtain ⟨o, installed⟩ := Option.isSome_iff_exists.mp replaced
  cases a with
  | configure s =>
    have endpoint : (d.logger.configure s).output.endpoint = o.endpoint := by
      rw [Logger.configure_endpoint, show s.output? = some o from installed, Option.elim_some]
    have elsewhere : (d.logger.configure s).output.endpoint.place? ≠ some p := by
      rw [endpoint]
      exact never _ List.mem_cons_self o installed
    have quiet := run_quiet (d := (d.act (.configure s)).2) (act_room room first) others elsewhere
      fun b hb => never b (List.mem_cons_of_mem _ hb)
    exact quiet.trans (d.sinks.arrived_prepare s p)
  | log | enabled | flush | refill => cases installed

end Desk

/-- **Every accepted record goes whole to one place.** On endpoints without a limit, in each place
arrive the lines of the admitted records whose output led there, in the order of the records, and
nothing else. No record makes its caller panic, and one that leads nowhere leaves the sinks as they
are. A place that the output has been turned away from receives nothing until an output is made for
it again. -/
theorem accepted_records_arrive (d : Desk) (actions : List Action)
    (room : d.sinks.buffer.capacity.room? = none) (unlimited : ∀ a ∈ actions, a.Unlimited) :
    (∀ p, (d.run actions).sinks.arrived p =
      d.sinks.arrived p ++ Logger.linesTo p (d.logger.accepted actions)) ∧
    (∀ before a after, actions = before ++ a :: after →
      (d.run before).logger = before.foldl Logger.next d.logger ∧
        ((d.run before).act a).1 ≠ .logged true) ∧
    (∀ before r after, actions = before ++ .log r :: after →
      (d.run before).logger.output.endpoint.place? = none →
      (d.run (before ++ [.log r])).sinks = (d.run before).sinks) ∧
    ∀ before a after, actions = before ++ a :: after → a.output?.isSome → ∀ p,
      (∀ b ∈ a :: after, ∀ o, b.output? = some o → o.endpoint.place? ≠ some p) →
      (d.run actions).sinks.arrived p = (d.run before).sinks.arrived p := by
  refine ⟨Desk.run_arrived room unlimited, ?_, ?_, ?_⟩
  · rintro before a after rfl
    obtain ⟨early, -⟩ := List.forall_mem_append.mp unlimited
    exact ⟨d.run_logger before, Desk.act_not_panicked (Desk.run_room room early) a⟩
  · rintro before r after rfl nowhere
    rw [Desk.run_append]
    exact Desk.act_log_nowhere nowhere r
  · rintro before a after rfl replaced p never
    obtain ⟨early, late⟩ := List.forall_mem_append.mp unlimited
    rw [Desk.run_append]
    exact Desk.run_replaced (Desk.run_room room early) late replaced never

/-- Outputs on all three places and on none, two of them on the same stream. -/
def wandering : List Action :=
  [.configure (.output (.buffer .unlimited) (.upTo .info)),
    .log ⟨.info, "t", none, none, "first"⟩,
    .configure (.output (.stream ⟨7⟩) (.upTo .trace)),
    .log ⟨.error, "t", none, none, "lost"⟩,
    .configure (.processName "p"),
    .configure (.output (.stream ⟨2⟩) (.upTo .warn)),
    .log ⟨.info, "t", none, none, "refused"⟩,
    .configure (.output .standard (.upTo .warn)),
    .configure (.maxOverride (.upTo .debug)),
    .log ⟨.debug, "t", none, some 7, "last"⟩]

theorem accepted_records_arrive_wandering :
    Desk.initial.sinks.buffer.capacity.room? = none ∧ (∀ a ∈ wandering, a.Unlimited) ∧
      (Desk.initial.run wandering).sinks.arrived .buffer = utf8 "[@t INFO] first\n" ∧
      (Desk.initial.run wandering).sinks.arrived .stdout = [] ∧
      (Desk.initial.run wandering).sinks.arrived .stderr = utf8 "[p@t:7 DEBUG] last\n" := by
  have unlimited : ∀ a ∈ wandering, a.Unlimited := by
    simp [wandering, Action.Unlimited, Capacity.unlimited, Destination.standard]
  obtain ⟨arrived, -⟩ := accepted_records_arrive Desk.initial wandering rfl unlimited
  refine ⟨rfl, unlimited, ?_, ?_, ?_⟩
  · exact (arrived .buffer).trans (by decide +kernel)
  · exact (arrived .stdout).trans (by decide +kernel)
  · exact (arrived .stderr).trans (by decide +kernel)

end TracedMath.Log
