import TracedMath.Log.State
import TracedMath.Proofs.Quoting
import TracedMath.Proofs.ReadBack
import TracedMath.Proofs.Startup

namespace TracedMath.Log

theorem not_breaksLine_of_mem_message {s : String} {c : Char}
    (h : c ∈ (invalidRecord s).message.toList) : Text.breaksLine c = false := by
  have opening : ("ignoring invalid " ++ levelVariable ++ "=").toList.all
      fun c => !Text.breaksLine c := by decide
  rw [invalidRecord, Site.record, String.toList_append, List.mem_append] at h
  rcases h with literal | quoted
  · simpa using List.all_eq_true.mp opening c literal
  · exact Text.not_breaksLine_of_mem_quoted quoted

/-- The line of a record whose fields hold no newline ends with the only one. -/
theorem line_of_invalidRecord (s : String) {l : Logger}
    (name : '\n' ∉ (l.processName?.getD "").toList) :
    ∃ body, (l.line (invalidRecord s)).toList = body ++ ['\n'] ∧ '\n' ∉ body := by
  refine ⟨_, Entry.toList_text _ _, Entry.newline_not_mem_body name ?_ ?_⟩
  · have place : '\n' ∉ invalidSite.path.toList := by decide
    exact place
  · intro newline
    cases not_breaksLine_of_mem_message newline

/-- What init does last about a text that is no level is to complain of it. -/
theorem init_complains {s : String} (h : ∀ f : Filter, ¬ f.Named s) (f : Facade) :
    ∃ g : Facade, g.logger?.isSome ∧
      f.init (.ofVariable (some (utf8 s))) = (g.emit (invalidRecord s)).2 := by
  rw [ofVariable_of_asks (.invalid h)]
  cases installed : f.logger? with
  | none => exact ⟨_, rfl, Facade.init_of_vacant installed _⟩
  | some l =>
    refine ⟨(f.emit refusedRecord).2, ?_, Facade.init_of_refused installed _⟩
    rw [(f.emit_logger refusedRecord).1, installed]
    rfl

theorem stateOption_injective {text : α → String} (h : ∀ {a b}, text a = text b → a = b)
    {x y : Option α} (same : stateOption text x = stateOption text y) : x = y := by
  have apart (a : α) : "None" ≠ stateOption text (some a) := by
    intro same
    have first := congrArg (fun s => s.toList.head?) same
    simp [stateOption, String.toList_append] at first
  cases x with
  | none =>
    cases y with
    | none => rfl
    | some b => exact absurd same (apart b)
  | some a =>
    cases y with
    | none => exact absurd same.symm (apart a)
    | some b =>
      simp only [stateOption, String.append_left_inj, String.append_right_inj] at same
      rw [h same]

theorem Filter.name_injective {f g : Filter} (h : f.name = g.name) : f = g := by
  have apart : ∀ f g : Filter, f.name = g.name → f = g := by decide
  exact apart f g h

/-- A field that does not hold the sign that comes after it ends there. -/
theorem field_injective {c : Char} {sign a b x y : String} (first : sign.toList.head? = some c)
    (ha : c ∉ a.toList) (hb : c ∉ b.toList) (h : a ++ (sign ++ x) = b ++ (sign ++ y)) :
    a = b ∧ x = y := by
  obtain ⟨rest, opens⟩ := List.head?_eq_some_iff.mp first
  have lists := congrArg (fun s => Entry.cut c s.toList) h
  simp only [String.toList_append, opens, List.cons_append, Entry.cut_append ha,
    Entry.cut_append hb, Prod.mk.injEq] at lists
  exact ⟨String.toList_inj.mp lists.1, String.toList_inj.mp (List.append_cancel_left lists.2)⟩

/-- What the state text tells of a logger: everything but where its output goes. -/
structure Logger.SameState (l m : Logger) : Prop where
  filter : l.output.filter = m.output.filter
  minOverride : l.minOverride? = m.minOverride?
  maxOverride : l.maxOverride? = m.maxOverride?
  maxInUse : l.maxInUse? = m.maxInUse?
  processName : l.processName? = m.processName?

theorem Logger.state_eq_iff (l m : Logger) : l.state = m.state ↔ l.SameState m := by
  have space : ∀ f : Filter, ' ' ∉ f.name.toList := by decide
  have comma (f? : Option Filter) : ',' ∉ (stateOption Filter.name f?).toList := by
    have given : ∀ f : Filter, ',' ∉ (stateOption Filter.name (some f)).toList := by decide
    cases f? with
    | none => decide
    | some f => exact given f
  have override {x y : Option Filter}
      (h : stateOption Filter.name x = stateOption Filter.name y) : x = y :=
    stateOption_injective Filter.name_injective h
  constructor
  · intro same
    unfold Logger.state Output.state at same
    simp only [String.append_assoc, String.append_right_inj] at same
    obtain ⟨filter, same⟩ := field_injective (c := ' ') (by decide) (space _) (space _) same
    rw [String.append_right_inj] at same
    obtain ⟨least, same⟩ := field_injective (c := ',') (by decide) (comma _) (comma _) same
    obtain ⟨greatest, same⟩ := field_injective (c := ',') (by decide) (comma _) (comma _) same
    obtain ⟨used, same⟩ := field_injective (c := ',') (by decide) (comma _) (comma _) same
    rw [String.append_left_inj] at same
    exact ⟨Filter.name_injective filter, override least, override greatest, override used,
      stateOption_injective Text.quoted_injective same⟩
  · rintro ⟨filter, least, greatest, used, name⟩
    unfold Logger.state Output.state
    rw [filter, least, greatest, used, name]

/-- **Quoting leaves no room for forged text.** What init complains of names the text of the variable as
a literal that reads back to it, and holds nothing that would end the line, so that a logger whose
process name holds no newline writes exactly one line. The state texts of two loggers are the same only
if their filters, overrides, remembered maxima and process names are. -/
theorem quoting_prevents_forgery :
    (∀ s : String,
      (invalidRecord s).message = "ignoring invalid ANSIMATH_LOG_LEVEL=" ++ Text.quoted s ∧
      Text.Literal (Text.quoted s) s ∧
      Text.unquote? (Text.quoted s).toList = some s.toList ∧
      (∀ c ∈ (invalidRecord s).message.toList, Text.breaksLine c = false) ∧
      (∀ l : Logger, '\n' ∉ (l.processName?.getD "").toList →
        ∃ body, (l.line (invalidRecord s)).toList = body ++ ['\n'] ∧ '\n' ∉ body) ∧
      ((∀ f : Filter, ¬ f.Named s) → ∀ f : Facade, ∃ g : Facade, g.logger?.isSome ∧
        f.init (.ofVariable (some (utf8 s))) = (g.emit (invalidRecord s)).2)) ∧
    ∀ l m : Logger, l.state = m.state ↔ l.SameState m := by
  refine ⟨fun s => ⟨rfl, Text.quoted_literal s, Text.unquote?_quoted s, ?_, ?_, init_complains⟩,
    Logger.state_eq_iff⟩
  · intro c mem
    exact not_breaksLine_of_mem_message mem
  · intro l name
    exact line_of_invalidRecord s name

/-- A variable that ends its literal too early, begins a line of its own and speaks of another level, and
a process name that looks like the end of a state text. -/
theorem quoting_prevents_forgery_of_lines :
    let s := "\"\n[@m ERROR]\u2028"
    let l : Logger := Logger.build [.processName "calc"]
    let m : Logger := Logger.build [.processName "calc\") \x7d"]
    Text.quoted s = "\"\\\"\\n[@m ERROR]\\u\x7b2028\x7d\"" ∧
      '\n' ∉ (l.processName?.getD "").toList ∧
      (∃ body, (l.line (invalidRecord s)).toList = body ++ ['\n'] ∧ '\n' ∉ body) ∧
      (∀ f : Filter, ¬ f.Named s) ∧
      (∃ g : Facade, g.logger?.isSome ∧
        Facade.initial.init (.ofVariable (some (utf8 s))) = (g.emit (invalidRecord s)).2) ∧
      l.state ≠ m.state := by
  intro s l m
  obtain ⟨texts, states⟩ := quoting_prevents_forgery
  obtain ⟨-, -, -, -, line, complains⟩ := texts s
  have name : '\n' ∉ (l.processName?.getD "").toList := by decide
  have none : ∀ f : Filter, ¬ f.Named s := Filter.ofName?_eq_none_iff.mp (by decide)
  have apart : l.processName? ≠ m.processName? := by decide
  exact ⟨by decide +kernel, name, line l name, none, complains none Facade.initial,
    fun same => apart ((states l m).mp same).processName⟩

end TracedMath.Log
