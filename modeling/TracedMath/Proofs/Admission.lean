import Mathlib.Data.Nat.Basic
import Mathlib.Order.MinMax
import TracedMath.Log.Startup
import TracedMath.Proofs.Delivery

namespace TracedMath.Log

namespace Filter

variable {f g : Filter}

instance : LinearOrder Filter :=
  LinearOrder.lift rank (fun _ _ => rank_injective) rank_max rank_min

/-- A wider filter admits what a narrower one does. -/
theorem admits_of_le (h : f ≤ g) {l : Level} (admitted : f.admits l) : g.admits l := by
  simp only [admits, decide_eq_true_eq] at admitted ⊢
  exact Nat.le_trans admitted h

end Filter

/-- Whether a setting clamps the output's filter anew. The process name does not. -/
def Setting.adjusts : Setting → Bool
  | .processName _ => false
  | _ => true

/-- The output's filter right after a setting, if the setting clamps it. -/
def Logger.filterAfter (l : Logger) (s : Setting) : List Filter :=
  if s.adjusts then [(l.configure s).output.filter] else []

/-- The output's filters right after each of the settings that clamp it. -/
def Logger.filtersUsed (l : Logger) : List Setting → List Filter
  | [] => []
  | s :: rest => l.filterAfter s ++ (l.configure s).filtersUsed rest

theorem Logger.filtersUsed_eq_nil_iff (l : Logger) (settings : List Setting) :
    l.filtersUsed settings = [] ↔ ∀ s ∈ settings, s.adjusts = false := by
  induction settings generalizing l with
  | nil => simp [filtersUsed]
  | cons s rest ih =>
    rw [filtersUsed, List.append_eq_nil_iff, ih, List.forall_mem_cons, filterAfter]
    cases s.adjusts <;> simp

/-- The logger remembers the greatest of the filters that its output has had, and none if it has had
but the one that it began with. -/
structure Logger.Remembers (l : Logger) (used : List Filter) : Prop where
  none_iff : l.maxInUse? = none ↔ used = []
  standard : used = [] → l.output.filter = .standard
  greatest : ∀ m, l.maxInUse? = some m → m ∈ used ∧ ∀ f ∈ used, f ≤ m
  current : used ≠ [] → l.output.filter ∈ used

theorem Logger.initial_remembers : Logger.initial.Remembers [] where
  none_iff := ⟨fun _ => rfl, fun _ => rfl⟩
  standard := fun _ => rfl
  greatest := by rintro m ⟨⟩
  current := fun h => absurd rfl h

namespace Logger

variable {l : Logger} {s : Setting} {used : List Filter}

theorem maxInUse_of_adjusts (h : s.adjusts = true) :
    (l.configure s).maxInUse? = some (l.maxInUse?.elim (l.configure s).output.filter
      fun m => max (l.configure s).output.filter m) := by
  cases s with
  | output | minOverride | maxOverride => rfl
  | processName => exact Bool.noConfusion h

theorem configure_of_not_adjusts (h : s.adjusts = false) :
    (l.configure s).maxInUse? = l.maxInUse? ∧ (l.configure s).output = l.output := by
  cases s with
  | output | minOverride | maxOverride => exact Bool.noConfusion h
  | processName => exact ⟨rfl, rfl⟩

theorem Remembers.configure (h : l.Remembers used) (s : Setting) :
    (l.configure s).Remembers (used ++ l.filterAfter s) := by
  cases adjusts : s.adjusts with
  | false =>
    obtain ⟨same, output⟩ := configure_of_not_adjusts (l := l) adjusts
    rw [filterAfter, adjusts, if_neg Bool.false_ne_true, List.append_nil]
    exact ⟨by rw [same]; exact h.none_iff, by rw [output]; exact h.standard,
      by rw [same]; exact h.greatest, by rw [output]; exact h.current⟩
  | true =>
    have latest := maxInUse_of_adjusts (l := l) adjusts
    rw [filterAfter, adjusts, if_pos rfl]
    refine ⟨by simp [latest], by simp, ?_, by simp⟩
    generalize (l.configure s).output.filter = f at latest
    rintro m hm
    rw [latest, Option.some.injEq] at hm
    subst hm
    cases before : l.maxInUse? with
    | none =>
      rw [h.none_iff.mp before]
      simp
    | some m =>
      obtain ⟨mem, bound⟩ := h.greatest m before
      constructor
      · rcases max_choice f m with new | old
        · simp [new]
        · simp [old, mem]
      · intro g hg
        rcases List.mem_append.mp hg with hg | hg
        · exact le_trans (bound g hg) (le_max_right f m)
        · rw [List.mem_singleton.mp hg]
          exact le_max_left f m

theorem Remembers.foldl (h : l.Remembers used) (settings : List Setting) :
    (settings.foldl Logger.configure l).Remembers (used ++ l.filtersUsed settings) := by
  induction settings generalizing l used with
  | nil => simpa [filtersUsed] using h
  | cons s rest ih =>
    have next := ih (h.configure s)
    rwa [List.append_assoc] at next

theorem build_remembers (settings : List Setting) :
    (build settings).Remembers (initial.filtersUsed settings) :=
  initial_remembers.foldl settings

/-- The filter in use is never above the level that the logger needs. -/
theorem Remembers.filter_le (h : l.Remembers used) : l.output.filter ≤ l.levelNeeded := by
  rw [levelNeeded]
  cases max : l.maxInUse? with
  | none =>
    rw [h.standard (h.none_iff.mp max)]
    exact le_refl _
  | some m =>
    have some : used ≠ [] := by
      intro none
      simp [h.none_iff.mpr none] at max
    exact (h.greatest m max).2 _ (h.current some)

end Logger

namespace Facade

variable {f : Facade} {l : Logger}

theorem enabled_of_installed (h : f.logger? = some l) (level : Level) :
    f.enabled level = l.output.filter.admits level := by
  rw [enabled, h]
  rfl

/-- If the facade's level is not below the logger's filter, the facade might as well not be there. -/
theorem emit_of_installed (h : f.logger? = some l) (wide : l.output.filter ≤ f.maxLevel)
    (r : Record) : f.emit r = ((l.log r f.sinks).1, { f with sinks := (l.log r f.sinks).2 }) := by
  rw [emit, h]
  dsimp only
  split
  · rfl
  · rename_i hidden
    have refused : l.enabled r.level = false := by
      apply Bool.eq_false_iff.mpr
      intro admitted
      exact hidden (Filter.admits_of_le wide admitted)
    rw [Logger.log_of_not_enabled refused, ← h]

/-- What becomes of a record that is handed to the facade hangs on the filter of the logger `l` alone:
its line is handed to the endpoint, or nothing happens. -/
structure DecidedBy (f : Facade) (l : Logger) (r : Record) : Prop where
  enabled : f.enabled r.level = l.output.filter.admits r.level
  written : l.output.filter.admits r.level = true →
    (f.emit r).2 = { f with sinks := f.sinks.receive l.output.endpoint (utf8 (l.line r)) }
  silent : l.output.filter.admits r.level = false → f.emit r = (false, f)
  arrives : f.sinks.accepts l.output.endpoint = true →
    ((f.emit r).2 ≠ f ↔ l.output.filter.admits r.level = true)

theorem decidedBy_of_installed (h : f.logger? = some l) (wide : l.output.filter ≤ f.maxLevel)
    (r : Record) : f.DecidedBy l r := by
  have emit := emit_of_installed h wide r
  have written : l.output.filter.admits r.level = true →
      (f.emit r).2 = { f with sinks := f.sinks.receive l.output.endpoint (utf8 (l.line r)) } := by
    intro admitted
    rw [emit, Logger.log_sinks, Logger.enabled, if_pos admitted]
  have silent : l.output.filter.admits r.level = false → f.emit r = (false, f) := by
    intro refused
    rw [emit, Logger.log_of_not_enabled refused]
  refine ⟨enabled_of_installed h r.level, written, silent, ?_⟩
  intro accepts
  constructor
  · intro changed
    apply Bool.of_not_eq_false
    intro refused
    exact changed (by rw [silent refused])
  · intro admitted same
    rw [written admitted] at same
    exact Sinks.receive_ne accepts (r.text_ne_nil _) (congrArg Facade.sinks same)

end Facade

/-- **The level of the facade hides nothing.** The maximum that a built logger remembers is the
greatest of the filters that its output has had, and none if no setting has clamped the filter, which
is the standard one then. Once the logger is installed, what is written hangs on its filter alone. -/
theorem admission (settings : List Setting) :
    let l := Logger.build settings
    let used := Logger.initial.filtersUsed settings
    (l.maxInUse? = none ↔ ∀ s ∈ settings, s.adjusts = false) ∧
    (l.maxInUse? = none → l.output.filter = .upTo .info) ∧
    (∀ m, l.maxInUse? = some m → m ∈ used ∧ (∀ f ∈ used, f ≤ m) ∧ l.output.filter ≤ m) ∧
    ∀ f : Facade, f.logger? = none → ∃ g, f.enable settings = (.ok l, g) ∧
      ∀ (r : Record) (s : Sinks), { g with sinks := s : Facade }.DecidedBy l r := by
  intro l used
  have remembers : l.Remembers used := Logger.build_remembers settings
  refine ⟨?_, ?_, ?_, ?_⟩
  · rw [remembers.none_iff, Logger.filtersUsed_eq_nil_iff]
  · intro none
    exact remembers.standard (remembers.none_iff.mp none)
  · intro m hm
    obtain ⟨mem, bound⟩ := remembers.greatest m hm
    exact ⟨mem, bound, bound _ (remembers.current (List.ne_nil_of_mem mem))⟩
  · intro f vacant
    refine ⟨_, Facade.enable_of_vacant vacant settings, ?_⟩
    intro r s
    exact Facade.decidedBy_of_installed rfl remembers.filter_le r

/-- The filter goes up, and down again. -/
def raisedAndLowered : List Setting :=
  [.output .standard (.upTo .error), .maxOverride (.upTo .debug), .minOverride (.upTo .info)]

theorem admission_raised_and_lowered :
    Facade.initial.logger? = none ∧
      (Logger.build raisedAndLowered).maxInUse? = some (.upTo .debug) ∧
      ∃ g, Facade.initial.enable raisedAndLowered = (.ok (Logger.build raisedAndLowered), g) ∧
        g.enabled .debug = false ∧ g.enabled .info = true := by
  refine ⟨rfl, by decide, ?_⟩
  obtain ⟨g, enabled, decided⟩ := (admission raisedAndLowered).2.2.2 Facade.initial rfl
  refine ⟨g, enabled, ?_, ?_⟩
  · exact (decided ⟨.debug, "", none, none, ""⟩ g.sinks).enabled.trans (by decide)
  · exact (decided ⟨.info, "", none, none, ""⟩ g.sinks).enabled.trans (by decide)

end TracedMath.Log
