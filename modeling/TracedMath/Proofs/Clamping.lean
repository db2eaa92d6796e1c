import Mathlib.Data.List.Induction
import TracedMath.Proofs.Admission

/-!
# The overrides clamp the filter in any order

The minimum override holds the filter of the output down and has the last word, the maximum override
holds it up as far as the minimum lets it. Clamping a clamped filter again changes nothing, and an
override that comes late gives what it would have given early (`Settled`). `overrides_clamp`: so the
order of the settings shows in the filter only through which output is the last.
-/

namespace TracedMath.Log

def Setting.minOverride? : Setting → Option Filter
  | .minOverride f => some f
  | _ => none

def Setting.maxOverride? : Setting → Option Filter
  | .maxOverride f => some f
  | _ => none

/-- The last thing of its kind that the settings ask for. -/
def lastGiven? (kind : Setting → Option α) (settings : List Setting) : Option α :=
  (settings.filterMap kind).getLast?

/-- The filter of the last output, as it was given. Without an output it is that of the first one. -/
def filterGiven (settings : List Setting) : Filter :=
  ((lastGiven? Setting.output? settings).getD .standard).filter

theorem lastGiven?_append (kind : Setting → Option α) (settings : List Setting) (s : Setting) :
    lastGiven? kind (settings ++ [s]) = (kind s).or (lastGiven? kind settings) := by
  rw [lastGiven?, List.filterMap_append, List.getLast?_append]
  cases h : kind s <;> simp [h, lastGiven?]

/-- A kind that is asked for once at most is not asked for before its one setting. -/
theorem lastGiven?_eq_none {kind : Setting → Option α} {settings : List Setting} {s : Setting}
    (once : ((settings ++ [s]).filterMap kind).length ≤ 1) (this : (kind s).isSome) :
    lastGiven? kind settings = none := by
  obtain ⟨a, ha⟩ := Option.isSome_iff_exists.mp this
  have count : ((settings ++ [s]).filterMap kind).length = (settings.filterMap kind).length + 1 := by
    simp [ha]
  have none : settings.filterMap kind = [] := List.eq_nil_of_length_eq_zero (by omega)
  rw [lastGiven?, none, List.getLast?_nil]

theorem once_of_append {kind : Setting → Option α} {settings : List Setting} {s : Setting}
    (once : ((settings ++ [s]).filterMap kind).length ≤ 1) : (settings.filterMap kind).length ≤ 1 := by
  rw [List.filterMap_append, List.length_append] at once
  exact Nat.le_trans (Nat.le_add_right _ _) once

/-- The filter raised to the one bound and then lowered to the other, as far as there are bounds. -/
def Filter.within (f : Filter) (lower? upper? : Option Filter) : Filter :=
  match lower?, upper? with
  | none, none => f
  | some lower, none => max f lower
  | none, some upper => min f upper
  | some lower, some upper => min (max f lower) upper

namespace Logger

variable {l : Logger} {f : Filter}

theorem build_append (settings : List Setting) (s : Setting) :
    build (settings ++ [s]) = (build settings).configure s := by
  rw [build, List.foldl_append]
  rfl

theorem clamp_eq (l : Logger) (f : Filter) : l.clamp f = f.within l.maxOverride? l.minOverride? := by
  unfold clamp Filter.within
  cases l.maxOverride? <;> cases l.minOverride? <;> rfl

theorem clamp_le {m : Filter} (h : l.minOverride? = some m) (f : Filter) : l.clamp f ≤ m := by
  rw [clamp, h, Option.elim_some]
  exact min_le_right _ m

theorem le_clamp {M : Filter} (h : l.maxOverride? = some M) (f : Filter) :
    l.minOverride?.elim M (min M) ≤ l.clamp f := by
  rw [clamp, h, Option.elim_some]
  cases l.minOverride? with
  | none => exact le_max_right f M
  | some m => exact min_le_min_right m (le_max_right f M)

theorem clamp_clamp (l : Logger) (f : Filter) : l.clamp (l.clamp f) = l.clamp f := by
  apply Filter.rank_injective
  unfold clamp
  cases l.maxOverride? <;> cases l.minOverride? <;> simp [Filter.rank_max, Filter.rank_min]
  omega

/-- A minimum that is set after clamping gives what it gives when it is set before. -/
theorem clamp_minOverride (none : l.minOverride? = none) (m : Filter) :
    { l with minOverride? := some m }.clamp (l.clamp f) =
      { l with minOverride? := some m }.clamp f := by
  apply Filter.rank_injective
  unfold clamp
  rw [none]
  cases l.maxOverride? <;> simp [Filter.rank_max, Filter.rank_min]

/-- So does a maximum. The minimum that has had its word by then has it again. -/
theorem clamp_maxOverride (none : l.maxOverride? = none) (M : Filter) :
    { l with maxOverride? := some M }.clamp (l.clamp f) =
      { l with maxOverride? := some M }.clamp f := by
  apply Filter.rank_injective
  unfold clamp
  rw [none]
  cases l.minOverride? <;> simp [Filter.rank_max, Filter.rank_min]
  omega

/-- The filter is the one that was given, clamped once by the overrides that are there. -/
def Settled (l : Logger) (given : Filter) : Prop := l.output.filter = l.clamp given

theorem Settled.withMinOverride (h : l.Settled f) (none : l.minOverride? = none) (m : Filter) :
    (l.withMinOverride m).Settled f := by
  have clamped : (l.withMinOverride m).output.filter =
      { l with minOverride? := some m }.clamp l.output.filter := rfl
  rw [Settled, clamped, h, clamp_minOverride none]
  rfl

theorem Settled.withMaxOverride (h : l.Settled f) (none : l.maxOverride? = none) (M : Filter) :
    (l.withMaxOverride M).Settled f := by
  have clamped : (l.withMaxOverride M).output.filter =
      { l with maxOverride? := some M }.clamp l.output.filter := rfl
  rw [Settled, clamped, h, clamp_maxOverride none]
  rfl

/-- Every setting leaves the filter where the overrides hold it. -/
theorem configure_clamped (h : l.clamp l.output.filter = l.output.filter) (s : Setting) :
    (l.configure s).clamp (l.configure s).output.filter = (l.configure s).output.filter := by
  cases s with
  | output destination f => exact clamp_clamp l f
  | minOverride m => exact clamp_clamp { l with minOverride? := some m } l.output.filter
  | maxOverride M => exact clamp_clamp { l with maxOverride? := some M } l.output.filter
  | processName name => exact h

theorem build_clamped (settings : List Setting) :
    (build settings).clamp (build settings).output.filter = (build settings).output.filter := by
  induction settings using List.reverseRecOn with
  | nil => rfl
  | append_singleton settings s ih =>
    rw [build_append]
    exact configure_clamped ih s

theorem configure_overrides (l : Logger) (s : Setting) :
    (l.configure s).minOverride? = s.minOverride?.or l.minOverride? ∧
      (l.configure s).maxOverride? = s.maxOverride?.or l.maxOverride? := by
  cases s <;> exact ⟨rfl, rfl⟩

/-- The last override of each kind is the one that is kept. -/
theorem build_overrides (settings : List Setting) :
    (build settings).minOverride? = lastGiven? Setting.minOverride? settings ∧
      (build settings).maxOverride? = lastGiven? Setting.maxOverride? settings := by
  induction settings using List.reverseRecOn with
  | nil => exact ⟨rfl, rfl⟩
  | append_singleton settings s ih =>
    obtain ⟨min, max⟩ := configure_overrides (build settings) s
    rw [build_append, min, max, lastGiven?_append, lastGiven?_append, ih.1, ih.2]
    exact ⟨rfl, rfl⟩

/-- As long as no override is replaced, it does not matter when it came. -/
theorem build_settled (settings : List Setting)
    (min : (settings.filterMap Setting.minOverride?).length ≤ 1)
    (max : (settings.filterMap Setting.maxOverride?).length ≤ 1) :
    (build settings).Settled (filterGiven settings) := by
  induction settings using List.reverseRecOn with
  | nil => rfl
  | append_singleton settings s ih =>
    have before := ih (once_of_append min) (once_of_append max)
    rw [build_append, filterGiven, lastGiven?_append]
    cases s with
    | output destination f => rfl
    | minOverride m =>
      have none := (build_overrides settings).1.trans (lastGiven?_eq_none min rfl)
      exact before.withMinOverride none m
    | maxOverride M =>
      have none := (build_overrides settings).2.trans (lastGiven?_eq_none max rfl)
      exact before.withMaxOverride none M
    | processName name => exact before

end Logger

/-- **The overrides clamp the filter in any order.** A built logger keeps the last override of each
kind. Its filter is not above the minimum override, and not below the maximum override or the minimum
override, whichever is less. If neither kind is set twice, the filter is that of the last output,
raised to the maximum override and then lowered to the minimum override. -/
theorem overrides_clamp (settings : List Setting) :
    let l := Logger.build settings
    (∀ m, l.minOverride? = some m → l.output.filter ≤ m) ∧
    (∀ M, l.maxOverride? = some M → l.minOverride?.elim M (min M) ≤ l.output.filter) ∧
    l.minOverride? = lastGiven? Setting.minOverride? settings ∧
    l.maxOverride? = lastGiven? Setting.maxOverride? settings ∧
    ((settings.filterMap Setting.minOverride?).length ≤ 1 →
      (settings.filterMap Setting.maxOverride?).length ≤ 1 →
      l.output.filter = (filterGiven settings).within (lastGiven? Setting.maxOverride? settings)
        (lastGiven? Setting.minOverride? settings)) := by
  intro l
  obtain ⟨min, max⟩ := Logger.build_overrides settings
  have clamped : l.clamp l.output.filter = l.output.filter := Logger.build_clamped settings
  refine ⟨?_, ?_, min, max, ?_⟩
  · intro m hm
    rw [← clamped]
    exact Logger.clamp_le hm _
  · intro M hM
    rw [← clamped]
    exact Logger.le_clamp hM _
  · intro once_min once_max
    rw [Logger.build_settled settings once_min once_max, Logger.clamp_eq, min, max]

/-- The minimum comes before the maximum, which is above it, and a name and an output come last. -/
def lateOutput : List Setting :=
  [.output .standard (.upTo .debug), .minOverride (.upTo .warn), .maxOverride (.upTo .info),
    .processName "p", .output (.buffer .unlimited) .off]

theorem overrides_clamp_late_output :
    (lateOutput.filterMap Setting.minOverride?).length ≤ 1 ∧
      (lateOutput.filterMap Setting.maxOverride?).length ≤ 1 ∧
      (Logger.build lateOutput).minOverride? = some (.upTo .warn) ∧
      (Logger.build lateOutput).output.filter ≤ .upTo .warn ∧
      (Logger.build lateOutput).output.filter =
        Filter.within .off (some (.upTo .info)) (some (.upTo .warn)) := by
  obtain ⟨below, -, -, -, closed⟩ := overrides_clamp lateOutput
  have min : (Logger.build lateOutput).minOverride? = some (.upTo .warn) := by decide
  exact ⟨by decide, by decide, min, below _ min, closed (by decide) (by decide)⟩

end TracedMath.Log
