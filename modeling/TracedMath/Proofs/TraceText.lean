import TracedMath.Proofs.EntryPoints
import TracedMath.Proofs.Ceiling
import TracedMath.Proofs.PlainText

namespace TracedMath

open Binary
open Log (Note)

variable {F : Format}

namespace Log.Facade

/-- A trace record is handed to the endpoint of the logger `l`. -/
structure Traces (f : Facade) (l : Logger) : Prop where
  logger : f.logger? = some l
  passes : f.passes .trace = true
  enabled : l.enabled .trace = true

variable {f : Facade} {l : Logger}

theorem Traces.emitAll (h : f.Traces l) (notes : List Note) :
    f.emitAll (notes.map Note.record) =
      { f with
        sinks := f.sinks.receive l.output.endpoint (notes.flatMap fun n => utf8 (l.line n.record)) } := by
  have wide : l.output.filter ≤ f.maxLevel := by
    rw [(Filter.admits_trace_iff _).mp h.passes]
    cases l.output.filter with
    | off => decide
    | upTo level => cases level <;> decide
  have enabled (n : Note) : l.output.filter.admits n.record.level = true := h.enabled
  rw [emitAll_of_installed h.logger wide, Logger.lines]
  simp [List.filter_map, List.flatMap_map, Function.comp_def, enabled]

end Log.Facade

/-- The ceiling of a number is a number. -/
theorem returned_isNaN (mode : Mode) {x : Binary F} (number : x.isNaN = false) :
    (EntryPoint.returned mode x).isNaN = false := by
  rw [EntryPoint.returned, ceilWith_of_not_isNaN number]
  exact (isNaN_bump x).trans number

namespace EntryPoint

/-- A call adds two lines to the log, as far as there is room, and makes no calm endpoint panic. The
first line shows the argument, the second the argument again and the result. -/
structure Reports (p : EntryPoint) (l : Log.Logger) (x : Binary F) (c : Context)
    (call : Binary F × Context) : Prop where
  lines : ∃ (argument result : String) (e : ErrorCode), Shown argument x ∧ Shown result call.1 ∧
    let opening := p.site.record .trace (p.name ++ "(" ++ argument ++ ")")
    let closing := p.site.record .trace (p.name ++ "(" ++ argument ++ ") = " ++ result ++
      " (" ++ toString e.code.toInt ++ ", " ++ e.describe ++ ")")
    p.label x = opening.message ∧
      call.2.log = { c.log with
        sinks := c.log.sinks.receive l.output.endpoint
          (utf8 (l.line opening) ++ utf8 (l.line closing)) } ∧
      (c.log.Calm → c.log.panics [opening, closing] = false)

theorem callCeil_reports (p : EntryPoint) (mode : Mode) {l : Log.Logger} {c : Context}
    (traces : c.log.Traces l) {x : Binary F} (number : x.isNaN = false) :
    p.Reports l x c (p.callCeil ⟨mode, true⟩ x c) where
  lines := by
    have log := p.callCeil_log ⟨mode, true⟩ x c
    rw [traces.emitAll] at log
    refine ⟨x.text, (returned mode x).text, raised (x.ceilWith mode), text_shown number, ?_, rfl, ?_,
      fun calm => calm.panics _⟩
    · rw [callCeil_value]
      exact text_shown (returned_isNaN mode number)
    · have joined : p.label x ++ " = " = p.name ++ "(" ++ x.text ++ ") = " := by
        rw [label, String.append_assoc]
        rfl
      rw [log, notes, if_pos rfl, bracket, joined]
      simp [Note.record, label]

theorem label_injective (p : EntryPoint) {x y : Binary F} (h : p.label x = p.label y) :
    x = y ∨ x.isNaN ∧ y.isNaN := by
  apply text_injective
  rw [label, label, String.append_left_inj, String.append_right_inj] at h
  exact h

end EntryPoint

/-- **Trace lines tell their numbers.** In a build that traces, where trace records are written, the
lines of a ceiling call show its argument and its result, unless the argument is NaN. Two calls have the
same opening message only if their arguments are the same word, or both NaN. -/
theorem trace_lines_tell :
    (∀ (mode : Mode) (c : Context) (l : Log.Logger), c.log.Traces l →
      (∀ x : Binary64, x.isNaN = false →
        EntryPoint.ceil.Reports l x c (ceil ⟨mode, true⟩ x c)) ∧
      ∀ x : Binary32, x.isNaN = false →
        EntryPoint.ceilf.Reports l x c (ceilf ⟨mode, true⟩ x c)) ∧
    (∀ x y : Binary64, EntryPoint.ceil.label x = EntryPoint.ceil.label y →
      x = y ∨ x.isNaN ∧ y.isNaN) ∧
    ∀ x y : Binary32, EntryPoint.ceilf.label x = EntryPoint.ceilf.label y →
      x = y ∨ x.isNaN ∧ y.isNaN := by
  refine ⟨fun mode c l traces => ⟨fun x number => ?_, fun x number => ?_⟩, fun x y h => ?_,
    fun x y h => ?_⟩
  · exact EntryPoint.ceil.callCeil_reports mode traces number
  · exact EntryPoint.ceilf.callCeil_reports mode traces number
  · exact EntryPoint.ceil.label_injective h
  · exact EntryPoint.ceilf.label_injective h

/-- A logger that writes trace records to standard output. -/
def chatty : Log.Logger := Log.Logger.build [.processName "p", .output (.stream ⟨1⟩) (.upTo .trace)]

/-- The double next to a tenth, whose ceiling is one; an infinite single; and two NaNs, which look the
same. -/
theorem trace_lines_tell_of_tenth :
    let c : Context := ⟨.domain, some chatty, .upTo .trace, .empty⟩
    let tenth : Binary64 := ofBits 0x3fb999999999999a
    c.log.Traces chatty ∧ tenth.isNaN = false ∧
      EntryPoint.ceil.Reports chatty tenth c (ceil ⟨.ieee, true⟩ tenth c) ∧
      (infinity true : Binary32).isNaN = false ∧
      EntryPoint.ceilf.Reports chatty (infinity true) c (ceilf ⟨.ieee, true⟩ (infinity true) c) ∧
      EntryPoint.ceil.label (.nan : Binary64) = EntryPoint.ceil.label (-.nan : Binary64) ∧
      ((.nan : Binary64) = -.nan ∨ (.nan : Binary64).isNaN ∧ (-.nan : Binary64).isNaN) := by
  intro c tenth
  have traces : c.log.Traces chatty := ⟨rfl, rfl, rfl⟩
  have number : tenth.isNaN = false := by decide
  have infinite : (infinity true : Binary32).isNaN = false := by decide
  have same : EntryPoint.ceil.label (.nan : Binary64) = EntryPoint.ceil.label (-.nan : Binary64) := by
    decide +kernel
  obtain ⟨doubles, singles⟩ := trace_lines_tell.1 .ieee c chatty traces
  exact ⟨traces, number, doubles tenth number, infinite, singles _ infinite, same,
    trace_lines_tell.2.1 _ _ same⟩

end TracedMath
