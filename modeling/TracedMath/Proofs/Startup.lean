import Mathlib.Data.List.Forall2
import TracedMath.Proofs.Emission
import TracedMath.Proofs.Installation

namespace TracedMath

theorem ofUtf8?_eq_some_iff {bytes : List UInt8} {s : String} :
    ofUtf8? bytes = some s ↔ utf8 s = bytes := by
  have encoded : s.toByteArray.data = (utf8 s).toArray := by
    rw [← String.utf8Encode_toList, List.utf8Encode, List.data_toByteArray]
    rfl
  have same : utf8 s = bytes ↔ s.toByteArray = ⟨bytes.toArray⟩ := by
    rw [ByteArray.ext_iff, encoded]
    exact ⟨congrArg List.toArray, List.toArray_inj⟩
  rw [same, ofUtf8?, String.fromUTF8?]
  constructor
  · intro read
    split at read
    · rw [← Option.some.inj read]
      rfl
    · cases read
  · intro bytes
    rw [← bytes, dif_pos s.isValidUTF8]
    rfl

namespace Log

/-- The same character, or the two cases of one ASCII letter. -/
def SameLetter (c d : Char) : Prop :=
  c = d ∨ c.isUpper ∧ d.toNat = c.toNat + 32 ∨ d.isUpper ∧ c.toNat = d.toNat + 32

theorem toNat_toUpper (c : Char) :
    c.toUpper.toNat = if 97 ≤ c.toNat ∧ c.toNat ≤ 122 then c.toNat - 32 else c.toNat := by
  by_cases lower : 'a'.val ≤ c.val ∧ c.val ≤ 'z'.val
  · have bounds : 97 ≤ c.toNat ∧ c.toNat ≤ 122 := lower
    have sum : (c.val + ('A'.val - 'a'.val)).toNat = c.toNat - 32 := by
      rw [UInt32.toNat_add, Char.toNat_val]
      have : ('A'.val - 'a'.val).toNat = 4294967264 := rfl
      omega
    have upper : c.toUpper = _ := dif_pos lower
    rw [upper, if_pos bounds]
    exact sum
  · have bounds : ¬(97 ≤ c.toNat ∧ c.toNat ≤ 122) := lower
    have upper : c.toUpper = c := dif_neg lower
    rw [upper, if_neg bounds]

theorem sameLetter_iff (c d : Char) : SameLetter c d ↔ c.toUpper = d.toUpper := by
  have upper (e : Char) : e.isUpper ↔ 65 ≤ e.toNat ∧ e.toNat ≤ 90 := by
    have range : e.isUpper = decide ('A'.val ≤ e.val ∧ e.val ≤ 'Z'.val) := rfl
    rw [range, decide_eq_true_eq]
    exact Iff.rfl
  rw [SameLetter, ← Char.toNat_inj, ← Char.toNat_inj, toNat_toUpper, toNat_toUpper, upper, upper]
  split <;> split <;> omega

theorem sameLetters_iff (cs ds : List Char) :
    List.Forall₂ SameLetter cs ds ↔ cs.map Char.toUpper = ds.map Char.toUpper := by
  have letters : SameLetter = fun c d => c.toUpper = d.toUpper := by
    funext c d
    exact propext (sameLetter_iff c d)
  rw [letters, ← List.forall₂_eq_eq_eq, List.forall₂_map_left_iff, List.forall₂_map_right_iff]

namespace Filter

/-- The text is the name of the filter, but for the case of its ASCII letters. -/
def Named (f : Filter) (s : String) : Prop :=
  List.Forall₂ SameLetter f.upperName.toList s.toList

theorem named_iff (f : Filter) (s : String) :
    f.Named s ↔ f.upperName.toList = s.toList.map Char.toUpper := by
  have upper : ∀ f : Filter, f.upperName.toList.map Char.toUpper = f.upperName.toList := by decide
  rw [Named, sameLetters_iff, upper]

/-- No two filters go by one name. -/
theorem Named.unique {f g : Filter} {s : String} (hf : f.Named s) (hg : g.Named s) : f = g := by
  have apart : ∀ f g : Filter, f.upperName = g.upperName → f = g := by decide
  rw [named_iff] at hf hg
  exact apart f g (String.toList_inj.mp (hf.trans hg.symm))

theorem named_of_found {s : String} {f : Filter} (found : ofName? s = some f) : f.Named s := by
  have same := List.find?_some (p := fun f : Filter => _ == _) found
  exact (named_iff f s).mpr (beq_iff_eq.mp same)

theorem ofName?_eq_none_iff {s : String} : ofName? s = none ↔ ∀ f : Filter, ¬ f.Named s := by
  simp [ofName?, named_iff, List.find?_eq_none, mem_all]

theorem ofName?_eq_some_iff {s : String} {f : Filter} : ofName? s = some f ↔ f.Named s := by
  constructor
  · exact named_of_found
  · intro named
    cases found : ofName? s with
    | none => exact absurd named (ofName?_eq_none_iff.mp found f)
    | some g => rw [(named_of_found found).unique named]

end Filter

/-- What a variable asks for: nothing if it is unset or holds no text, a level by its name, and any other
text is no request at all. -/
inductive Asks : Option (List UInt8) → LevelRequest → Prop
  | unset : Asks none .unset
  | unreadable {bytes : List UInt8} (h : ∀ s, utf8 s ≠ bytes) : Asks (some bytes) .unset
  | level {s : String} {f : Filter} (h : f.Named s) : Asks (some (utf8 s)) (.level f)
  | invalid {s : String} (h : ∀ f : Filter, ¬ f.Named s) : Asks (some (utf8 s)) (.invalid s)

theorem ofVariable_of_asks {value? : Option (List UInt8)} {request : LevelRequest}
    (h : Asks value? request) : LevelRequest.ofVariable value? = request := by
  cases h with
  | unset => rfl
  | @unreadable bytes h =>
    have none : ofUtf8? bytes = none := by
      rw [Option.eq_none_iff_forall_ne_some]
      intro s read
      exact h s (ofUtf8?_eq_some_iff.mp read)
    simp [LevelRequest.ofVariable, none]
  | level named =>
    simp [LevelRequest.ofVariable, ofUtf8?_eq_some_iff.mpr rfl, Filter.ofName?_eq_some_iff.mpr named]
  | invalid none =>
    simp [LevelRequest.ofVariable, ofUtf8?_eq_some_iff.mpr rfl, Filter.ofName?_eq_none_iff.mpr none]

theorem asks_ofVariable (value? : Option (List UInt8)) :
    Asks value? (LevelRequest.ofVariable value?) := by
  cases value? with
  | none => exact .unset
  | some bytes =>
    by_cases text : ∃ s, utf8 s = bytes
    · obtain ⟨s, rfl⟩ := text
      by_cases level : ∃ f : Filter, f.Named s
      · obtain ⟨f, named⟩ := level
        rw [ofVariable_of_asks (.level named)]
        exact .level named
      · have none : ∀ f : Filter, ¬ f.Named s := not_exists.mp level
        rw [ofVariable_of_asks (.invalid none)]
        exact .invalid none
    · have unreadable : ∀ s, utf8 s ≠ bytes := not_exists.mp text
      rw [ofVariable_of_asks (.unreadable unreadable)]
      exact .unreadable unreadable

theorem asks_iff {value? : Option (List UInt8)} {request : LevelRequest} :
    Asks value? request ↔ request = LevelRequest.ofVariable value? := by
  constructor
  · intro asks
    exact (ofVariable_of_asks asks).symm
  · rintro rfl
    exact asks_ofVariable value?

/-- The filter of a logger that is installed on request. -/
def LevelRequest.filter : LevelRequest → Filter
  | level f => f
  | _ => .upTo .info

/-- What there is to complain of in a request. -/
def LevelRequest.complaints : LevelRequest → List Record
  | invalid s => [invalidRecord s]
  | _ => []

namespace Facade

variable {f : Facade} {l : Logger}

theorem init_of_vacant (h : f.logger? = none) (request : LevelRequest) :
    f.init request =
      { f with
        logger? := some request.logger
        maxLevel := request.logger.levelNeeded : Facade }.emitAll request.complaints := by
  unfold Facade.init
  rw [install_of_vacant h]
  cases request <;> rfl

theorem init_of_refused (h : f.logger? = some l) (request : LevelRequest) :
    f.init request = f.emitAll (refusedRecord :: request.complaints) := by
  unfold Facade.init
  rw [install_of_installed h]
  cases request <;> rfl

/-- A logger has been installed, on standard error and without a process name, and has written what
there is to complain of. -/
structure Installs (f : Facade) (request : LevelRequest) (after : Facade) : Prop where
  logger : ∃ l, after.logger? = some l ∧ l.output = ⟨.stream ⟨2⟩, request.filter⟩ ∧
    l.processName? = none
  level : after.maxLevel = request.filter
  written : after.sinks =
    { f.sinks with
      streams.stderr := f.sinks.streams.stderr ++
        request.complaints.flatMap fun r => utf8 (r.text "") }

/-- The logger that is there has stayed, and has been handed first that a second one was refused and
then what there is to complain of. -/
structure Refuses (f : Facade) (l : Logger) (request : LevelRequest) (after : Facade) : Prop where
  logger : after.logger? = some l
  level : after.maxLevel = f.maxLevel
  quiet : f.panics (refusedRecord :: request.complaints) = false
  written : after.sinks =
    f.sinks.receive l.output.endpoint (l.lines (refusedRecord :: request.complaints))

theorem init_installs (h : f.logger? = none) (request : LevelRequest) :
    f.Installs request (f.init request) := by
  have output : request.logger.output = ⟨.stream ⟨2⟩, request.filter⟩ := by cases request <;> rfl
  have name : request.logger.processName? = none := by cases request <;> rfl
  have level : request.logger.levelNeeded = request.filter := by cases request <;> rfl
  have lines : request.logger.lines request.complaints =
      request.complaints.flatMap fun r => utf8 (r.text "") := by
    cases request with
    | unset | level => rfl
    | invalid s =>
      have admitted : (Filter.upTo .info).admits (invalidRecord s).level = true := rfl
      simp [Logger.lines, LevelRequest.complaints, output, LevelRequest.filter, admitted,
        Logger.line, name]
  have wide : request.logger.output.filter ≤ request.logger.levelNeeded := by
    rw [output, level]
  rw [init_of_vacant h, emitAll_of_installed rfl wide, lines, output, level]
  exact ⟨⟨_, rfl, output, name⟩, rfl, rfl⟩

theorem init_refuses (h : f.logger? = some l) (wide : l.output.filter ≤ f.maxLevel) (calm : f.Calm)
    (request : LevelRequest) : f.Refuses l request (f.init request) := by
  rw [init_of_refused h, emitAll_of_installed h wide]
  exact ⟨h, rfl, calm.panics _, rfl⟩

end Facade

end Log

namespace Host

theorem firstBuilt?_build {value? : Option (List UInt8)} {steps : List Step} {l : Log.Logger}
    (h : firstBuilt? value? steps = some l) : ∃ settings, l = Log.Logger.build settings := by
  induction steps generalizing value? with
  | nil => cases h
  | cons s rest ih =>
    rw [firstBuilt?, Option.or_eq_some_iff] at h
    rcases h with built | ⟨-, later⟩
    · cases s with
      | init =>
        cases built
        cases Log.LevelRequest.ofVariable value? with
        | level f => exact ⟨[.output .standard f], rfl⟩
        | unset | invalid => exact ⟨[], rfl⟩
      | enable settings =>
        cases built
        exact ⟨settings, rfl⟩
      | _ => cases built
    · exact ih later

/-- In a process the level of the facade never hides what the installed logger admits. -/
theorem run_wide (steps : List Step) {l : Log.Logger}
    (installed : (initial.run steps).context.log.logger? = some l) :
    l.output.filter ≤ (initial.run steps).context.log.maxLevel := by
  have holds := run_holds (h := initial) Log.Facade.initial_holds steps
  rw [Option.none_or] at holds
  have first := holds.logger.symm.trans installed
  have level := holds.level
  rw [first] at level
  obtain ⟨settings, rfl⟩ := firstBuilt?_build first
  rw [level]
  exact (Log.Logger.build_remembers settings).filter_le

/-- **A process is initialised from any environment.** Whatever a run has come to and whatever the
variable holds, a process without a logger comes by one on standard error with the level that the
variable names, or the standard one. A process that has a logger keeps it, with its level. What there
is to complain of is written through the logger that is installed then, as far as that logger's filter
admits it, and nothing else is written. -/
theorem init_from_any_environment (steps : List Step) (value? : Option (List UInt8)) :
    let h : Host := { initial.run steps with environment? := value? }
    ((Log.refusedRecord.level = .error ∧ Log.refusedRecord.message = "Logger already initialized") ∧
      ∀ s, (Log.invalidRecord s).level = .warn ∧
        (Log.invalidRecord s).message = "ignoring invalid ANSIMATH_LOG_LEVEL=" ++ Text.quoted s) ∧
    ∃ request log, (∀ other, Log.Asks value? other ↔ other = request) ∧
      h.step .init = (.nothing, h.withLog log) ∧
      (h.context.log.logger? = none → h.context.log.Installs request log) ∧
      ∀ l, h.context.log.logger? = some l → h.context.log.Calm →
        h.context.log.Refuses l request log := by
  intro h
  refine ⟨⟨⟨rfl, rfl⟩, fun s => ⟨rfl, rfl⟩⟩, Log.LevelRequest.ofVariable value?, _,
    fun other => Log.asks_iff, rfl, ?_, ?_⟩
  · intro vacant
    exact Log.Facade.init_installs vacant _
  · intro l installed calm
    exact Log.Facade.init_refuses installed (run_wide steps installed) calm _

/-- A logger that admits errors alone, on a buffer with room for a part of one line. -/
def scant : List Log.Setting :=
  [.processName "calc", .output (.buffer ⟨some 20, .fail⟩) (.upTo .error)]

/-- A level in mixed case, and a text that is no level because one of its letters is not an ASCII one:
the dotless i is not the small letter of the I in INFO. -/
theorem init_from_any_environment_mixed :
    let fresh : Host := { initial.run [] with environment? := some (utf8 "wArN") }
    let taken : Host := { initial.run [.enable scant] with environment? := some (utf8 "ınfo") }
    let l := Log.Logger.build scant
    fresh.context.log.logger? = none ∧
      fresh.context.log.Installs (.level (.upTo .warn)) (fresh.step .init).2.context.log ∧
      taken.context.log.logger? = some l ∧ taken.context.log.Calm ∧
      taken.context.log.Refuses l (.invalid "ınfo") (taken.step .init).2.context.log ∧
      (taken.step .init).2.context.log.sinks.buffer.text = utf8 "[calc@ansimath::plat" := by
  intro fresh taken l
  obtain ⟨-, asked, log, asks, step, installs, -⟩ :=
    init_from_any_environment [] (some (utf8 "wArN"))
  obtain ⟨-, other, after, others, again, -, refuses⟩ :=
    init_from_any_environment [.enable scant] (some (utf8 "ınfo"))
  have level : Log.Filter.Named (.upTo .warn) "wArN" := (Log.Filter.named_iff _ _).mpr (by decide)
  have none : ∀ f : Log.Filter, ¬ f.Named "ınfo" := Log.Filter.ofName?_eq_none_iff.mp (by decide)
  have calm : taken.context.log.Calm := by
    rintro l - - ⟨⟩
  obtain rfl := (asks _).mp (.level level)
  obtain rfl := (others _).mp (.invalid none)
  have refused := refuses l rfl calm
  have text : (taken.context.log.sinks.receive l.output.endpoint
      (l.lines [Log.refusedRecord, Log.invalidRecord "ınfo"])).buffer.text =
      utf8 "[calc@ansimath::plat" := by decide +kernel
  refine ⟨rfl, ?_, rfl, calm, ?_, ?_⟩
  · rw [step]
    exact installs rfl
  · rw [again]
    exact refused
  · rw [again]
    exact (congrArg (fun s => s.buffer.text) refused.written).trans text

end Host

end TracedMath
