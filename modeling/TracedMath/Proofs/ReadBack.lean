import Mathlib.Data.List.DropRight
import TracedMath.Proofs.Delivery

/-!
# The log can be read back

Nothing in a line is escaped, so a line is read from its separators in their order: the first at sign,
the first space after it, the first bracket after that. A line number is what digits stand after the
last colon before the space. `read?_body` and `readAll?_bodies` show that the reader finds what was
written, as long as no field holds the separator that ends it (`Plain`), and `log_reads_back` that two
such logs with the same text are the same.
-/

namespace TracedMath.Log

/-- What a line shows of a record and of the process that made it. -/
structure Entry where
  processName : String
  place : String
  line? : Option UInt32
  level : Level
  message : String
  deriving DecidableEq, Repr

namespace Entry

def ofRecord (processName : String) (r : Record) : Entry :=
  ⟨processName, r.place, r.line?, r.level, r.message⟩

/-- The place, with the line number if there is one. -/
def head (e : Entry) : List Char :=
  match e.line? with
  | none => e.place.toList
  | some n => e.place.toList ++ ':' :: Nat.toDigits 10 n.toNat

/-- The line without its end. -/
def body (e : Entry) : List Char :=
  '[' :: (e.processName.toList ++ '@' :: (e.head ++ ' ' :: (e.level.upperName.toList ++
    ']' :: ' ' :: e.message.toList)))

theorem toList_text (processName : String) (r : Record) :
    (r.text processName).toList = (ofRecord processName r).body ++ ['\n'] := by
  rw [Record.text, String.toList_join, Record.pieces, Record.lineMark, body, head, ofRecord]
  cases r.line? with
  | none => simp
  | some n => simp

/-- No field holds what the reader takes for its end. A place without a line number does not look as if
it had one. -/
structure Plain (e : Entry) : Prop where
  name_at : '@' ∉ e.processName.toList
  name_newline : '\n' ∉ e.processName.toList
  place_space : ' ' ∉ e.place.toList
  place_newline : '\n' ∉ e.place.toList
  place_numberless : e.line? = none → ∀ before digits : List Char, digits ≠ [] →
    (∀ d ∈ digits, d.isDigit) → e.place.toList ≠ before ++ ':' :: digits
  message_newline : '\n' ∉ e.message.toList

/-- What stands before the first `c`, and what stands after it. -/
def cut (c : Char) (text : List Char) : List Char × List Char :=
  (text.takeWhile (· != c), (text.dropWhile (· != c)).tail)

/-- Digits after a last colon are a line number. -/
def readHead (text : List Char) : String × Option UInt32 :=
  let digits := text.rtakeWhile Char.isDigit
  let before := text.rdropWhile Char.isDigit
  if digits ≠ [] ∧ before.getLast? = some ':' then
    (String.ofList before.dropLast, some (UInt32.ofNat (Nat.ofDigitChars 10 digits 0)))
  else (String.ofList text, none)

def readLevel? (name : List Char) : Option Level :=
  [.error, .warn, .info, .debug, .trace].find? fun l : Level => l.upperName.toList == name

def read? : List Char → Option Entry
  | '[' :: text =>
    let (name, text) := cut '@' text
    let (head, text) := cut ' ' text
    let (level, message) := cut ']' text
    let (place, line?) := readHead head
    (readLevel? level).map fun level =>
      ⟨String.ofList name, place, line?, level, String.ofList message.tail⟩
  | _ => none

/-- Nothing stands after the last newline. -/
def readAll? (text : List Char) : Option (List Entry) := (text.splitOn '\n').dropLast.mapM read?

theorem cut_append {c : Char} {before : List Char} (h : c ∉ before) (after : List Char) :
    cut c (before ++ c :: after) = (before, after) := by
  have others : ∀ d ∈ before, (d != c) = true := by
    intro d hd
    rw [bne_iff_ne]
    rintro rfl
    exact h hd
  rw [cut, List.takeWhile_append_of_pos others, List.dropWhile_append_of_pos others]
  simp

theorem readLevel?_upperName (l : Level) : readLevel? l.upperName.toList = some l := by
  cases l <;> decide +kernel

theorem not_mem_toDigits {c : Char} (h : c.isDigit = false) (n : Nat) : c ∉ Nat.toDigits 10 n := by
  intro mem
  rw [Nat.isDigit_of_mem_toDigits (by decide) (by decide) mem] at h
  cases h

/-- The digits at the end of a text, after something that is no digit. -/
theorem rtakeWhile_append (before : List Char) {digits : List Char} {c : Char}
    (stop : c.isDigit = false) (h : ∀ d ∈ digits, d.isDigit = true) :
    (before ++ c :: digits).rtakeWhile Char.isDigit = digits ∧
      (before ++ c :: digits).rdropWhile Char.isDigit = before ++ [c] := by
  have reversed : (before ++ c :: digits).reverse = digits.reverse ++ c :: before.reverse := by simp
  have all : ∀ d ∈ digits.reverse, d.isDigit = true := fun d hd => h d (List.mem_reverse.mp hd)
  unfold List.rtakeWhile List.rdropWhile
  rw [reversed, List.takeWhile_append_of_pos all, List.dropWhile_append_of_pos all]
  simp [stop]

theorem readHead_head {e : Entry} (h : e.Plain) : readHead e.head = (e.place, e.line?) := by
  unfold head
  cases number : e.line? with
  | none =>
    have unread : ¬(e.place.toList.rtakeWhile Char.isDigit ≠ [] ∧
        (e.place.toList.rdropWhile Char.isDigit).getLast? = some ':') := by
      rintro ⟨nonempty, colon⟩
      have place : e.place.toList =
          (e.place.toList.rdropWhile Char.isDigit).dropLast ++
            ':' :: e.place.toList.rtakeWhile Char.isDigit := by
        rw [List.append_cons, List.dropLast_append_getLast? _ colon,
          List.rdropWhile_append_rtakeWhile]
      exact h.place_numberless number _ _ nonempty (fun d hd => List.mem_rtakeWhile_imp hd) place
    rw [readHead, if_neg unread, String.ofList_toList]
  | some n =>
    have digits : ∀ d ∈ Nat.toDigits 10 n.toNat, d.isDigit = true :=
      fun d hd => Nat.isDigit_of_mem_toDigits (by decide) (by decide) hd
    have colon : ':'.isDigit = false := rfl
    obtain ⟨taken, left⟩ := rtakeWhile_append e.place.toList colon digits
    have read : Nat.toDigits 10 n.toNat ≠ [] ∧ (e.place.toList ++ [':']).getLast? = some ':' :=
      ⟨Nat.toDigits_ne_nil, List.getLast?_concat⟩
    simp only [readHead, taken, left]
    rw [if_pos read, List.dropLast_concat, String.ofList_toList, Nat.ofDigitChars_ten_toDigits,
      UInt32.ofNat_toNat]

theorem not_mem_head {e : Entry} {c : Char} (place : c ∉ e.place.toList) (colon : c ≠ ':')
    (digit : c.isDigit = false) : c ∉ e.head := by
  unfold head
  cases e.line? with
  | none => exact place
  | some n =>
    intro mem
    rcases List.mem_append.mp mem with mem | mem
    · exact place mem
    · rcases List.mem_cons.mp mem with mem | mem
      · exact colon mem
      · exact not_mem_toDigits digit _ mem

theorem read?_body {e : Entry} (h : e.Plain) : read? e.body = some e := by
  have space : ' ' ∉ e.head := not_mem_head h.place_space (by decide) rfl
  have bracket : ']' ∉ e.level.upperName.toList := by cases e.level <;> decide +kernel
  simp only [read?, body, cut_append h.name_at, cut_append space, cut_append bracket,
    readHead_head h, readLevel?_upperName]
  simp

theorem newline_not_mem_body {e : Entry} (name : '\n' ∉ e.processName.toList)
    (place : '\n' ∉ e.place.toList) (message : '\n' ∉ e.message.toList) : '\n' ∉ e.body := by
  have head : '\n' ∉ e.head := not_mem_head place (by decide) rfl
  have level : '\n' ∉ e.level.upperName.toList := by cases e.level <;> decide +kernel
  simp [body, name, head, level, message]

/-- Lines that hold no newline come apart again. -/
theorem splitOn_flatMap {bodies : List (List Char)} (h : ∀ b ∈ bodies, '\n' ∉ b) :
    (bodies.flatMap fun b => b ++ ['\n']).splitOn '\n' = bodies ++ [[]] := by
  induction bodies with
  | nil => rfl
  | cons b rest ih =>
    obtain ⟨first, others⟩ := List.forall_mem_cons.mp h
    rw [List.flatMap_cons, List.append_assoc, List.singleton_append,
      List.splitOn_append_cons_self_of_not_mem first, ih others]
    rfl

theorem mapM_read?_bodies {es : List Entry} (h : ∀ e ∈ es, e.Plain) :
    (es.map body).mapM read? = some es := by
  induction es with
  | nil => rfl
  | cons e rest ih =>
    obtain ⟨first, others⟩ := List.forall_mem_cons.mp h
    rw [List.map_cons, List.mapM_cons, read?_body first, ih others]
    rfl

theorem readAll?_bodies {es : List Entry} (h : ∀ e ∈ es, e.Plain) :
    readAll? (es.flatMap fun e => e.body ++ ['\n']) = some es := by
  have lines : (es.flatMap fun e => e.body ++ ['\n']) =
      (es.map body).flatMap fun b => b ++ ['\n'] := by rw [List.flatMap_map]
  have single : ∀ b ∈ es.map body, '\n' ∉ b := by
    intro b hb
    obtain ⟨e, he, rfl⟩ := List.mem_map.mp hb
    have plain := h e he
    exact newline_not_mem_body plain.name_newline plain.place_newline plain.message_newline
  rw [readAll?, lines, splitOn_flatMap single, List.dropLast_concat, mapM_read?_bodies h]

end Entry

/-- The text that a logger writes for a record, wherever it goes. -/
def Logger.written (l : Logger) (r : Record) : List UInt8 :=
  let s := (l.log r .empty).2
  s.buffer.text ++ s.streams.stdout ++ s.streams.stderr

/-- What the logger makes a line of. -/
def Logger.entry (l : Logger) (r : Record) : Entry := .ofRecord (l.processName?.getD "") r

/-- The filter admits the record, the line has a place to go to, and can be told apart there. -/
structure Logger.Legible (l : Logger) (r : Record) : Prop where
  enabled : l.enabled r.level = true
  accepts : Sinks.empty.accepts l.output.endpoint = true
  plain : (l.entry r).Plain

theorem Logger.written_eq {l : Logger} {r : Record} (h : l.Legible r) :
    l.written r = utf8 (l.line r) := by
  have accepts := h.accepts
  rw [written, log_sinks, if_pos h.enabled]
  cases endpoint : l.output.endpoint with
  | buffer => simp [Sinks.receive, Sinks.empty, Buffer.write, Capacity.unlimited]
  | stream writer =>
    rw [endpoint, Sinks.accepts, Bool.or_eq_true, beq_iff_eq, beq_iff_eq] at accepts
    rcases accepts with out | err
    · simp [Sinks.receive, Sinks.empty, out]
    · simp [Sinks.receive, Sinks.empty, err]

theorem Logger.written_flatMap {records : List (Logger × Record)}
    (h : ∀ p ∈ records, p.1.Legible p.2) :
    records.flatMap (fun p => p.1.written p.2) =
      utf8 (String.ofList ((records.map fun p => p.1.entry p.2).flatMap fun e => e.body ++ ['\n'])) := by
  induction records with
  | nil => rfl
  | cons p rest ih =>
    obtain ⟨first, others⟩ := List.forall_mem_cons.mp h
    have line : p.1.line p.2 = String.ofList ((p.1.entry p.2).body ++ ['\n']) := by
      rw [Logger.line, Logger.entry, ← Entry.toList_text, String.ofList_toList]
    rw [List.flatMap_cons, ih others, Logger.written_eq first, line, ← utf8_append,
      ← String.ofList_append, List.map_cons, List.flatMap_cons]

/-- **The log can be read back.** If two sequences of records, each written by a logger of its own, are
plain and leave the same text, they are as long as each other and agree, one by one, on the process
name, the place, the line number, the level and the message. -/
theorem log_reads_back (xs ys : List (Logger × Record)) (legible_xs : ∀ p ∈ xs, p.1.Legible p.2)
    (legible_ys : ∀ p ∈ ys, p.1.Legible p.2)
    (same : xs.flatMap (fun p => p.1.written p.2) = ys.flatMap (fun p => p.1.written p.2)) :
    xs.map (fun p => p.1.entry p.2) = ys.map (fun p => p.1.entry p.2) := by
  have plain {zs : List (Logger × Record)} (legible : ∀ p ∈ zs, p.1.Legible p.2) :
      ∀ e ∈ zs.map fun p => p.1.entry p.2, e.Plain := by
    intro e he
    obtain ⟨p, hp, rfl⟩ := List.mem_map.mp he
    exact (legible p hp).plain
  rw [Logger.written_flatMap legible_xs, Logger.written_flatMap legible_ys] at same
  have text := String.ofList_injective (utf8_injective same)
  have read_xs := Entry.readAll?_bodies (plain legible_xs)
  have read_ys := Entry.readAll?_bodies (plain legible_ys)
  rw [text, read_ys] at read_xs
  exact (Option.some.inj read_xs).symm

/-- A logger without a process name, on the buffer. -/
def nameless : Logger := Logger.build [.output (.buffer .unlimited) (.upTo .trace)]

/-- A logger on standard error whose process name is empty. -/
def emptyNamed : Logger := Logger.build [.processName "", .output .standard (.upTo .trace)]

/-- The place comes from a module path on one side and from a target on the other. It ends like a line
number where there is one, and holds a double colon where there is none. -/
def fromModule : List (Logger × Record) :=
  [(nameless, ⟨.info, "t", some "m:1", some 20, "] x"⟩), (nameless, ⟨.trace, "t", some "a::b", none, "@"⟩)]

def fromTarget : List (Logger × Record) :=
  [(emptyNamed, ⟨.info, "m:1", none, some 20, "] x"⟩), (emptyNamed, ⟨.trace, "a::b", none, none, "@"⟩)]

theorem log_reads_back_unnamed :
    (∀ p ∈ fromModule, p.1.Legible p.2) ∧ (∀ p ∈ fromTarget, p.1.Legible p.2) ∧
      fromModule.flatMap (fun p => p.1.written p.2) = fromTarget.flatMap (fun p => p.1.written p.2) ∧
      fromModule.map (fun p => p.1.entry p.2) = fromTarget.map (fun p => p.1.entry p.2) := by
  have numbered : (⟨"", "m:1", some 20, .info, "] x"⟩ : Entry).Plain :=
    ⟨by decide, by decide, by decide, by decide, nofun, by decide⟩
  have numberless : (⟨"", "a::b", none, .trace, "@"⟩ : Entry).Plain := by
    refine ⟨by decide, by decide, by decide, by decide, ?_, by decide⟩
    intro _ before digits nonempty all same
    have last : "a::b".toList.getLast? = some 'b' := by decide
    rw [same, List.getLast?_append_cons, List.getLast?_cons_of_ne_nil nonempty] at last
    exact Bool.noConfusion (all 'b' (List.mem_of_getLast? last))
  have legible_module : ∀ p ∈ fromModule, p.1.Legible p.2 := by
    intro p hp
    rcases List.mem_pair.mp hp with rfl | rfl
    · exact ⟨by decide, by decide, numbered⟩
    · exact ⟨by decide, by decide, numberless⟩
  have legible_target : ∀ p ∈ fromTarget, p.1.Legible p.2 := by
    intro p hp
    rcases List.mem_pair.mp hp with rfl | rfl
    · exact ⟨by decide, by decide, numbered⟩
    · exact ⟨by decide, by decide, numberless⟩
  have same : fromModule.flatMap (fun p => p.1.written p.2) =
      fromTarget.flatMap (fun p => p.1.written p.2) := by decide +kernel
  exact ⟨legible_module, legible_target, same,
    log_reads_back fromModule fromTarget legible_module legible_target same⟩

end TracedMath.Log
