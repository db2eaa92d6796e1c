import TracedMath.Text.Quoted

/-!
# Quoted text reads back

Between its marks a quoted text is made of characters that stand for themselves and of whole escapes
(`Spells`), which is all that a reader from the left needs (`unquote?_quoted`). Nothing in it moves the
reader of a log to another line (`not_breaksLine_of_mem_quoted`).
-/

namespace TracedMath.Text

/-- The number that lower-case hexadecimal digits stand for, after what has been read before. -/
def hexNumber? (before : Nat) (digits : List Char) : Option Nat :=
  digits.foldlM (fun n c => (16 * n + ·) <$> hexValue? c) before

/-- A text between marks, and the text that it stands for. There is no mark in it but within an escape,
and no escape without its end. -/
inductive Spells : List Char → List Char → Prop
  | nil : Spells [] []
  | plain {c : Char} {text meaning : List Char} (mark : c ≠ '"') (backslash : c ≠ '\\')
      (rest : Spells text meaning) : Spells (c :: text) (c :: meaning)
  | letter {c letter : Char} {text meaning : List Char} (known : (c, letter) ∈ letters)
      (rest : Spells text meaning) : Spells ('\\' :: letter :: text) (c :: meaning)
  | code {c : Char} {digits text meaning : List Char} (nonempty : digits ≠ [])
      (number : hexNumber? 0 digits = some c.toNat) (rest : Spells text meaning) :
      Spells ('\\' :: 'u' :: '\x7b' :: digits ++ '\x7d' :: text) (c :: meaning)

theorem hexValue?_digitChar {n : Nat} (h : n < 16) : hexValue? n.digitChar = some n := by
  have all : ∀ n < 16, hexValue? n.digitChar = some n := by decide
  exact all n h

theorem hexNumber?_toDigits (n : Nat) : hexNumber? 0 (Nat.toDigits 16 n) = some n := by
  induction n using Nat.strongRecOn with
  | ind n ih =>
    rcases Nat.lt_or_ge n 16 with small | large
    · rw [Nat.toDigits_of_lt_base small]
      simp [hexNumber?, hexValue?_digitChar small]
    · have quotient := ih (n / 16) (by omega)
      have last : n % 16 < 16 := by omega
      rw [Nat.toDigits_of_base_le (by decide) large]
      simp only [hexNumber?] at quotient ⊢
      rw [List.foldlM_append, quotient]
      simp [hexValue?_digitChar last, Nat.div_add_mod]

theorem letterOf?_eq_some {c letter : Char} (h : letterOf? c = some letter) :
    (c, letter) ∈ letters := by
  obtain ⟨before, after, same, -⟩ := List.lookup_eq_some_iff.mp h
  rw [same]
  exact List.mem_append_right _ List.mem_cons_self

theorem spells_escape (c : Char) {text meaning : List Char} (rest : Spells text meaning) :
    Spells (escape c ++ text) (c :: meaning) := by
  unfold escape
  cases short : letterOf? c with
  | some letter => exact .letter (letterOf?_eq_some short) rest
  | none =>
    by_cases coded : needsCode c
    · simp only [coded, if_true, List.append_assoc, List.cons_append, List.nil_append]
      exact .code Nat.toDigits_ne_nil (hexNumber?_toDigits c.toNat) rest
    · simp only [coded, Bool.false_eq_true, if_false, List.cons_append, List.nil_append]
      refine .plain ?_ ?_ rest
      · rintro rfl
        cases short
      · rintro rfl
        cases short

theorem spells_flatMap_escape (s : List Char) : Spells (s.flatMap escape) s := by
  induction s with
  | nil => exact .nil
  | cons c rest ih => exact spells_escape c ih

/-- Two marks, and between them what spells the meaning. -/
def Literal (text meaning : String) : Prop :=
  ∃ inner, text.toList = '"' :: inner ++ ['"'] ∧ Spells inner meaning.toList

theorem quoted_literal (s : String) : Literal (quoted s) s :=
  ⟨_, String.toList_ofList, spells_flatMap_escape s.toList⟩

theorem charOfCode?_toNat (c : Char) : charOfCode? c.toNat = some c := by
  have valid : c.toNat.isValidChar := c.valid
  rw [charOfCode?, if_pos valid, Char.ofNat_toNat]

theorem unescape?_digits {digits : List Char} {before n : Nat} (h : hexNumber? before digits = some n)
    (rest : List Char) :
    unescape? (.digits before) (digits ++ '\x7d' :: rest) = unescape? (.digits n) ('\x7d' :: rest) := by
  induction digits generalizing before with
  | nil =>
    rw [← Option.some.inj h]
    rfl
  | cons c digits ih =>
    cases value : hexValue? c with
    | none => simp [hexNumber?, value] at h
    | some v =>
      -- The bracket that ends the number is no digit, so a digit goes on with it.
      have inside : c ≠ '\x7d' := by
        rintro rfl
        cases value
      have later : hexNumber? (16 * before + v) digits = some n := by
        simpa [hexNumber?, value] using h
      rw [List.cons_append, unescape?, if_neg inside, value]
      exact ih later

theorem unescape?_of_spells {text meaning : List Char} (h : Spells text meaning) :
    unescape? .outside text = some meaning := by
  induction h with
  | nil => rfl
  | plain mark backslash rest ih => simp [unescape?, mark, backslash, ih]
  | @letter c letter text meaning known rest ih =>
    have apart : ∀ p ∈ letters, p.2 ≠ 'u' ∧ charOf? p.2 = some p.1 := by decide
    obtain ⟨short, char⟩ := apart _ known
    simp [unescape?, short, char, ih]
  | @code c digits text meaning nonempty number rest ih =>
    have digits := unescape?_digits number text
    simp [unescape?, digits, charOfCode?_toNat, ih]

theorem unquote?_of_literal {text meaning : String} (h : Literal text meaning) :
    unquote? text.toList = some meaning.toList := by
  obtain ⟨inner, marks, spells⟩ := h
  rw [marks, List.cons_append]
  simp [unquote?, unescape?_of_spells spells]

theorem unquote?_quoted (s : String) : unquote? (quoted s).toList = some s.toList :=
  unquote?_of_literal (quoted_literal s)

theorem quoted_injective {s t : String} (h : quoted s = quoted t) : s = t := by
  have read := unquote?_quoted s
  rw [h, unquote?_quoted] at read
  exact String.toList_inj.mp (Option.some.inj read).symm

/-- Controls, and the separators of lines and of paragraphs. -/
def breaksLine (c : Char) : Bool :=
  c.toNat < 0x20 || (0x7f ≤ c.toNat && c.toNat < 0xa0) || c.toNat == 0x2028 || c.toNat == 0x2029

theorem CharSet.contains_of_mem {s : CharSet} {r : CodeRange} (h : r ∈ s) {c : Char}
    (first : r.first ≤ c.toNat) (last : c.toNat ≤ r.last) : s.contains c := by
  rw [CharSet.contains, List.any_eq_true]
  exact ⟨r, h, by simp [CodeRange.contains, first, last]⟩

theorem needsCode_of_breaksLine {c : Char} (h : breaksLine c) : needsCode c := by
  have upper : (⟨0x7f, 0xa0⟩ : CodeRange) ∈ unprintable := by decide
  have separators : (⟨0x2028, 0x202f⟩ : CodeRange) ∈ unprintable := by decide +kernel
  simp only [breaksLine, Bool.or_eq_true, Bool.and_eq_true, decide_eq_true_eq, beq_iff_eq] at h
  rw [needsCode, Bool.or_eq_true]
  right
  rcases h with ((below | ⟨first, last⟩) | line) | paragraph
  · exact unprintable_of_lt_space below
  · exact CharSet.contains_of_mem upper first (by dsimp only; omega)
  · exact CharSet.contains_of_mem separators (by dsimp only; omega) (by dsimp only; omega)
  · exact CharSet.contains_of_mem separators (by dsimp only; omega) (by dsimp only; omega)

theorem hexValue?_of_mem {digits : List Char} {before n : Nat} (h : hexNumber? before digits = some n)
    {d : Char} (mem : d ∈ digits) : (hexValue? d).isSome := by
  induction digits generalizing before with
  | nil => cases mem
  | cons c digits ih =>
    cases value : hexValue? c with
    | none => simp [hexNumber?, value] at h
    | some v =>
      rcases List.mem_cons.mp mem with rfl | later
      · rw [value]
        rfl
      · exact ih (by simpa [hexNumber?, value] using h) later

theorem not_breaksLine_of_hexValue? {d : Char} (h : (hexValue? d).isSome) : breaksLine d = false := by
  have digit : '0' ≤ d ∧ d ≤ '9' ∨ 'a' ≤ d ∧ d ≤ 'f' := by
    unfold hexValue? at h
    grind
  have bounds : 0x30 ≤ d.toNat ∧ d.toNat ≤ 0x39 ∨ 0x61 ≤ d.toNat ∧ d.toNat ≤ 0x66 := digit
  simp only [breaksLine, Bool.or_eq_false_iff, Bool.and_eq_false_iff, decide_eq_false_iff_not,
    beq_eq_false_iff_ne]
  omega

theorem not_breaksLine_of_mem_escape {c d : Char} (h : d ∈ escape c) : breaksLine d = false := by
  unfold escape at h
  cases short : letterOf? c with
  | some letter =>
    have visible : ∀ p ∈ letters, breaksLine p.2 = false := by decide
    simp only [short, List.mem_cons, List.not_mem_nil, or_false] at h
    rcases h with rfl | rfl
    · rfl
    · exact visible _ (letterOf?_eq_some short)
  | none =>
    rw [short] at h
    by_cases coded : needsCode c
    · have signs : ['\\', 'u', '\x7b'].all fun e => !breaksLine e := by decide
      simp only [coded, if_true, List.mem_append] at h
      rcases h with (opening | digit) | closing
      · simpa using List.all_eq_true.mp signs d opening
      · exact not_breaksLine_of_hexValue? (hexValue?_of_mem (hexNumber?_toDigits _) digit)
      · rw [List.mem_singleton.mp closing]
        rfl
    · simp only [coded, Bool.false_eq_true, if_false, List.mem_singleton] at h
      rw [h]
      exact Bool.eq_false_iff.mpr fun breaks => coded (needsCode_of_breaksLine breaks)

theorem not_breaksLine_of_mem_quoted {s : String} {c : Char} (h : c ∈ (quoted s).toList) :
    breaksLine c = false := by
  rw [quoted, String.toList_ofList, quotedChars, List.cons_append, List.mem_cons, List.mem_append,
    List.mem_flatMap, List.mem_singleton] at h
  rcases h with rfl | ⟨d, -, escaped⟩ | rfl
  · rfl
  · exact not_breaksLine_of_mem_escape escaped
  · rfl

end TracedMath.Text
