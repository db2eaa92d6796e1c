import TracedMath.Decimal.Plain
import TracedMath.Proofs.Shortest

/-!
# Decimals written out

`read?_plain`: what is written in positional notation is read again as a decimal of the same sign, size
and count of significant digits. `Shown` says what the text of a number tells, and `text_shown` that it
does: so the texts of different numbers are different (`text_injective`).
-/

namespace TracedMath

namespace Decimal

/-- The sign as it is written. -/
def signMark (negative : Bool) : List Char := if negative then ['-'] else []

theorem head?_signMark (s : Bool) {body : List Char} (some : body ≠ [])
    (digits : ∀ c ∈ body, c.isDigit = true) (rest : List Char) :
    ((signMark s ++ (body ++ rest)).head? == .some '-') = s := by
  obtain ⟨c, more, rfl⟩ := List.exists_cons_of_ne_nil some
  have digit := digits c List.mem_cons_self
  cases s
  · have minus : ¬ c = '-' := by
      rintro rfl
      cases digit
    simp [signMark, minus]
  · rfl

theorem tail_signMark (s : Bool) (text : List Char) :
    (if s then (signMark s ++ text).tail else signMark s ++ text) = text := by
  cases s <;> rfl

/-- Digits are taken from a text up to what is no digit. -/
theorem take_digits {digits rest : List Char} (all : ∀ c ∈ digits, c.isDigit = true)
    (stop : rest.takeWhile Char.isDigit = []) :
    (digits ++ rest).takeWhile Char.isDigit = digits ∧ (digits ++ rest).dropWhile Char.isDigit = rest := by
  have left := List.takeWhile_append_dropWhile (p := Char.isDigit) (l := rest)
  rw [stop, List.nil_append] at left
  rw [List.takeWhile_append_of_pos all, List.dropWhile_append_of_pos all, stop, left,
    List.append_nil]
  exact ⟨rfl, rfl⟩

/-- A text without a point is a whole number. -/
theorem read?_whole (s : Bool) {whole : List Char} (some : whole ≠ [])
    (digits : ∀ c ∈ whole, c.isDigit = true) :
    read? (signMark s ++ whole) = .some ⟨s, Nat.ofDigitChars 10 whole 0, 0⟩ := by
  have sign := head?_signMark s some digits []
  obtain ⟨taken, dropped⟩ := take_digits digits List.takeWhile_nil
  rw [List.append_nil] at sign taken dropped
  simp only [read?, sign, tail_signMark, taken, dropped]
  simp [some]

/-- A text with a point has digits before it and after it. -/
theorem read?_point (s : Bool) {whole places : List Char} (some_whole : whole ≠ [])
    (some_places : places ≠ []) (digits : ∀ c ∈ whole ++ places, c.isDigit = true) :
    read? (signMark s ++ (whole ++ '.' :: places)) =
      some ⟨s, Nat.ofDigitChars 10 (whole ++ places) 0, -places.length⟩ := by
  obtain ⟨before, after⟩ := List.forall_mem_append.mp digits
  have sign := head?_signMark s some_whole before ('.' :: places)
  have point : ('.' :: places).takeWhile Char.isDigit = [] := rfl
  obtain ⟨taken, dropped⟩ := take_digits before point
  have all : places.all Char.isDigit = true := List.all_eq_true.mpr after
  simp only [read?, sign, tail_signMark, taken, dropped, all]
  simp [some_whole, some_places]

theorem digits_isDigit (d : Decimal) : ∀ c ∈ d.digits, c.isDigit = true :=
  fun _ mem => Nat.isDigit_of_mem_toDigits (by decide) (by decide) mem

theorem zeros_isDigit (n : Nat) : ∀ c ∈ List.replicate n '0', c.isDigit = true := by
  intro c mem
  rw [List.eq_of_mem_replicate mem]
  rfl

theorem ofDigitChars_digits (d : Decimal) : Nat.ofDigitChars 10 d.digits 0 = d.coefficient :=
  Nat.ofDigitChars_ten_toDigits

variable {d : Decimal} {n : Nat}

theorem plain_whole (exponent : d.exponent = n) :
    d.plain = signMark d.negative ++ (d.digits ++ List.replicate n '0') := by
  simp [plain, exponent, signMark]

theorem plain_point (exponent : d.exponent = -n) (pos : 0 < n) {text : List Char}
    (padded : d.digits.leftpad (n + 1) '0' = text) :
    d.plain = signMark d.negative ++
      (text.take (text.length - n) ++ '.' :: text.drop (text.length - n)) := by
  have below : ¬ n = 0 := pos.ne'
  subst padded
  simp [plain, exponent, signMark, below]

/-- The zeros up to the units go into the coefficient. -/
theorem read?_plain_whole (exponent : d.exponent = n) :
    read? d.plain = some ⟨d.negative, d.coefficient * 10 ^ n, 0⟩ := by
  have digits : ∀ c ∈ d.digits ++ List.replicate n '0', c.isDigit = true :=
    List.forall_mem_append.mpr ⟨d.digits_isDigit, zeros_isDigit n⟩
  have nonempty : d.digits ++ List.replicate n '0' ≠ [] := by
    simp [Decimal.digits, Nat.toDigits_ne_nil]
  rw [plain_whole exponent, read?_whole d.negative nonempty digits, Nat.ofDigitChars_append,
    ofDigitChars_digits, Nat.ofDigitChars_replicate_zero, Nat.mul_comm]

/-- The zeros in front change nothing. -/
theorem read?_plain_point (exponent : d.exponent = -n) (pos : 0 < n) : read? d.plain = some d := by
  have padded : d.digits.leftpad (n + 1) '0' =
      List.replicate (n + 1 - d.digits.length) '0' ++ d.digits := rfl
  have length : n + 1 ≤ (d.digits.leftpad (n + 1) '0').length := by
    rw [List.length_leftpad]
    exact Nat.le_max_left _ _
  have digits : ∀ c ∈ d.digits.leftpad (n + 1) '0', c.isDigit = true := by
    rw [padded]
    exact List.forall_mem_append.mpr ⟨zeros_isDigit _, d.digits_isDigit⟩
  have coefficient : Nat.ofDigitChars 10 (d.digits.leftpad (n + 1) '0') 0 = d.coefficient := by
    rw [padded, Nat.ofDigitChars_append, Nat.ofDigitChars_replicate_zero, Nat.mul_zero,
      ofDigitChars_digits]
  rw [plain_point exponent pos rfl]
  generalize d.digits.leftpad (n + 1) '0' = text at *
  have whole : text.take (text.length - n) ≠ [] := by
    rw [← List.length_pos_iff, List.length_take]
    omega
  have places : text.drop (text.length - n) ≠ [] := by
    rw [← List.length_pos_iff, List.length_drop]
    omega
  have count : -((text.length - (text.length - n) : Nat) : Int) = d.exponent := by omega
  rw [read?_point d.negative whole places (by rwa [List.take_append_drop]), List.take_append_drop,
    coefficient, List.length_drop, count]

/-- Nothing is lost in positional notation. -/
theorem read?_plain (d : Decimal) :
    ∃ e, read? d.plain = some e ∧ e.negative = d.negative ∧ e.size = d.size ∧
      e.significantDigits = d.significantDigits := by
  obtain ⟨n, exponent | exponent⟩ := d.exponent.eq_nat_or_neg
  · refine ⟨_, read?_plain_whole exponent, rfl, ?_, trimmedLength_mul_pow _ _⟩
    rw [size, size, exponent, zpow_natCast, zpow_zero, mul_one, Nat.cast_mul, Nat.cast_pow]
    rfl
  · rcases Nat.eq_zero_or_pos n with rfl | pos
    · refine ⟨_, read?_plain_whole exponent, rfl, ?_, trimmedLength_mul_pow _ _⟩
      rw [size, size, exponent, pow_zero, Nat.mul_one]
      rfl
    · exact ⟨d, read?_plain_point exponent pos, rfl, rfl, rfl⟩

/-- What is left of a text when its sign is taken away. -/
def unsigned (text : List Char) : List Char := if text.head? == some '-' then text.tail else text

theorem mem_unsigned {text : List Char} {c : Char} (mem : c ∈ text) : c = '-' ∨ c ∈ unsigned text := by
  cases text with
  | nil => cases mem
  | cons first rest =>
    by_cases minus : first = '-'
    · rw [minus] at mem ⊢
      exact List.mem_cons.mp mem
    · right
      simpa [unsigned, minus] using mem

/-- Behind the first digits there is nothing, or a point and more digits. -/
theorem rest_of_read? {text : List Char} (h : read? text = some d) :
    ∀ c ∈ (unsigned text).dropWhile Char.isDigit, c.isDigit = true ∨ c = '.' := by
  rw [read?, ← unsigned] at h
  intro c mem
  split at h
  · rename_i none
    rw [none] at mem
    cases mem
  · rename_i places point
    rw [point] at mem
    split at h
    · cases h
    · rename_i digits
      rcases List.mem_cons.mp mem with dot | mem
      · exact .inr dot
      · have all : places.all Char.isDigit = true := by
          simpa using (not_or.mp (not_or.mp digits).2).2
        exact .inl (List.all_eq_true.mp all c mem)
  · cases h

/-- What is read holds nothing but a sign, digits and a point. -/
theorem chars_of_read? {text : List Char} (h : read? text = some d) :
    ∀ c ∈ text, c = '-' ∨ c.isDigit = true ∨ c = '.' := by
  intro c mem
  refine (mem_unsigned mem).imp_right fun mem => ?_
  rw [← List.takeWhile_append_dropWhile (p := Char.isDigit) (l := unsigned text)] at mem
  rcases List.mem_append.mp mem with taken | left
  · exact .inl (List.mem_takeWhile_imp taken)
  · exact rest_of_read? h c left

end Decimal

namespace Binary

variable {F : Format}

/-- What a text tells of a number that is not NaN. If it is finite, the text is a plain decimal that
reads as the number and as no other, and no decimal with fewer significant digits does. -/
structure Shown (text : String) (x : Binary F) : Prop where
  number : x.isNaN = false
  chars : x.isFinite → ∀ c ∈ text.toList, c = '-' ∨ c.isDigit = true ∨ c = '.'
  decimal : x.isFinite → ∃ d, Decimal.read? text.toList = some d ∧
    (∀ y : Binary F, d.ReadsAs y ↔ y = x) ∧
    ∀ e : Decimal, e.ReadsAs x → d.significantDigits ≤ e.significantDigits
  infinite : x.isInfinite → text = if x.negative then "-inf" else "inf"

theorem text_of_isFinite {x : Binary F} (h : x.isFinite) :
    x.text.toList = x.shortestDecimal.plain := by
  have kinds := h
  rw [isFinite_eq, Bool.and_eq_true, Bool.not_eq_true', Bool.not_eq_true'] at kinds
  simp [text, kinds.1, kinds.2]

theorem text_of_isInfinite {x : Binary F} (h : x.isInfinite) :
    x.text = if x.negative then "-inf" else "inf" := by
  simp [text, h, not_isNaN_of_isInfinite h]

/-- **The text of a number loses nothing of it.** -/
theorem text_shown {x : Binary F} (number : x.isNaN = false) : Shown x.text x := by
  obtain ⟨e, read, sign, size, digits⟩ := x.shortestDecimal.read?_plain
  have same : e.ReadsAs x := by
    have own := shortestDecimal_readsAs number
    exact own.between own (sign.trans own.sign) size.ge size.le
  refine ⟨number, fun finite => ?_, fun finite => ?_, text_of_isInfinite⟩
  · rw [text_of_isFinite finite]
    exact Decimal.chars_of_read? read
  · refine ⟨e, by rwa [text_of_isFinite finite], fun y => ⟨fun hy => hy.unique same, ?_⟩, fun d hd => ?_⟩
    · rintro rfl
      exact same
    · rw [digits]
      exact shortestDecimal_minimal hd

/-- Seventeen digits would be exact to the last bit here, and one is enough. -/
example : (ofBits 0x3fb999999999999a : Binary64).text = "0.1" := by decide +kernel

theorem eq_infinity {x : Binary F} (h : x.isInfinite) : x = infinity x.negative := by
  rw [isInfinite, Bool.and_eq_true, beq_iff_eq, beq_iff_eq] at h
  cases x with | mk s e f =>
    obtain ⟨rfl, rfl⟩ := h
    rfl

/-- A text that is read is not that of an infinity. -/
theorem read?_infinite (s : Bool) : Decimal.read? (if s then "-inf" else "inf").toList = none := by
  cases s <;> decide +kernel

theorem isInfinite_of_number {x : Binary F} (number : x.isNaN = false) (h : ¬ x.isFinite) :
    x.isInfinite := by
  simpa [isFinite_eq, number] using h

/-- A text shows one number only. -/
theorem Shown.unique {t : String} {x y : Binary F} (hx : Shown t x) (hy : Shown t y) : x = y := by
  by_cases fx : x.isFinite
  · obtain ⟨d, read, reads, -⟩ := hx.decimal fx
    by_cases fy : y.isFinite
    · obtain ⟨e, read', reads', -⟩ := hy.decimal fy
      rw [read, Option.some.injEq] at read'
      subst read'
      exact (reads' x).mp ((reads x).mpr rfl)
    · rw [hy.infinite (isInfinite_of_number hy.number fy), read?_infinite] at read
      cases read
  · have ix := isInfinite_of_number hx.number fx
    by_cases fy : y.isFinite
    · obtain ⟨e, read, -⟩ := hy.decimal fy
      rw [hx.infinite ix, read?_infinite] at read
      cases read
    · have iy := isInfinite_of_number hy.number fy
      have same := (hx.infinite ix).symm.trans (hy.infinite iy)
      have sign : x.negative = y.negative := by
        cases sx : x.negative <;> cases sy : y.negative <;> simp [sx, sy] at same ⊢
      rw [eq_infinity ix, eq_infinity iy, sign]

theorem not_shown_nan (x : Binary F) : ¬ Shown "NaN" x := by
  intro shown
  by_cases finite : x.isFinite
  · obtain ⟨d, read, -⟩ := shown.decimal finite
    have none : Decimal.read? "NaN".toList = none := by decide +kernel
    rw [none] at read
    cases read
  · have same := shown.infinite (isInfinite_of_number shown.number finite)
    cases sign : x.negative <;> simp [sign] at same

/-- The texts of two numbers are the same only if the numbers are, or if both are NaN. -/
theorem text_injective {x y : Binary F} (h : x.text = y.text) : x = y ∨ x.isNaN ∧ y.isNaN := by
  have nan {z : Binary F} (hz : z.isNaN) : z.text = "NaN" := by rw [text, if_pos hz]
  cases hx : x.isNaN with
  | false =>
    cases hy : y.isNaN with
    | false => exact .inl (Shown.unique (h ▸ text_shown hx) (text_shown hy))
    | true => exact absurd (nan hy ▸ h ▸ text_shown hx) (not_shown_nan x)
  | true =>
    cases hy : y.isNaN with
    | false => exact absurd (nan hx ▸ h.symm ▸ text_shown hy) (not_shown_nan y)
    | true => exact .inr ⟨rfl, rfl⟩

end Binary

end TracedMath
