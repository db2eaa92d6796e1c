import TracedMath.ErrorCode

/-!
# Texts tell codes apart

No text stands twice in the table, and what is said of a code outside the table stands nowhere in it.
So a text that comes from the table where there is one, and from a fallback where there is none, tells
two codes apart unless it falls back for both, and to the same words (`text_eq_iff`).
`texts_tell_codes_apart`: messages, which fall back on the number of the code, tell all codes apart,
and descriptions, which all fall back on the same words, tell apart what is in the table.
-/

namespace TracedMath.ErrorCode

/-- The codes from success up to the last one that has a name. -/
def InTable (e : ErrorCode) : Prop := 0 ≤ e.code.toInt ∧ e.code.toInt ≤ 34

instance (e : ErrorCode) : Decidable e.InTable :=
  inferInstanceAs (Decidable (0 ≤ e.code.toInt ∧ e.code.toInt ≤ 34))

theorem entry?_eq_none_iff (e : ErrorCode) : e.entry? = none ↔ ¬ e.InTable := by
  rw [InTable, ← entry?_isSome_iff, Bool.not_eq_true, Option.isSome_eq_false_iff,
    Option.isNone_iff_eq_none]

theorem messages_nodup : messages.Nodup := by decide +kernel

/-- The number of a code is the place of its text. -/
theorem entry?_place {e : ErrorCode} {s : String} (h : e.entry? = some s) :
    ∃ i : Nat, e.code.toInt = i ∧ messages[i]? = some s := by
  unfold entry? at h
  split at h
  · next natural => exact ⟨e.code.toInt.toNat, (Int.toNat_of_nonneg natural).symm, h⟩
  · cases h

theorem entry?_mem_messages {e : ErrorCode} {s : String} (h : e.entry? = some s) :
    s ∈ messages := by
  obtain ⟨i, -, text⟩ := entry?_place h
  exact List.mem_of_getElem? text

theorem eq_of_toInt_eq {a b : ErrorCode} (h : a.code.toInt = b.code.toInt) : a = b :=
  congrArg ErrorCode.mk (Int32.toInt_inj.mp h)

theorem entry?_injective {a b : ErrorCode} {s : String} (ha : a.entry? = some s)
    (hb : b.entry? = some s) : a = b := by
  obtain ⟨i, first, one⟩ := entry?_place ha
  obtain ⟨j, second, two⟩ := entry?_place hb
  obtain ⟨bound, -⟩ := List.getElem?_eq_some_iff.mp one
  have same : i = j := (List.getElem?_inj bound messages_nodup).mp (one.trans two.symm)
  exact eq_of_toInt_eq (by rw [first, second, same])

theorem text_eq_iff {fallback : ErrorCode → String} (apart : ∀ e, fallback e ∉ messages)
    (a b : ErrorCode) :
    a.entry?.getD (fallback a) = b.entry?.getD (fallback b) ↔
      a = b ∨ (¬ a.InTable ∧ ¬ b.InTable) ∧ fallback a = fallback b := by
  constructor
  · intro same
    cases ha : a.entry? with
    | some s =>
      cases hb : b.entry? with
      | some t =>
        rw [ha, hb] at same
        obtain rfl : s = t := same
        exact .inl (entry?_injective ha hb)
      | none =>
        rw [ha, hb] at same
        obtain rfl : s = fallback b := same
        exact absurd (entry?_mem_messages ha) (apart b)
    | none =>
      cases hb : b.entry? with
      | some t =>
        rw [ha, hb] at same
        obtain rfl : fallback a = t := same
        exact absurd (entry?_mem_messages hb) (apart a)
      | none =>
        rw [ha, hb] at same
        exact .inr ⟨⟨a.entry?_eq_none_iff.mp ha, b.entry?_eq_none_iff.mp hb⟩, same⟩
  · rintro (rfl | ⟨⟨outside, other⟩, same⟩)
    · rfl
    · rw [a.entry?_eq_none_iff.mpr outside, b.entry?_eq_none_iff.mpr other]
      exact same

/-- The digits of a number, after a minus if it is negative. -/
def decimal : Int → List Char
  | .ofNat n => Nat.toDigits 10 n
  | .negSucc n => '-' :: Nat.toDigits 10 (n + 1)

theorem toList_toString (n : Int) : (toString n).toList = decimal n := by
  cases n with
  | ofNat n => exact String.toList_ofList
  | negSucc n =>
    have signed : toString (Int.negSucc n) = "-" ++ String.ofList (Nat.toDigits 10 (n + 1)) := rfl
    simp [signed, decimal, String.toList_append]

theorem toDigits_injective {m n : Nat} (h : Nat.toDigits 10 m = Nat.toDigits 10 n) : m = n := by
  have read := congrArg (fun digits => Nat.ofDigitChars 10 digits 0) h
  simpa only [Nat.ofDigitChars_ten_toDigits] using read

theorem minus_not_mem (n : Nat) : '-' ∉ Nat.toDigits 10 n := by
  intro minus
  have digit := Nat.isDigit_of_mem_toDigits (by decide) (by decide) minus
  cases digit

theorem decimal_injective {m n : Int} (h : decimal m = decimal n) : m = n := by
  cases m with
  | ofNat m =>
    cases n with
    | ofNat n => exact congrArg Int.ofNat (toDigits_injective h)
    | negSucc n =>
      apply absurd _ (minus_not_mem m)
      simp [show Nat.toDigits 10 m = _ from h, decimal]
  | negSucc m =>
    cases n with
    | ofNat n =>
      apply absurd _ (minus_not_mem n)
      simp [show Nat.toDigits 10 n = _ from h.symm, decimal]
    | negSucc n =>
      have same := toDigits_injective (List.tail_eq_of_cons_eq h)
      exact congrArg Int.negSucc (Nat.succ.inj same)

/-- The message of a code that the table does not have. -/
def numbered (e : ErrorCode) : String := "unknown error (" ++ toString e.code.toInt ++ ")"

theorem numbered_injective {a b : ErrorCode} (h : a.numbered = b.numbered) : a = b := by
  apply eq_of_toInt_eq
  apply decimal_injective
  unfold numbered at h
  rw [String.append_left_inj, String.append_right_inj] at h
  rw [← toList_toString, h, toList_toString]

theorem head?_numbered (e : ErrorCode) : e.numbered.toList.head? = some 'u' := by
  unfold numbered
  simp

theorem numbered_not_mem (e : ErrorCode) : e.numbered ∉ messages := by
  have capital : ∀ s ∈ messages, s.toList.head? ≠ some 'u' := by decide +kernel
  intro mem
  exact capital _ mem e.head?_numbered

theorem message_eq_iff (a b : ErrorCode) : a.message = b.message ↔ a = b := by
  have texts : a.message = b.message ↔ _ := text_eq_iff numbered_not_mem a b
  rw [texts]
  constructor
  · rintro (same | ⟨-, same⟩)
    · exact same
    · exact numbered_injective same
  · exact .inl

theorem describe_eq_iff (a b : ErrorCode) :
    a.describe = b.describe ↔ a = b ∨ ¬ a.InTable ∧ ¬ b.InTable := by
  have apart : "Unknown error" ∉ messages := by decide
  have texts : a.describe = b.describe ↔ _ := text_eq_iff (fun _ => apart) a b
  rw [texts, and_iff_left rfl]

theorem describe_eq_message_iff (e : ErrorCode) : e.describe = e.message ↔ e.InTable := by
  constructor
  · intro same
    apply Decidable.byContradiction
    intro outside
    have none := e.entry?_eq_none_iff.mpr outside
    have fallbacks : "Unknown error" = e.numbered := by rwa [describe, message, none] at same
    have first := e.head?_numbered
    rw [← fallbacks] at first
    cases first
  · intro inside
    obtain ⟨s, text⟩ := Option.isSome_iff_exists.mp (e.entry?_isSome_iff.mpr inside)
    rw [describe, message, text]
    rfl

/-- **Texts tell codes apart.** No two codes have one message, whatever their numbers. A code is
described by its message if it is in the table, and then only. A code outside the table has the
description of none in it, so two codes that share a description are both outside. -/
theorem texts_tell_codes_apart (a b : ErrorCode) :
    (a.message = b.message ↔ a = b) ∧
    (a.describe = a.message ↔ a.InTable) ∧
    (¬ a.InTable ↔ ∀ c : ErrorCode, c.InTable → a.describe ≠ c.describe) ∧
    (a.describe = b.describe ↔ a = b ∨ ¬ a.InTable ∧ ¬ b.InTable) := by
  refine ⟨message_eq_iff a b, a.describe_eq_message_iff, ?_, describe_eq_iff a b⟩
  constructor
  · intro outside c inside same
    rcases (describe_eq_iff a c).mp same with rfl | ⟨-, other⟩
    · exact outside inside
    · exact other inside
  · intro apart inside
    exact apart a inside rfl

/-- The least code of all and the first one after the table, with the last one in it. -/
theorem texts_tell_codes_apart_at_the_edges :
    let least : ErrorCode := ⟨Int32.minValue⟩
    let last : ErrorCode := ⟨34⟩
    let next : ErrorCode := ⟨35⟩
    last.InTable ∧ last.describe = last.message ∧
      ¬ least.InTable ∧ least.describe ≠ least.message ∧ least.describe ≠ last.describe ∧
      ¬ next.InTable ∧ least.describe = next.describe ∧ least.message ≠ next.message := by
  intro least last next
  obtain ⟨messages, described, outside, descriptions⟩ := texts_tell_codes_apart least next
  have inside : last.InTable := by decide
  have below : ¬ least.InTable := by decide
  have above : ¬ next.InTable := by decide
  have differ : least ≠ next := by decide
  exact ⟨inside, (texts_tell_codes_apart last last).2.1.mpr inside, below,
    fun same => below (described.mp same), outside.mp below last inside, above,
    descriptions.mpr (.inr ⟨below, above⟩), fun same => differ (messages.mp same)⟩

end TracedMath.ErrorCode
