import Mathlib.Data.List.DropRight
import TracedMath.Decimal.Shortest
import TracedMath.Proofs.Reading

/-!
# The shortest decimal of a number

Of all decimals with a given count of digits the two next to the exact value are the closest to it from
either side (`le_below`, `above_le`), so if any of them reads as the number one of these two does.
`shortestDecimal_readsAs` and `shortestDecimal_minimal`: the decimal that is found reads as the number,
and no decimal with fewer digits does.
-/

namespace TracedMath

open Binary

variable {F : Format}

namespace Decimal

/-- How many digits a number has when the zeros at the end are not counted. -/
def trimmedLength (n : Nat) : Nat := ((Nat.toDigits 10 n).rdropWhile (· == '0')).length

def significantDigits (d : Decimal) : Nat := trimmedLength d.coefficient

theorem trimmedLength_zero : trimmedLength 0 = 0 := rfl

theorem trimmedLength_ten_mul (n : Nat) : trimmedLength (10 * n) = trimmedLength n := by
  rcases Nat.eq_zero_or_pos n with rfl | pos
  · rfl
  · have digits := Nat.toDigits_append_toDigits (b := 10) (n := n) (d := 0) (by decide) pos (by decide)
    rw [Nat.add_zero, Nat.toDigits_zero] at digits
    rw [trimmedLength, ← digits, List.rdropWhile_concat_pos _ _ _ rfl, trimmedLength]

theorem trimmedLength_mul_pow (n k : Nat) : trimmedLength (n * 10 ^ k) = trimmedLength n := by
  induction k with
  | zero => rw [pow_zero, Nat.mul_one]
  | succ k ih => rw [pow_succ, ← Nat.mul_assoc, Nat.mul_comm, trimmedLength_ten_mul, ih]

theorem trimmedLength_of_mod {n : Nat} (h : n % 10 ≠ 0) :
    trimmedLength n = (Nat.toDigits 10 n).length := by
  have nonzero : ∀ i < 10, i ≠ 0 → ¬(Nat.digitChar i == '0') = true := by decide
  have stays := nonzero _ (Nat.mod_lt n (by decide)) h
  have last : ∃ before, Nat.toDigits 10 n = before ++ [Nat.digitChar (n % 10)] := by
    rcases Nat.lt_or_ge n 10 with small | large
    · exact ⟨[], by rw [Nat.toDigits_of_lt_base small, Nat.mod_eq_of_lt small, List.nil_append]⟩
    · exact ⟨_, Nat.toDigits_of_base_le (by decide) large⟩
  obtain ⟨before, digits⟩ := last
  rw [trimmedLength, digits, List.rdropWhile_concat_neg (· == '0') before _ stays]

theorem trimmedLength_le_length (n : Nat) : trimmedLength n ≤ (Nat.toDigits 10 n).length :=
  (List.rdropWhile_prefix _ _).length_le

theorem trimmedLength_le {n k : Nat} (h : n < 10 ^ k) : trimmedLength n ≤ k := by
  rcases Nat.eq_zero_or_pos k with rfl | pos
  · obtain rfl : n = 0 := by simpa using h
    exact Nat.le_refl 0
  · exact (trimmedLength_le_length n).trans ((Nat.length_toDigits_le_iff (by decide) pos).mpr h)

/-- The digits that count are those of a number below a power of ten. -/
theorem exists_of_trimmedLength_le {n k : Nat} (h : trimmedLength n ≤ k) :
    ∃ c z, n = c * 10 ^ z ∧ c < 10 ^ k := by
  induction n using Nat.strongRecOn with
  | ind n ih =>
    by_cases whole : n % 10 = 0
    · rcases Nat.eq_zero_or_pos n with rfl | pos
      · exact ⟨0, 0, rfl, Nat.pow_pos (by decide)⟩
      · have tenfold : n = 10 * (n / 10) := by omega
        rw [tenfold, trimmedLength_ten_mul] at h
        obtain ⟨c, z, eq, lt⟩ := ih (n / 10) (by omega) h
        refine ⟨c, z + 1, ?_, lt⟩
        rw [pow_succ, ← Nat.mul_assoc, ← eq]
        omega
    · rw [trimmedLength_of_mod whole] at h
      have pos : 0 < k := lt_of_lt_of_le (List.length_pos_of_ne_nil Nat.toDigits_ne_nil) h
      exact ⟨n, 0, by rw [pow_zero, Nat.mul_one], (Nat.length_toDigits_le_iff (by decide) pos).mp h⟩

/-- A decimal whose significant digits fit into `n` places is a number of `n` digits times a power of
ten. -/
theorem significantDigits_le_iff (d : Decimal) (n : Nat) :
    d.significantDigits ≤ n ↔ ∃ c z, d.coefficient = c * 10 ^ z ∧ c < 10 ^ n := by
  constructor
  · exact exists_of_trimmedLength_le
  · rintro ⟨c, z, coefficient, lt⟩
    rw [significantDigits, coefficient, trimmedLength_mul_pow]
    exact trimmedLength_le lt

variable {a d : Decimal} {k n : Nat}

/-- A size, counted on the grid of the last digit that is kept. -/
theorem size_eq_grid (a : Decimal) (k : Nat) :
    a.size = (a.coefficient / 10 ^ k : Rat) * 10 ^ (a.exponent + k) := by
  rw [size, zpow_add₀ (by decide), zpow_natCast]
  field_simp

theorem size_truncate (a : Decimal) (k : Nat) :
    (a.truncate k).size = (a.coefficient / 10 ^ k : Nat) * 10 ^ (a.exponent + k) := rfl

theorem size_next (d : Decimal) (n : Nat) :
    (d.next n).size = (d.coefficient + 1 : Nat) * 10 ^ d.exponent := by
  unfold next
  split
  · rename_i full
    rw [size, full, zpow_add₀ (by decide), Nat.pow_eq, zpow_natCast]
    push_cast
    ring
  · rfl

theorem size_truncate_le (a : Decimal) (k : Nat) : (a.truncate k).size ≤ a.size := by
  rw [size_truncate, a.size_eq_grid k]
  apply mul_le_mul_of_nonneg_right _ (by positivity)
  rw [le_div_iff₀ (by positivity)]
  exact_mod_cast Nat.div_mul_le_self _ _

theorem size_lt_next (a : Decimal) (k n : Nat) : a.size < ((a.truncate k).next n).size := by
  rw [size_next, a.size_eq_grid k]
  apply mul_lt_mul_of_pos_right _ (by positivity)
  rw [div_lt_iff₀ (by positivity)]
  exact_mod_cast Nat.lt_mul_of_div_lt (Nat.lt_succ_self _) (Nat.pow_pos (by decide))

/-- A decimal of `n` digits is on the grid on which `a` has `n` digits left, or so fine that it stays
below all of `a` that is there. -/
theorem on_grid_or_below (left : 10 ^ n ≤ 10 * (a.coefficient / 10 ^ k))
    (short : d.significantDigits ≤ n) :
    (∃ N : Nat, d.size = N * 10 ^ (a.exponent + k)) ∨ d.size < (a.truncate k).size := by
  obtain ⟨c, z, coefficient, lt⟩ := (d.significantDigits_le_iff n).mp short
  have own : d.size = c * 10 ^ (z + d.exponent) := by
    rw [size, coefficient, zpow_add₀ (by decide), zpow_natCast]
    push_cast
    ring
  rcases le_or_gt (a.exponent + k) (z + d.exponent) with coarse | fine
  · left
    obtain ⟨j, hj⟩ := Int.eq_ofNat_of_zero_le (Int.sub_nonneg_of_le coarse)
    refine ⟨c * 10 ^ j, ?_⟩
    have exponent : (z + d.exponent : Int) = j + (a.exponent + k) := by omega
    rw [own, exponent, zpow_add₀ (by decide), zpow_natCast]
    push_cast
    ring
  · right
    have finer : (10 : Rat) ^ (z + d.exponent) ≤ 10 ^ (a.exponent + k - 1) :=
      zpow_le_zpow_right₀ (by norm_num) (by omega)
    have step : (10 : Rat) ^ (a.exponent + k) = 10 * 10 ^ (a.exponent + k - 1) := by
      rw [← zpow_one_add₀ (by decide)]
      congr 1
      omega
    have lt : (c : Rat) < 10 ^ n := by exact_mod_cast lt
    have left : (10 ^ n : Rat) ≤ 10 * (a.coefficient / 10 ^ k : Nat) := by exact_mod_cast left
    have unit : (0 : Rat) < 10 ^ (z + d.exponent) := by positivity
    calc d.size = c * 10 ^ (z + d.exponent) := own
      _ < 10 ^ n * 10 ^ (z + d.exponent) := mul_lt_mul_of_pos_right lt unit
      _ ≤ 10 * (a.coefficient / 10 ^ k : Nat) * 10 ^ (a.exponent + k - 1) := by gcongr
      _ = (a.truncate k).size := by
        rw [size_truncate, step]
        ring

theorem le_below (left : 10 ^ n ≤ 10 * (a.coefficient / 10 ^ k)) (short : d.significantDigits ≤ n)
    (le : d.size ≤ a.size) : d.size ≤ (a.truncate k).size := by
  rcases on_grid_or_below left short with ⟨N, own⟩ | below
  · have unit : (0 : Rat) < 10 ^ (a.exponent + k) := by positivity
    rw [own, a.size_eq_grid k] at le
    have le := le_of_mul_le_mul_right le unit
    rw [le_div_iff₀ (by positivity)] at le
    have le : N * 10 ^ k ≤ a.coefficient := by exact_mod_cast le
    rw [own, size_truncate]
    apply mul_le_mul_of_nonneg_right _ unit.le
    exact_mod_cast (Nat.le_div_iff_mul_le (Nat.pow_pos (by decide))).mpr le
  · exact below.le

theorem above_le (left : 10 ^ n ≤ 10 * (a.coefficient / 10 ^ k)) (short : d.significantDigits ≤ n)
    (lt : a.size < d.size) : ((a.truncate k).next n).size ≤ d.size := by
  rcases on_grid_or_below left short with ⟨N, own⟩ | below
  · have unit : (0 : Rat) < 10 ^ (a.exponent + k) := by positivity
    rw [own, a.size_eq_grid k] at lt
    have lt := lt_of_mul_lt_mul_right lt unit.le
    rw [div_lt_iff₀ (by positivity)] at lt
    have lt : a.coefficient < N * 10 ^ k := by exact_mod_cast lt
    rw [own, size_next]
    apply mul_le_mul_of_nonneg_right _ unit.le
    exact_mod_cast (Nat.div_lt_iff_lt_mul (Nat.pow_pos (by decide))).mpr lt
  · exact absurd (below.trans_le (a.size_truncate_le k)) lt.not_gt

end Decimal

namespace Binary

variable {x : Binary F} {d : Decimal}

theorem exactDecimal_coefficient_pos (nonzero : x.scaledMagnitude ≠ 0) :
    0 < x.exactDecimal.coefficient :=
  Nat.mul_pos (Nat.pos_of_ne_zero nonzero) (Nat.pow_pos (by decide))

theorem lt_pow_length (n : Nat) : n < 10 ^ (Nat.toDigits 10 n).length := by
  have pos : 0 < (Nat.toDigits 10 n).length := List.length_pos_of_ne_nil Nat.toDigits_ne_nil
  exact (Nat.length_toDigits_le_iff (by decide) pos).mp le_rfl

theorem pow_length_le {n : Nat} (pos : 0 < n) : 10 ^ (Nat.toDigits 10 n).length ≤ 10 * n := by
  obtain ⟨j, hj⟩ : ∃ j, (Nat.toDigits 10 n).length = j + 1 :=
    Nat.exists_eq_succ_of_ne_zero (by simp [Nat.toDigits_ne_nil])
  rw [hj, pow_succ']
  apply Nat.mul_le_mul_left
  rcases Nat.eq_zero_or_pos j with rfl | some
  · exact pos
  · apply Nat.le_of_not_lt
    intro lt
    have := (Nat.length_toDigits_le_iff (by decide) some).mpr lt
    omega

/-- Of a number's digits as many are left as there are places. -/
theorem pow_places_le {n places : Nat} (pos : 0 < n) (some : 0 < places)
    (le : places ≤ (Nat.toDigits 10 n).length) :
    10 ^ places ≤ 10 * (n / 10 ^ ((Nat.toDigits 10 n).length - places)) := by
  obtain ⟨p, rfl⟩ : ∃ p, places = p + 1 := Nat.exists_eq_succ_of_ne_zero some.ne'
  have whole := pow_length_le pos
  generalize (Nat.toDigits 10 n).length = length at *
  have split : 10 ^ length = 10 * (10 ^ p * 10 ^ (length - (p + 1))) := by
    rw [← pow_add, ← pow_succ']
    congr 1
    omega
  rw [pow_succ']
  apply Nat.mul_le_mul_left
  rw [Nat.le_div_iff_mul_le (Nat.pow_pos (by decide))]
  rw [split] at whole
  exact Nat.le_of_mul_le_mul_left whole (by decide)

theorem withPlaces?_isSome_iff (x : Binary F) (a : Decimal) (length places : Nat) :
    (x.withPlaces? a length places).isSome ↔
      (a.truncate (length - places)).ReadsAs x ∨
        ((a.truncate (length - places)).next places).ReadsAs x := by
  rw [← Decimal.toBinary_eq_iff, ← Decimal.toBinary_eq_iff, withPlaces?]
  grind

theorem next_negative (d : Decimal) (n : Nat) : (d.next n).negative = d.negative := by
  unfold Decimal.next
  split <;> rfl

/-- If any decimal of so many digits reads as the number, one of the two next to its value does. -/
theorem withPlaces?_isSome (nonzero : x.scaledMagnitude ≠ 0) (h : d.ReadsAs x) {places : Nat}
    (some : 0 < places) (short : d.significantDigits ≤ places)
    (le : places ≤ x.exactDecimal.digits.length) :
    (x.withPlaces? x.exactDecimal x.exactDecimal.digits.length places).isSome := by
  have left := pow_places_le (exactDecimal_coefficient_pos nonzero) some le
  have exact := Decimal.exactDecimal_readsAs h.number
  rw [withPlaces?_isSome_iff]
  rcases le_or_gt d.size x.exactDecimal.size with low | high
  · left
    exact h.between exact rfl (Decimal.le_below left short low) (Decimal.size_truncate_le _ _)
  · right
    exact exact.between h (next_negative _ _) (Decimal.size_lt_next _ _ _).le
      (Decimal.above_le left short high)

theorem withPlaces?_digits {a : Decimal} {places : Nat} (some : 0 < places)
    (le : places ≤ a.digits.length) (h : x.withPlaces? a a.digits.length places = .some d) :
    d.significantDigits ≤ places := by
  have kept : (a.truncate (a.digits.length - places)).coefficient < 10 ^ places := by
    rw [Decimal.truncate, Nat.pow_eq, Nat.div_lt_iff_lt_mul (Nat.pow_pos (by decide)), ← pow_add,
      Nat.add_sub_cancel' le]
    exact lt_pow_length _
  have either : d = a.truncate (a.digits.length - places) ∨
      d = (a.truncate (a.digits.length - places)).next places := by
    unfold withPlaces? at h
    grind
  rw [Decimal.significantDigits_le_iff]
  rcases either with rfl | rfl
  · exact ⟨_, 0, (Nat.mul_one _).symm, kept⟩
  · unfold Decimal.next
    split
    · exact ⟨1, 0, rfl, Nat.one_lt_pow some.ne' (by decide)⟩
    · rename_i room
      rw [Nat.pow_eq] at room
      exact ⟨_, 0, (Nat.mul_one _).symm, by dsimp only; omega⟩

/-- Searching upwards finds something no later than where it is known to be. -/
theorem findSome?_range {f : Nat → Option α} {n j : Nat} (hj : j < n) (h : (f j).isSome) :
    ∃ i a, i ≤ j ∧ f i = some a ∧ (List.range n).findSome? f = some a := by
  induction n with
  | zero => exact absurd hj (Nat.not_lt_zero j)
  | succ n ih =>
    rw [List.range_succ, List.findSome?_append]
    rcases Nat.lt_succ_iff_lt_or_eq.mp hj with before | rfl
    · obtain ⟨i, a, le, own, found⟩ := ih before
      exact ⟨i, a, le, own, by rw [found, Option.some_or]⟩
    · cases earlier : (List.range j).findSome? f with
      | some a =>
        obtain ⟨i, mem, own⟩ := List.exists_of_findSome?_eq_some earlier
        exact ⟨i, a, (List.mem_range.mp mem).le, own, rfl⟩
      | none =>
        obtain ⟨a, own⟩ := Option.isSome_iff_exists.mp h
        exact ⟨j, a, le_rfl, own, by simp [own]⟩

/-- Whatever is found has no more digits than the exact value. -/
theorem shortestDecimal_length (nonzero : x.scaledMagnitude ≠ 0) :
    x.shortestDecimal.significantDigits ≤ x.exactDecimal.digits.length := by
  rw [shortestDecimal, if_neg nonzero]
  dsimp only
  cases found : (List.range x.exactDecimal.digits.length).findSome? fun i =>
      x.withPlaces? x.exactDecimal x.exactDecimal.digits.length (i + 1) with
  | none => exact Decimal.trimmedLength_le_length _
  | some d =>
    obtain ⟨i, mem, found⟩ := List.exists_of_findSome?_eq_some found
    have inside := List.mem_range.mp mem
    exact (withPlaces?_digits (Nat.succ_pos i) inside found).trans inside

theorem shortestDecimal_readsAs (number : x.isNaN = false) : x.shortestDecimal.ReadsAs x := by
  unfold shortestDecimal
  split
  · rename_i zero
    apply Decimal.readsAs_of_count number rfl
    simp [Decimal.size, zero]
  · dsimp only
    cases found : (List.range x.exactDecimal.digits.length).findSome? fun i =>
        x.withPlaces? x.exactDecimal x.exactDecimal.digits.length (i + 1) with
    | none => exact Decimal.exactDecimal_readsAs number
    | some d =>
      obtain ⟨i, -, found⟩ := List.exists_of_findSome?_eq_some found
      exact Decimal.toBinary_eq_iff.mp (withPlaces?_reads_back found)

theorem significantDigits_pos (nonzero : x.scaledMagnitude ≠ 0) (h : d.ReadsAs x) :
    0 < d.significantDigits := by
  apply Nat.pos_of_ne_zero
  intro none
  obtain ⟨c, z, coefficient, lt⟩ := (d.significantDigits_le_iff 0).mp none.le
  obtain rfl : c = 0 := by simpa using lt
  have zero_read : d.ReadsAs (zero x.negative : Binary F) := by
    apply Decimal.readsAs_of_count (not_isNaN_of_isFinite (isFinite_zero _)) h.sign
    simp [Decimal.size, coefficient]
  rw [h.unique zero_read] at nonzero
  exact nonzero (scaledMagnitude_zero _)

/-- **The decimal that is found is the shortest.** None with fewer significant digits reads as the
number. -/
theorem shortestDecimal_minimal (h : d.ReadsAs x) :
    x.shortestDecimal.significantDigits ≤ d.significantDigits := by
  by_cases nonzero : x.scaledMagnitude = 0
  · rw [shortestDecimal, if_pos nonzero, Decimal.significantDigits, Decimal.trimmedLength_zero]
    exact Nat.zero_le _
  · have pos := significantDigits_pos nonzero h
    rcases Nat.lt_or_ge x.exactDecimal.digits.length d.significantDigits with long | short
    · exact (shortestDecimal_length nonzero).trans long.le
    · obtain ⟨j, count⟩ := Nat.exists_eq_succ_of_ne_zero pos.ne'
      have inside : j < x.exactDecimal.digits.length := by omega
      have present := withPlaces?_isSome nonzero h (Nat.succ_pos j) count.le inside
      obtain ⟨i, a, le, own, found⟩ := findSome?_range
        (f := fun i => x.withPlaces? x.exactDecimal x.exactDecimal.digits.length (i + 1)) inside present
      have same : x.shortestDecimal = a := by
        rw [shortestDecimal, if_neg nonzero]
        dsimp only
        rw [found, Option.getD_some]
      rw [same, count]
      exact (withPlaces?_digits (Nat.succ_pos i) (by omega) own).trans (by omega)

end Binary

end TracedMath
