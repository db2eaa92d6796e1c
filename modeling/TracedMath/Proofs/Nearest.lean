import Mathlib.Algebra.Order.AbsoluteValue.Basic
import Mathlib.Tactic.Positivity
import TracedMath.Proofs.Magnitudes

/-!
# Rounding finds the nearest number

A quotient rounds to a magnitude if it is not past the points halfway to the neighbours, where a
halfway point belongs to the even one (`RoundsTo`). There is only one such magnitude, what lies between
two quotients that round to it rounds to it too, and it is the nearest one (`roundsTo_iff`). Rounding
gives it: `roundsTo_roundedMagnitude`.
-/

namespace TracedMath.Binary

variable {F : Format}

theorem countAt_cast_le {j k : Nat} (h : j ≤ k) : (countAt F j : Rat) ≤ countAt F k := by
  exact_mod_cast (countAt_strictMono F).monotone h

theorem countAt_cast_lt_succ (F : Format) (m : Nat) : (countAt F m : Rat) < countAt F (m + 1) := by
  exact_mod_cast countAt_lt_succ F m

/-! ## The quotients that round to a magnitude -/

/-- A quotient of counts that is not past the points halfway to the magnitudes next to `m`. On such a
point it rounds to the even one. -/
structure RoundsTo (F : Format) (q : Rat) (m : Nat) : Prop where
  le : m ≤ infinityMagnitude F
  above : m < infinityMagnitude F → 2 * q < countAt F m + countAt F (m + 1) ∨
    2 * q = countAt F m + countAt F (m + 1) ∧ m % 2 = 0
  below : ∀ j, m = j + 1 → (countAt F j + countAt F m : Rat) < 2 * q ∨
    (countAt F j + countAt F m : Rat) = 2 * q ∧ m % 2 = 0

namespace RoundsTo

variable {q : Rat} {m k : Nat}

theorem below_le (h : RoundsTo F q m) {j : Nat} (hj : m = j + 1) :
    (countAt F j + countAt F m : Rat) ≤ 2 * q := by
  rcases h.below j hj with less | ⟨tie, -⟩
  · exact less.le
  · exact tie.le

theorem not_lt (hm : RoundsTo F q m) (hk : RoundsTo F q k) : ¬ m < k := by
  intro lt
  obtain ⟨j, rfl⟩ : ∃ j, k = j + 1 := ⟨k - 1, by omega⟩
  have less : (countAt F m : Rat) ≤ countAt F j := countAt_cast_le (by omega)
  have next : (countAt F (m + 1) : Rat) ≤ countAt F (j + 1) := countAt_cast_le (by omega)
  -- The two halfway points must be one, which then belongs to neighbours that are both even.
  rcases hm.above (lt_of_lt_of_le lt hk.le) with up | ⟨up, even⟩
  · linarith [hk.below_le rfl]
  · rcases hk.below j rfl with down | ⟨down, even'⟩
    · linarith
    · have same : (countAt F m : Rat) = countAt F j := by linarith
      have same : m = j := (countAt_strictMono F).injective (by exact_mod_cast same)
      omega

/-- A quotient rounds to one magnitude only. -/
theorem unique (hm : RoundsTo F q m) (hk : RoundsTo F q k) : m = k := by
  have := hm.not_lt hk
  have := hk.not_lt hm
  omega

/-- What lies between two quotients that round to a magnitude rounds to it too. -/
theorem between {a b : Rat} (ha : RoundsTo F a m) (hb : RoundsTo F b m) (hq : a ≤ q) (hq' : q ≤ b) :
    RoundsTo F q m where
  le := ha.le
  above := by
    intro lt
    rcases hb.above lt with less | ⟨tie, even⟩
    · left
      linarith
    · rcases (show 2 * q ≤ countAt F m + countAt F (m + 1) by linarith).lt_or_eq with less | eq
      · exact .inl less
      · exact .inr ⟨eq, even⟩
  below := by
    intro j hj
    rcases ha.below j hj with less | ⟨tie, even⟩
    · left
      linarith
    · rcases (show (countAt F j + countAt F m : Rat) ≤ 2 * q by linarith).lt_or_eq with less | eq
      · exact .inl less
      · exact .inr ⟨eq, even⟩

/-- The count of a magnitude rounds to it. -/
theorem countAt_self (le : m ≤ infinityMagnitude F) : RoundsTo F (countAt F m) m where
  le := le
  above := by
    intro _
    left
    linarith [countAt_cast_lt_succ F m]
  below := by
    rintro j rfl
    left
    linarith [countAt_cast_lt_succ F j]

end RoundsTo

/-! ## Nearness -/

/-- Of two points, the first is the nearer one, or they are equally near and the first is preferred. -/
def Nearer (a p r : Rat) (preferred : Prop) : Prop :=
  |a - p| ≤ |a - r| ∧ (|a - r| = |a - p| → preferred)

/-- Of a point and one to its right, it is the former up to halfway. -/
theorem nearer_iff_of_lt {a p r : Rat} {preferred : Prop} (h : p < r) :
    Nearer a p r preferred ↔ 2 * a < p + r ∨ 2 * a = p + r ∧ preferred := by
  have distances : (|a - p| ≤ |a - r| ↔ 2 * a ≤ p + r) ∧ (|a - r| = |a - p| ↔ 2 * a = p + r) := by
    rcases abs_cases (a - p) with ⟨left, _⟩ | ⟨left, _⟩ <;>
      rcases abs_cases (a - r) with ⟨right, _⟩ | ⟨right, _⟩ <;>
      rw [left, right] <;> constructor <;> constructor <;> intro <;> linarith
  obtain ⟨le, eq⟩ := distances
  rw [Nearer, le, eq, le_iff_lt_or_eq]
  grind

/-- The same in a mirror. -/
theorem nearer_iff_of_gt {a p r : Rat} {preferred : Prop} (h : r < p) :
    Nearer a p r preferred ↔ r + p < 2 * a ∨ r + p = 2 * a ∧ preferred := by
  have mirrored : Nearer (-a) (-p) (-r) preferred ↔ Nearer a p r preferred := by
    simp only [Nearer, neg_sub_neg, abs_sub_comm]
  rw [← mirrored, nearer_iff_of_lt (neg_lt_neg h)]
  have less : 2 * -a < -p + -r ↔ r + p < 2 * a := by constructor <;> intro <;> linarith
  have tie : 2 * -a = -p + -r ↔ r + p = 2 * a := by constructor <;> intro <;> linarith
  rw [less, tie]

/-- The magnitude that a quotient rounds to is the nearest one, and even if another is as near. -/
theorem roundsTo_iff {q : Rat} {m : Nat} :
    RoundsTo F q m ↔ m ≤ infinityMagnitude F ∧
      ∀ k ≤ infinityMagnitude F, k ≠ m → Nearer q (countAt F m) (countAt F k) (m % 2 = 0) := by
  constructor
  · intro h
    refine ⟨h.le, fun k hk apart => ?_⟩
    rcases Nat.lt_or_gt_of_ne apart with below | above
    · obtain ⟨j, rfl⟩ : ∃ j, m = j + 1 := ⟨m - 1, by omega⟩
      have far : (countAt F k : Rat) ≤ countAt F j := countAt_cast_le (by omega)
      rw [nearer_iff_of_gt (far.trans_lt (countAt_cast_lt_succ F j))]
      rcases h.below j rfl with less | ⟨tie, even⟩
      · left
        linarith
      · rw [← tie]
        exact (add_le_add_left far _).lt_or_eq.imp_right fun same => ⟨same, even⟩
    · have far : (countAt F (m + 1) : Rat) ≤ countAt F k := countAt_cast_le above
      rw [nearer_iff_of_lt ((countAt_cast_lt_succ F m).trans_le far)]
      rcases h.above (above.trans_le hk) with less | ⟨tie, even⟩
      · left
        linarith
      · rw [tie]
        exact (add_le_add_right far _).lt_or_eq.imp_right fun same => ⟨same, even⟩
  · rintro ⟨le, near⟩
    refine ⟨le, fun lt => ?_, ?_⟩
    · exact (nearer_iff_of_lt (countAt_cast_lt_succ F m)).mp (near (m + 1) lt (Nat.succ_ne_self m))
    · rintro j rfl
      exact (nearer_iff_of_gt (countAt_cast_lt_succ F j)).mp
        (near j (Nat.le_of_succ_le le) (Nat.succ_ne_self j).symm)

/-! ## Rounding a quotient -/

/-- A half goes to the even neighbour. -/
theorem nearestEven_tie (n d : Nat) (hd : 0 < d)
    (h : 2 * n = 2 * d * nearestEven n d + d ∨ 2 * d * nearestEven n d = 2 * n + d) :
    nearestEven n d % 2 = 0 := by
  have split := Nat.div_add_mod n d
  have small := Nat.mod_lt n hd
  have up : 2 * d * (n / d + 1) = 2 * (d * (n / d)) + 2 * d := by grind
  have same : 2 * d * (n / d) = 2 * (d * (n / d)) := by grind
  simp only [nearestEven] at h ⊢
  split at h
  · omega
  · split at h
    · omega
    · rw [if_neg (by omega), if_neg (by omega)]
      omega

/-- A quotient lies within half a unit of a significand `k`, which stands for `k` times `2 ^ e`. It is
less than the significands that have a bit too many, and has the leading bit unless `e` is zero. -/
structure Significand (F : Format) (q : Rat) (e k : Nat) : Prop where
  up : 2 * q ≤ (2 * k + 1) * 2 ^ e
  down : (2 * k - 1) * 2 ^ e ≤ 2 * q
  tie : 2 * q = (2 * k + 1) * 2 ^ e ∨ (2 * k - 1) * 2 ^ e = 2 * q → k % 2 = 0
  short : q < 2 * F.hiddenBit * 2 ^ e
  leading : 0 < e → F.hiddenBit * 2 ^ e ≤ q

namespace Significand

variable {q : Rat} {e k : Nat}

theorem le (h : Significand F q e k) : k ≤ 2 * F.hiddenBit := by
  have pos : (0 : Rat) < 2 ^ e := by positivity
  have lt : (2 * k - 1 : Rat) < 4 * F.hiddenBit :=
    lt_of_mul_lt_mul_right (by linarith [h.down, h.short]) pos.le
  have lt : 2 * k < 4 * F.hiddenBit + 1 := by
    have : (2 * k : Rat) < 4 * F.hiddenBit + 1 := by linarith
    exact_mod_cast this
  omega

theorem normal (h : Significand F q e k) : F.hiddenBit ≤ k ∨ e = 0 := by
  rcases Nat.eq_zero_or_pos e with zero | pos
  · exact .inr zero
  · left
    have unit : (0 : Rat) < 2 ^ e := by positivity
    have le : (2 * F.hiddenBit : Rat) ≤ 2 * k + 1 :=
      le_of_mul_le_mul_right (by linarith [h.up, h.leading pos]) unit
    have le : 2 * F.hiddenBit ≤ 2 * k + 1 := by exact_mod_cast le
    omega

theorem count (h : Significand F q e k) : (countAt F (e * F.hiddenBit + k) : Rat) = k * 2 ^ e := by
  rw [countAt_row h.le h.normal]
  push_cast
  rfl

theorem even (h : Significand F q e k)
    (tie : 2 * q = (2 * k + 1) * 2 ^ e ∨ (2 * k - 1) * 2 ^ e = 2 * q) :
    (e * F.hiddenBit + k) % 2 = 0 := by
  have row : e * F.hiddenBit % 2 = 0 := by rw [Nat.mul_mod, hiddenBit_even, Nat.mul_zero]
  have := h.tie tie
  omega

/-- The magnitude that the significand stands for is the one that the quotient rounds to. -/
theorem roundsTo (h : Significand F q e k) (le : e * F.hiddenBit + k ≤ infinityMagnitude F) :
    RoundsTo F q (e * F.hiddenBit + k) where
  le := le
  above := by
    intro _
    have unit : (0 : Rat) < 2 ^ e := by positivity
    rcases le_or_gt q (k * 2 ^ e) with low | high
    · left
      linarith [h.count, countAt_cast_lt_succ F (e * F.hiddenBit + k)]
    · have lt : (k : Rat) < (2 * F.hiddenBit : Nat) := by
        push_cast
        exact lt_of_mul_lt_mul_right (high.trans h.short) unit.le
      have lt : k < 2 * F.hiddenBit := by exact_mod_cast lt
      have next : (countAt F (e * F.hiddenBit + k + 1) : Rat) = (k + 1) * 2 ^ e := by
        rw [Nat.add_assoc, countAt_row lt (h.normal.imp_left Nat.le_succ_of_le)]
        push_cast
        rfl
      have sum : (k * 2 ^ e + (k + 1) * 2 ^ e : Rat) = (2 * k + 1) * 2 ^ e := by ring
      rw [h.count, next, sum]
      rcases h.up.lt_or_eq with less | eq
      · exact .inl less
      · exact .inr ⟨eq, h.even (.inl eq)⟩
  below := by
    intro j hj
    have unit : (0 : Rat) < 2 ^ e := by positivity
    rcases le_or_gt (k * 2 ^ e : Rat) q with high | low
    · left
      have less := countAt_cast_lt_succ F j
      rw [← hj] at less
      linarith [h.count]
    · have pos : 0 < k ∧ (F.hiddenBit < k ∨ e = 0) := by
        rcases Nat.eq_zero_or_pos e with rfl | some
        · exact ⟨by omega, .inr rfl⟩
        · have lt : (F.hiddenBit : Rat) < k :=
            lt_of_mul_lt_mul_right ((h.leading some).trans_lt low) unit.le
          have lt : F.hiddenBit < k := by exact_mod_cast lt
          exact ⟨by omega, .inl lt⟩
      have previous : (countAt F j : Rat) = (k - 1) * 2 ^ e := by
        have row : j = e * F.hiddenBit + (k - 1) := by omega
        have := h.le
        rw [row, countAt_row (by omega) (pos.2.imp_left Nat.le_sub_one_of_lt), Nat.cast_mul,
          Nat.cast_pred pos.1]
        push_cast
        rfl
      have sum : ((k - 1) * 2 ^ e + k * 2 ^ e : Rat) = (2 * k - 1) * 2 ^ e := by ring
      rw [h.count, previous, sum]
      rcases h.down.lt_or_eq with less | eq
      · exact .inl less
      · exact .inr ⟨eq, h.even (.inr eq)⟩

/-- With so many bits dropped the quotient is past the infinity's count. -/
theorem roundsTo_infinity (h : Significand F q e k)
    (past : infinityMagnitude F < e * F.hiddenBit + k) : RoundsTo F q (infinityMagnitude F) where
  le := le_rfl
  above := fun lt => absurd lt (lt_irrefl _)
  below := by
    intro j hj
    left
    have last : infinityMagnitude F = 2 * F.bias * F.hiddenBit + F.hiddenBit := by
      rw [infinityMagnitude, F.maxExponent_eq, Nat.succ_mul]
    have bias := F.bias_pos
    have dropped : 2 * F.bias ≤ e := by
      have rows : (2 * F.bias + 1) * F.hiddenBit < (e + 2) * F.hiddenBit := by
        have := h.le
        rw [Nat.add_mul, Nat.add_mul]
        omega
      have := Nat.lt_of_mul_lt_mul_right rows
      omega
    have reached : (countAt F (infinityMagnitude F) : Rat) ≤ q := by
      have lower : F.hiddenBit * 2 ^ (2 * F.bias) ≤ F.hiddenBit * 2 ^ e :=
        Nat.mul_le_mul_left _ (Nat.pow_le_pow_right (by decide) dropped)
      rw [last, countAt_row (by omega) (.inl le_rfl)]
      refine le_trans ?_ (h.leading (by omega))
      exact_mod_cast lower
    have less := countAt_cast_lt_succ F j
    rw [← hj] at less
    linarith

end Significand

section Quotient

variable {n d : Nat}

/-- The significand that is rounded has its leading bit at most where the format has it. -/
theorem lt_of_droppedBits (hd : 0 < d) :
    n < 2 * F.hiddenBit * (d * 2 ^ droppedBits F n d) := by
  have bits : (n / d).log2 + 1 ≤ F.fracBits + 1 + droppedBits F n d := by
    unfold droppedBits
    omega
  have lt : n / d < 2 * F.hiddenBit * 2 ^ droppedBits F n d := by
    calc n / d < 2 ^ ((n / d).log2 + 1) := Nat.lt_log2_self
      _ ≤ 2 ^ (F.fracBits + 1 + droppedBits F n d) := Nat.pow_le_pow_right (by decide) bits
      _ = 2 * F.hiddenBit * 2 ^ droppedBits F n d := by rw [pow_add, pow_succ', F.hiddenBit_eq]
  calc n < 2 * F.hiddenBit * 2 ^ droppedBits F n d * d := (Nat.div_lt_iff_lt_mul hd).mp lt
    _ = 2 * F.hiddenBit * (d * 2 ^ droppedBits F n d) := by ring

/-- If bits are dropped at all, the significand has its leading bit. -/
theorem le_of_droppedBits (hd : 0 < d) (some : 0 < droppedBits F n d) :
    F.hiddenBit * (d * 2 ^ droppedBits F n d) ≤ n := by
  have bits : F.fracBits + droppedBits F n d = (n / d).log2 := by
    unfold droppedBits at some ⊢
    omega
  have pos : n / d ≠ 0 := by
    intro none
    rw [none, Nat.log2_zero] at bits
    omega
  have le : F.hiddenBit * 2 ^ droppedBits F n d ≤ n / d := by
    rw [F.hiddenBit_eq, ← pow_add, bits]
    exact Nat.log2_self_le pos
  calc F.hiddenBit * (d * 2 ^ droppedBits F n d)
      = F.hiddenBit * 2 ^ droppedBits F n d * d := by ring
    _ ≤ n := (Nat.le_div_iff_mul_le hd).mp le

theorem nearestEven_significand (hd : 0 < d) :
    Significand F (n / d) (droppedBits F n d) (nearestEven n (d * 2 ^ droppedBits F n d)) := by
  have unit : 0 < d * 2 ^ droppedBits F n d := Nat.mul_pos hd (Nat.two_pow_pos _)
  obtain ⟨up, down⟩ := nearestEven_close n _ unit
  have tie := nearestEven_tie n _ unit
  have short := lt_of_droppedBits (F := F) (n := n) hd
  have leading := le_of_droppedBits (F := F) (n := n) hd
  have pos : (0 : Rat) < d := by exact_mod_cast hd
  generalize droppedBits F n d = e at *
  generalize nearestEven n (d * 2 ^ e) = k at *
  have double : (2 * (n / d) : Rat) = (2 * n : Nat) / d := by
    push_cast
    ring
  refine ⟨?_, ?_, ?_, ?_, ?_⟩
  · rw [double, div_le_iff₀ pos]
    have up : ((2 * n : Nat) : Rat) ≤ (2 * (d * 2 ^ e) * k + d * 2 ^ e : Nat) := by exact_mod_cast up
    push_cast at up ⊢
    linarith
  · rw [double, le_div_iff₀ pos]
    have down : ((2 * (d * 2 ^ e) * k : Nat) : Rat) ≤ (2 * n + d * 2 ^ e : Nat) := by exact_mod_cast down
    push_cast at down ⊢
    linarith
  · rw [double, div_eq_iff pos.ne', eq_div_iff pos.ne']
    rintro (above | below)
    · apply tie
      left
      have : ((2 * n : Nat) : Rat) = (2 * (d * 2 ^ e) * k + d * 2 ^ e : Nat) := by
        rw [above]
        push_cast
        ring
      exact_mod_cast this
    · apply tie
      right
      have : ((2 * (d * 2 ^ e) * k : Nat) : Rat) = (2 * n + d * 2 ^ e : Nat) := by
        push_cast at below ⊢
        linarith
      exact_mod_cast this
  · rw [div_lt_iff₀ pos]
    have short : (n : Rat) < (2 * F.hiddenBit * (d * 2 ^ e) : Nat) := by exact_mod_cast short
    push_cast at short
    linarith
  · intro some
    rw [le_div_iff₀ pos]
    have leading : ((F.hiddenBit * (d * 2 ^ e) : Nat) : Rat) ≤ n := by exact_mod_cast leading some
    push_cast at leading
    linarith

/-- **Rounding gives the magnitude that the quotient rounds to.** -/
theorem roundsTo_roundedMagnitude (hd : 0 < d) : RoundsTo F (n / d) (roundedMagnitude F n d) := by
  have h := nearestEven_significand (F := F) (n := n) hd
  rw [roundedMagnitude, Nat.shiftLeft_eq]
  rcases Nat.lt_or_ge (infinityMagnitude F) (droppedBits F n d * F.hiddenBit +
    nearestEven n (d * 2 ^ droppedBits F n d)) with past | fits
  · rw [Nat.min_eq_right past.le]
    exact h.roundsTo_infinity past
  · rw [Nat.min_eq_left fits]
    exact h.roundsTo fits

/-- A quotient is rounded to a number if it rounds to the number's magnitude. -/
theorem ofRatio_eq_iff (hd : 0 < d) {s : Bool} {x : Binary F} :
    ofRatio F s n d = x ↔ s = x.negative ∧ RoundsTo F (n / d) x.magnitude := by
  have rounded := roundsTo_roundedMagnitude (F := F) (n := n) hd
  constructor
  · rintro rfl
    refine ⟨rfl, ?_⟩
    rw [ofRatio, magnitude_ofMagnitude rounded.le]
    exact rounded
  · rintro ⟨rfl, own⟩
    rw [ofRatio, rounded.unique own, ofMagnitude_magnitude]

end Quotient

end TracedMath.Binary
