import TracedMath.Decimal.Basic

/-!
The shortest decimal that reads back to a number. Of a given count of digits only the two decimals
next to the exact value can be the nearest one, so these two are tried for one digit, two digits and
so on.
-/

namespace TracedMath.Binary

variable {F : Format}

/-- The decimal of `places` digits that reads back to `x` and is nearest to its exact value. Of two
equally near ones it is the larger. -/
def withPlaces? (x : Binary F) (exact : Decimal) (length places : Nat) : Option Decimal :=
  let dropped := length - places
  let below := exact.truncate dropped
  let above := below.next places
  if below.toBinary F = x then
    let rest := exact.coefficient % Nat.pow 10 dropped
    if above.toBinary F = x ∧ Nat.pow 10 dropped ≤ 2 * rest then some above
    else some below
  else if above.toBinary F = x then some above
  else none

/-- The exact value itself is the last resort. -/
def shortestDecimal (x : Binary F) : Decimal :=
  if x.scaledMagnitude = 0 then ⟨x.negative, 0, 0⟩
  else
    let exact := x.exactDecimal
    let length := exact.digits.length
    ((List.range length).findSome? fun i => x.withPlaces? exact length (i + 1)).getD exact

theorem withPlaces?_reads_back {x : Binary F} {exact d : Decimal} {length places : Nat}
    (h : x.withPlaces? exact length places = some d) : d.toBinary F = x := by
  unfold withPlaces? at h
  grind

end TracedMath.Binary
