import TracedMath.Decimal.Shortest

namespace TracedMath

namespace Decimal

/-- Zeros fill the places down to the units. Only places below the units call for a point. -/
def plain (d : Decimal) : List Char :=
  let sign := if d.negative then ['-'] else []
  if 0 ≤ d.exponent then sign ++ d.digits ++ List.replicate d.exponent.toNat '0'
  else
    let places := (-d.exponent).toNat
    let padded := d.digits.leftpad (places + 1) '0'
    let whole := padded.length - places
    sign ++ padded.take whole ++ '.' :: padded.drop whole

/-- Takes a sign, digits and, after a point, more digits. -/
def read? (text : List Char) : Option Decimal :=
  let negative := text.head? == some '-'
  let body := if negative then text.tail else text
  let whole := body.takeWhile Char.isDigit
  match body.dropWhile Char.isDigit with
  | [] => if whole = [] then none else some ⟨negative, Nat.ofDigitChars 10 whole 0, 0⟩
  | '.' :: places =>
    if whole = [] ∨ places = [] ∨ !places.all Char.isDigit then none
    else some ⟨negative, Nat.ofDigitChars 10 (whole ++ places) 0, -places.length⟩
  | _ => none

end Decimal

/-- A NaN is written without a sign. -/
def Binary.text {F : Format} (x : Binary F) : String :=
  if x.isNaN then "NaN"
  else if x.isInfinite then if x.negative then "-inf" else "inf"
  else String.ofList x.shortestDecimal.plain

end TracedMath
