import TypeResolution.Numeral.Binary64

/-!
The shortest decimal that reads back as a given binary number. Of the decimals
with the fewest digits the nearest one is taken, and of two that are equally
near the one with the even last digit.
-/

namespace TypeResolution.Numeral.Binary64

def leadingPlace (num den : Nat) : Int :=
  let e : Int := (Nat.toDigits 10 num).length - (Nat.toDigits 10 den).length
  let scaled := scaleDown 10 num den e
  if scaled.2 ≤ scaled.1 then e else e - 1

/-- The decimal in units of `10 ^ place` that reads back as `x`, if there is
one. Only the two neighbours of `x` in these units are looked at. -/
def decimalAt? (x : Binary64) (place : Int) : Option Decimal :=
  let scaled := scaleDown 10 x.toQuotient.1 x.toQuotient.2 place
  let below : Decimal := ⟨scaled.1 / scaled.2, place⟩
  let above : Decimal := ⟨scaled.1 / scaled.2 + 1, place⟩
  let readsBack (d : Decimal) : Bool := ofDecimal? x.negative d == some x
  if readsBack below && readsBack above then
    some ⟨roundQuotient scaled.1 scaled.2, place⟩
  else if readsBack below then some below
  else if readsBack above then some above
  else none

/-- The shortest decimal for the absolute value of `x`. Seventeen digits are
always enough. -/
def shortestDecimal (x : Binary64) : Decimal :=
  let leading := leadingPlace x.toQuotient.1 x.toQuotient.2
  ((List.range 17).findSome? fun (n : Nat) => x.decimalAt? (leading - n)).getD ⟨0, 0⟩

end TypeResolution.Numeral.Binary64
