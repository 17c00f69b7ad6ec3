/-!
Binary floating-point numbers with 53 significant bits, as exact values, and the
number nearest to a given decimal. All arithmetic is on natural numbers and
integers.
-/

namespace TypeResolution.Numeral

/-- The value `digits * 10 ^ exponent`. -/
structure Decimal where
  digits : Nat
  exponent : Int
  deriving DecidableEq

/-- A finite number of absolute value `significand * 2 ^ exponent`. The
significand is below `2 ^ 53`, and below `2 ^ 52` only at the least exponent. -/
structure Binary64 where
  negative : Bool
  significand : Nat
  exponent : Int
  deriving DecidableEq

namespace Binary64

def leastExponent : Int := -1074

def greatestExponent : Int := 971

def leastFull : Nat := 0x10000000000000

def zero (negative : Bool) : Binary64 := ⟨negative, 0, leastExponent⟩

/-- The whole number nearest to a quotient; a half goes to the even neighbour.
-/
def roundQuotient (num den : Nat) : Nat :=
  if 2 * (num % den) < den ∨ (2 * (num % den) = den ∧ num / den % 2 = 0) then num / den
  else num / den + 1

/-- The quotient `num / den` divided by `base ^ e`, as a quotient. -/
def scaleDown (base num den : Nat) (e : Int) : Nat × Nat :=
  if 0 ≤ e then (num, den * Nat.pow base e.toNat) else (num * Nat.pow base (-e).toNat, den)

/-- The exponent of the last significant bit of a positive quotient. -/
def lastPlace (num den : Nat) : Int :=
  let e : Int := num.log2 - den.log2 - 52
  let scaled := scaleDown 2 num den e
  let place := if scaled.1 / scaled.2 < leastFull then e - 1 else e
  if place < leastExponent then leastExponent else place

def ofQuotient? (negative : Bool) (num den : Nat) : Option Binary64 :=
  let e := lastPlace num den
  let scaled := scaleDown 2 num den e
  let significand := roundQuotient scaled.1 scaled.2
  let rounded : Binary64 :=
    if significand = 2 * leastFull then ⟨negative, leastFull, e + 1⟩ else ⟨negative, significand, e⟩
  if rounded.exponent ≤ greatestExponent then some rounded else none

/-- The number nearest to a decimal, unless it is too large for the format. A
decimal whose leading digit stands far outside the range of the format is not
computed with. -/
def ofDecimal? (negative : Bool) (d : Decimal) : Option Binary64 :=
  let magnitude : Int := (Nat.toDigits 10 d.digits).length + d.exponent
  if d.digits = 0 ∨ magnitude < -330 then some (zero negative)
  else if 310 < magnitude then none
  else if 0 ≤ d.exponent then ofQuotient? negative (d.digits * Nat.pow 10 d.exponent.toNat) 1
  else ofQuotient? negative d.digits (Nat.pow 10 (-d.exponent).toNat)

def toQuotient (x : Binary64) : Nat × Nat :=
  if 0 ≤ x.exponent then (x.significand * Nat.pow 2 x.exponent.toNat, 1)
  else (x.significand, Nat.pow 2 (-x.exponent).toNat)

end Binary64

end TypeResolution.Numeral
