import TypeResolution.Numeral.Binary64

/-!
Reading a decimal by scaling: its digits are rounded to a binary number, which is then
multiplied or divided by powers of ten. Every step rounds, so the last bits can differ from
those of the nearest number (`Binary64.ofDecimal?`), and what is read overflows when a step
does.
-/

namespace TypeResolution.Numeral.Binary64

def nearest? (num den : Nat) : Option Binary64 :=
  if num = 0 then some (zero false) else ofQuotient? false num den

theorem nearest?_zero (den : Nat) : nearest? 0 den = some (zero false) := rfl

def times? (x y : Binary64) : Option Binary64 :=
  nearest? (x.toQuotient.1 * y.toQuotient.1) (x.toQuotient.2 * y.toQuotient.2)

def over? (x y : Binary64) : Option Binary64 :=
  nearest? (x.toQuotient.1 * y.toQuotient.2) (x.toQuotient.2 * y.toQuotient.1)

def greatestPower : Nat := 308

def powerOfTen? (n : Nat) : Option Binary64 := nearest? (Nat.pow 10 n) 1

def scaledOnce? (x : Binary64) (exponent : Int) : Option Binary64 :=
  (powerOfTen? exponent.natAbs).bind fun power =>
    if 0 ≤ exponent then x.times? power else x.over? power

/-- The number `x * 10 ^ exponent`. Where it has to become smaller by more than the greatest
power, it is divided by that power until it is zero or the rest takes one step. -/
def scaled? (x : Binary64) (exponent : Int) : Option Binary64 :=
  if exponent.natAbs ≤ greatestPower then x.scaledOnce? exponent
  else if x.significand = 0 then some x
  else if 0 ≤ exponent then none
  else (x.scaledOnce? (-greatestPower)).bind (·.scaled? (exponent + greatestPower))
termination_by exponent.natAbs
decreasing_by
  unfold greatestPower at *
  omega

/-- The number read for `significand * 10 ^ exponent`, unless a step overflows. -/
def ofParts? (negative : Bool) (significand : Nat) (exponent : Int) : Option Binary64 :=
  ((nearest? significand 1).bind (·.scaled? exponent)).map fun x => { x with negative := negative }

-- Seventeen digits may not fit into 53 bits. These are rounded, and what the division makes of
-- them is the number nearest to another decimal.
example :
    (nearest? 51248178375505404 1).bind (·.scaledOnce? (-15)) =
        ofDecimal? false ⟨5124817837550541, -14⟩ ∧
      ofDecimal? false ⟨51248178375505404, -15⟩ ≠ ofDecimal? false ⟨5124817837550541, -14⟩ := by
  decide +kernel

theorem isSome_powerOfTen? {n : Nat} (h : n ≤ greatestPower) : (powerOfTen? n).isSome = true := by
  have hall : ∀ m : Fin (greatestPower + 1), (powerOfTen? m).isSome = true := by decide +kernel
  exact hall ⟨n, Nat.lt_succ_of_le h⟩

theorem scaledOnce?_zero {exponent : Int} (h : exponent.natAbs ≤ greatestPower) :
    (zero false).scaledOnce? exponent = some (zero false) := by
  obtain ⟨power, hpower⟩ := Option.isSome_iff_exists.1 (isSome_powerOfTen? h)
  have htoQuotient : (zero false).toQuotient.1 = 0 := rfl
  rw [scaledOnce?, hpower, Option.bind_some, times?, over?, htoQuotient, Nat.zero_mul,
    Nat.zero_mul, nearest?_zero, nearest?_zero, ite_self]

/-- Zero is read as zero, whatever its power of ten. -/
theorem ofParts?_zero (negative : Bool) (exponent : Int) :
    ofParts? negative 0 exponent = some (zero negative) := by
  have hscaled : (zero false).scaled? exponent = some (zero false) := by
    unfold scaled?
    split
    · exact scaledOnce?_zero ‹_›
    · rfl
  rw [ofParts?, nearest?_zero, Option.bind_some, hscaled]
  rfl

end TypeResolution.Numeral.Binary64
