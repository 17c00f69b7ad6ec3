import TypeResolution.Json.Basic
import TypeResolution.Json.SyntaxError
import TypeResolution.Numeral.Scaling

/-!
Numbers as they are written in a JSON text, read one character at a time, and their values.
The digits are gathered in 64 bits. Those for which there is no room only count as places,
and behind the point not even so.
-/

namespace TypeResolution.Json

/-- A number as far as it is written. The significand holds the digits that have been taken
in; `shift` counts the digits before the point that were not, less those behind it that were.
Once it is `full`, no further digit is taken in on the same side of the point. -/
structure WrittenNumber where
  negative : Bool
  significand : UInt64
  shift : Int
  full : Bool
  integral : Bool
  negativePower : Bool
  power : Nat

inductive NumberPlace
  | sign
  | zero
  | whole
  | point
  | fraction
  | mark
  | powerSign
  | power
  deriving DecidableEq

inductive NumberStep
  | reading (place : NumberPlace) (n : WrittenNumber)
  | complete
  | malformed

namespace WrittenNumber

def digitValue (c : Char) : Nat := c.toNat - '0'.toNat

def start (negative : Bool) : WrittenNumber := ⟨negative, 0, 0, false, true, false, 0⟩

def extended (n : WrittenNumber) (c : Char) : Nat := n.significand.toNat * 10 + digitValue c

def hasRoom (n : WrittenNumber) (c : Char) : Bool := !n.full && n.extended c < UInt64.size

def addDigit (n : WrittenNumber) (c : Char) : WrittenNumber :=
  if n.hasRoom c then { n with significand := .ofNat (n.extended c) }
  else { n with shift := n.shift + 1, full := true }

def addDecimal (n : WrittenNumber) (c : Char) : WrittenNumber :=
  if n.hasRoom c then { n with significand := .ofNat (n.extended c), shift := n.shift - 1 }
  else { n with full := true }

def addPower (n : WrittenNumber) (c : Char) : WrittenNumber :=
  { n with power := n.power * 10 + digitValue c }

/-- Behind the point digits are taken in again, if there is room for them. -/
def atPoint (n : WrittenNumber) : WrittenNumber := { n with integral := false, full := false }

def atMark (n : WrittenNumber) : WrittenNumber := { n with integral := false }

def afterWhole (n : WrittenNumber) (c : Char) : NumberStep :=
  if c = '.' then .reading .point n.atPoint
  else if c = 'e' ∨ c = 'E' then .reading .mark n.atMark
  else .complete

def next (n : WrittenNumber) (c : Char) : NumberPlace → NumberStep
  | .sign =>
    if c = '0' then .reading .zero n
    else if c.isDigit then .reading .whole (n.addDigit c)
    else .malformed
  | .zero => if c.isDigit then .malformed else n.afterWhole c
  | .whole => if c.isDigit then .reading .whole (n.addDigit c) else n.afterWhole c
  | .point => if c.isDigit then .reading .fraction (n.addDecimal c) else .malformed
  | .fraction =>
    if c.isDigit then .reading .fraction (n.addDecimal c)
    else if c = 'e' ∨ c = 'E' then .reading .mark n.atMark
    else .complete
  | .mark =>
    if c = '+' then .reading .powerSign n
    else if c = '-' then .reading .powerSign { n with negativePower := true }
    else if c.isDigit then .reading .power (n.addPower c)
    else .malformed
  | .powerSign => if c.isDigit then .reading .power (n.addPower c) else .malformed
  | .power => if c.isDigit then .reading .power (n.addPower c) else .complete

-- The significand is a whole number of units of this power of ten.
def exponent (n : WrittenNumber) : Int :=
  n.shift + if n.negativePower then -(n.power : Int) else n.power

/-- The greatest power that is looked at; of a greater one only the direction counts. -/
def greatestPower : Nat := 0x7fffffff

def float? (n : WrittenNumber) : Option Numeral.Binary64 :=
  if n.power ≤ greatestPower then
    Numeral.Binary64.ofParts? n.negative n.significand.toNat n.exponent
  else if n.significand = 0 ∨ n.negativePower then some (.zero n.negative)
  else none

theorem float?_of_zero {n : WrittenNumber} (h : n.significand = 0) :
    n.float? = some (.zero n.negative) := by
  unfold float?
  split
  · rw [h]
    exact Numeral.Binary64.ofParts?_zero n.negative n.exponent
  · rw [if_pos (.inl h)]

/-- Whether the number is an integer within 64 bits: unsigned, or signed if it
is negative. A negative zero is not. -/
def fits (n : WrittenNumber) : Bool :=
  n.integral && !n.full &&
    (!n.negative || n.significand.toNat != 0 && n.significand.toNat ≤ 0x8000000000000000)

def number? (n : WrittenNumber) : Except SyntaxError Number :=
  if n.fits then
    .ok (.integer (if n.negative then -(n.significand.toNat : Int) else n.significand.toNat))
  else
    match n.float? with
    | some x => .ok (.float x)
    | none => .error .numberOutOfRange

end WrittenNumber

def NumberPlace.mayEnd : NumberPlace → Bool
  | sign | point | mark | powerSign => false
  | zero | whole | fraction | power => true

end TypeResolution.Json
