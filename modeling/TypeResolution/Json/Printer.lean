import TypeResolution.Json.Basic
import TypeResolution.Numeral.Shortest

/-!
The text of a JSON value. Compact text has no blanks; indented text gives every
element and member a line of its own. Strings escape the quotation mark, the
backslash and the control characters only.
-/

namespace TypeResolution.Json

open Numeral

/-! ### Numbers -/

def integerText : Int → List Char
  | .ofNat n => Nat.toDigits 10 n
  | .negSucc n => '-' :: Nat.toDigits 10 (n + 1)

/-- Exponents of the leading digit for which a floating-point number is written
without an exponent. -/
def writtenPlainly (exponent : Int) : Bool := -5 ≤ exponent && exponent ≤ 15

/-- The text of `0.d₁d₂d₃… * 10 ^ (exponent + 1)`. A point is always there, an
exponent always has a sign. -/
def decimalText (digits : List Char) (exponent : Int) : List Char :=
  if writtenPlainly exponent then
    if 0 ≤ exponent then
      let whole := exponent.toNat + 1
      let fraction := digits.drop whole
      digits.take whole ++ List.replicate (whole - digits.length) '0' ++
        '.' :: (if fraction = [] then ['0'] else fraction)
    else '0' :: '.' :: List.replicate (-exponent - 1).toNat '0' ++ digits
  else
    let fraction := digits.drop 1
    digits.take 1 ++ (if fraction = [] then [] else '.' :: fraction) ++
      'e' :: (if 0 ≤ exponent then '+' else '-') :: Nat.toDigits 10 exponent.natAbs

def significantDigits (d : Decimal) : List Char :=
  ((Nat.toDigits 10 d.digits).reverse.dropWhile (· = '0')).reverse

def floatText (x : Binary64) : List Char :=
  let sign := if x.negative then ['-'] else []
  if x.significand = 0 then sign ++ ['0', '.', '0']
  else
    let d := x.shortestDecimal
    sign ++ decimalText (significantDigits d) ((Nat.toDigits 10 d.digits).length - 1 + d.exponent)

def numberText : Number → List Char
  | .integer value => integerText value
  | .float value => floatText value

/-! ### Strings -/

def hexDigit (n : Nat) : Char := Nat.digitChar n

/-- A control character is written with its short escape if it has one, else by
its code point. -/
def controlText (c : Char) : List Char :=
  if c = '\x08' then ['\\', 'b']
  else if c = '\x0c' then ['\\', 'f']
  else if c = '\n' then ['\\', 'n']
  else if c = '\r' then ['\\', 'r']
  else if c = '\t' then ['\\', 't']
  else ['\\', 'u', '0', '0', hexDigit (c.toNat / 16), hexDigit (c.toNat % 16)]

def charText (c : Char) : List Char :=
  if c = '"' then ['\\', '"']
  else if c = '\\' then ['\\', '\\']
  else if c.toNat < 0x20 then controlText c
  else [c]

def stringText (s : String) : List Char := '"' :: s.toList.flatMap charText ++ ['"']

def scalarText : Scalar → List Char
  | .null => "null".toList
  | .bool true => "true".toList
  | .bool false => "false".toList
  | .number value => numberText value
  | .string value => stringText value

/-! ### Compact text -/

mutual
def compactText : Json → List Char
  | .scalar value => scalarText value
  | .array elements => '[' :: compactElements elements ++ [']']
  | .object members => '\x7b' :: compactMembers members ++ ['\x7d']

def compactElements : List Json → List Char
  | [] => []
  | element :: elements => compactText element ++ compactFurtherElements elements

def compactFurtherElements : List Json → List Char
  | [] => []
  | element :: elements => ',' :: compactText element ++ compactFurtherElements elements

def compactMembers : List (String × Json) → List Char
  | [] => []
  | (name, value) :: members =>
    stringText name ++ ':' :: compactText value ++ compactFurtherMembers members

def compactFurtherMembers : List (String × Json) → List Char
  | [] => []
  | (name, value) :: members =>
    ',' :: stringText name ++ ':' :: compactText value ++ compactFurtherMembers members
end

def compact (j : Json) : String := String.ofList j.compactText

/-! ### Indented text -/

def lineStart (depth : Nat) : List Char := '\n' :: List.replicate (2 * depth) ' '

mutual
def indentedText (depth : Nat) : Json → List Char
  | .scalar value => scalarText value
  | .array [] => ['[', ']']
  | .array (element :: elements) =>
    '[' :: lineStart (depth + 1) ++ indentedText (depth + 1) element ++
      indentedElements (depth + 1) elements ++ lineStart depth ++ [']']
  | .object [] => ['\x7b', '\x7d']
  | .object ((name, value) :: members) =>
    '\x7b' :: lineStart (depth + 1) ++ stringText name ++ ':' :: ' ' ::
      indentedText (depth + 1) value ++ indentedMembers (depth + 1) members ++
      lineStart depth ++ ['\x7d']

def indentedElements (depth : Nat) : List Json → List Char
  | [] => []
  | element :: elements =>
    ',' :: lineStart depth ++ indentedText depth element ++ indentedElements depth elements

def indentedMembers (depth : Nat) : List (String × Json) → List Char
  | [] => []
  | (name, value) :: members =>
    ',' :: lineStart depth ++ stringText name ++ ':' :: ' ' :: indentedText depth value ++
      indentedMembers depth members
end

/-- The value with a line for every element and member, each depth indented by
two blanks. -/
def indented (j : Json) : String := String.ofList (j.indentedText 0)

end TypeResolution.Json
