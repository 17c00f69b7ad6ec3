import TypeResolution.Json.SyntaxError

/-!
Strings as they are written in a JSON text, read one character at a time: what
each character adds, and how an escape is resolved. A character above `0xFFFF`
may be escaped as a pair of surrogates.
-/

namespace TypeResolution.Json

/-- Where in a string the lexer is: in plain text, after a backslash, before the
given number of missing digits of a code, or after a high surrogate, whose low
partner must follow. -/
inductive StringPlace
  | plain
  | escape
  | code (missing value : Nat) (high : Option Nat)
  | partner (high : Nat)
  | partnerEscape (high : Nat)

inductive StringStep
  | reading (place : StringPlace)
  | adding (c : Char)
  | complete
  | malformed (e : SyntaxError)

def hexValue? (c : Char) : Option Nat :=
  if c.isDigit then some (c.toNat - '0'.toNat)
  else if 'a' ≤ c ∧ c ≤ 'f' then some (c.toNat - 'a'.toNat + 10)
  else if 'A' ≤ c ∧ c ≤ 'F' then some (c.toNat - 'A'.toNat + 10)
  else none

def isHighSurrogate (code : Nat) : Bool := 0xD800 ≤ code && code ≤ 0xDBFF

def isLowSurrogate (code : Nat) : Bool := 0xDC00 ≤ code && code ≤ 0xDFFF

def pairChar (high low : Nat) : Char :=
  Char.ofNat (0x10000 + (high - 0xD800) * 0x400 + (low - 0xDC00))

def ofCode (code : Nat) : Option Nat → StringStep
  | none =>
    if isLowSurrogate code then .malformed .loneSurrogate
    else if isHighSurrogate code then .reading (.partner code)
    else .adding (Char.ofNat code)
  | some high =>
    if isLowSurrogate code then .adding (pairChar high code) else .malformed .loneSurrogate

/-- The start of a code. Four bytes of text must be left for its digits. -/
def startCode (high : Option Nat) (rest : List Char) : StringStep :=
  if (rest.take 4).foldl (fun bytes c => bytes + c.utf8Size) 0 < 4 then .malformed (.ended .string)
  else .reading (.code 4 0 high)

def escaped (c : Char) (rest : List Char) : StringStep :=
  if c = '"' ∨ c = '\\' ∨ c = '/' then .adding c
  else if c = 'b' then .adding '\x08'
  else if c = 'f' then .adding '\x0c'
  else if c = 'n' then .adding '\n'
  else if c = 'r' then .adding '\r'
  else if c = 't' then .adding '\t'
  else if c = 'u' then startCode none rest
  else .malformed .invalidEscape

def StringPlace.next (c : Char) (rest : List Char) : StringPlace → StringStep
  | plain =>
    if c = '"' then .complete
    else if c = '\\' then .reading .escape
    else if c.toNat < 0x20 then .malformed .controlCharacter
    else .adding c
  | escape => escaped c rest
  | code missing value high =>
    match hexValue? c with
    | none => .malformed .invalidEscape
    | some digit =>
      if missing ≤ 1 then ofCode (value * 16 + digit) high
      else .reading (.code (missing - 1) (value * 16 + digit) high)
  | partner high =>
    if c = '\\' then .reading (.partnerEscape high) else .malformed .unfinishedSurrogatePair
  | partnerEscape high =>
    if c = 'u' then startCode (some high) rest else .malformed .unfinishedSurrogatePair

end TypeResolution.Json
