import TypeResolution.Json.WrittenNumber
import TypeResolution.Json.WrittenString

/-!
The tokens of a JSON text. The lexer goes through the text one character at a
time; its state says what the characters since the last token can still become.
A text that stops being JSON inside a token gives an erroneous token, and what
follows it has no meaning.
-/

namespace TypeResolution.Json

/-- A token; a string, a number or a word may be erroneous. -/
inductive Token
  | openArray
  | closeArray
  | openObject
  | closeObject
  | comma
  | colon
  | string (content : Except SyntaxError String)
  | literal (value : Except SyntaxError Scalar)
  | stray

/-- What the lexer is in the middle of: nothing, a word of which some characters
are still to come, a number, or a string of which the characters read so far are
kept in reverse. -/
inductive Lexing
  | between
  | word (rest : List Char) (value : Scalar)
  | number (place : NumberPlace) (n : WrittenNumber)
  | string (place : StringPlace) (read : List Char)

def WrittenNumber.token (n : WrittenNumber) : Token := .literal (n.number?.map .number)

namespace Lexing

def isBlank (c : Char) : Bool := c = ' ' || c = '\t' || c = '\n' || c = '\r'

def start (c : Char) : List Token × Lexing :=
  if isBlank c then ([], between)
  else if c = '[' then ([.openArray], between)
  else if c = ']' then ([.closeArray], between)
  else if c = '\x7b' then ([.openObject], between)
  else if c = '\x7d' then ([.closeObject], between)
  else if c = ',' then ([.comma], between)
  else if c = ':' then ([.colon], between)
  else if c = '"' then ([], string .plain [])
  else if c = 't' then ([], word ['r', 'u', 'e'] (.bool true))
  else if c = 'f' then ([], word ['a', 'l', 's', 'e'] (.bool false))
  else if c = 'n' then ([], word ['u', 'l', 'l'] .null)
  else if c = '-' then ([], number .sign (WrittenNumber.start true))
  else if c = '0' then ([], number .zero (WrittenNumber.start false))
  else if c.isDigit then ([], number .whole ((WrittenNumber.start false).addDigit c))
  else ([.stray], between)

/-- The tokens that the character `c` completes, and what the lexer is in the
middle of after it; `rest` is the text after `c`. -/
def next (c : Char) (rest : List Char) : Lexing → List Token × Lexing
  | between => start c
  | word [] _ => start c
  | word (expected :: further) value =>
    if c ≠ expected then ([.literal (.error .expectedIdent)], between)
    else if further = [] then ([.literal (.ok value)], between)
    else ([], word further value)
  | number place n =>
    match n.next c place with
    | .reading place n => ([], number place n)
    | .complete => (n.token :: (start c).1, (start c).2)
    | .malformed => ([.literal (.error .invalidNumber)], between)
  | string place read =>
    match place.next c rest with
    | .reading place => ([], string place read)
    | .adding c => ([], string .plain (c :: read))
    | .complete => ([.string (.ok (String.ofList read.reverse))], between)
    | .malformed e => ([.string (.error e)], between)

def atEnd : Lexing → List Token
  | between => []
  | word _ _ => [.literal (.error (.ended .value))]
  | number place n =>
    if place.mayEnd then [n.token] else [.literal (.error (.ended .value))]
  | string _ _ => [.string (.error (.ended .string))]

def tokens : Lexing → List Char → List Token
  | state, [] => state.atEnd
  | state, c :: rest => (state.next c rest).1 ++ tokens (state.next c rest).2 rest

end Lexing

def tokenize (text : String) : List Token := Lexing.between.tokens text.toList

end TypeResolution.Json
