/-!
What can be wrong with a text as JSON. Each error is a cause; its wording is
given by `message`.
-/

namespace TypeResolution.Json

/-- What a text can end in the middle of. -/
inductive Unfinished
  | value
  | list
  | object
  | string
  deriving DecidableEq

inductive SyntaxError
  | ended (within : Unfinished)
  | expectedValue
  | expectedIdent
  | invalidNumber
  | numberOutOfRange
  | keyNotString
  | expectedColon
  | expectedCommaOrBrace
  | expectedCommaOrBracket
  | trailingComma
  | trailingCharacters
  | invalidEscape
  | loneSurrogate
  | unfinishedSurrogatePair
  | controlCharacter
  | tooDeep
  deriving DecidableEq

def Unfinished.message : Unfinished → String
  | value => "EOF while parsing a value"
  | list => "EOF while parsing a list"
  | object => "EOF while parsing an object"
  | string => "EOF while parsing a string"

def SyntaxError.message : SyntaxError → String
  | ended within => within.message
  | expectedValue => "expected value"
  | expectedIdent => "expected ident"
  | invalidNumber => "invalid number"
  | numberOutOfRange => "number out of range"
  | keyNotString => "key must be a string"
  | expectedColon => "expected `:`"
  | expectedCommaOrBrace => "expected `,` or `\x7d`"
  | expectedCommaOrBracket => "expected `,` or `]`"
  | trailingComma => "trailing comma"
  | trailingCharacters => "trailing characters"
  | invalidEscape => "invalid escape"
  | loneSurrogate => "lone leading surrogate in hex escape"
  | unfinishedSurrogatePair => "unexpected end of hex escape"
  | controlCharacter => "control character (\\u0000-\\u001F) found while parsing a string"
  | tooDeep => "recursion limit exceeded"

end TypeResolution.Json
