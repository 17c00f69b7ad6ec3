import TypeResolution.Text.Lowercase

/-!
Names in snake case: the words of a camel-case name are set off by underscores
and lowered. Only ASCII letters and digits decide where a word starts; the
lowering is that of all letters.
-/

namespace TypeResolution.Text

/-- Whether a word starts at `c`: a capital that follows a small letter or a
digit, or that a small letter follows. -/
def startsWord (before c : Char) (after : Option Char) : Bool :=
  c.isUpper && (before.isLower || before.isDigit || after.any Char.isLower)

def separateAfter (before : Char) : List Char → List Char
  | [] => []
  | c :: cs =>
    if startsWord before c cs.head? then '_' :: c :: separateAfter c cs
    else c :: separateAfter c cs

def separateWords : List Char → List Char
  | [] => []
  | c :: cs => c :: separateAfter c cs

/-- The snake-case form of a camel-case name: `HTTPServer2Go` gives
`http_server2_go`. -/
def snakeCase (name : String) : String :=
  String.ofList (lowercase (separateWords name.toList))

end TypeResolution.Text
