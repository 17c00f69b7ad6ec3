import TypeResolution.Text.CaseTable

/-!
Full lowercasing of Unicode text. Each character is lowered by itself, apart
from the capital sigma, which becomes a final sigma at the end of a word.
-/

namespace TypeResolution.Text

def isCaseIgnorable (c : Char) : Bool := inRanges caseIgnorableRanges c.toNat

def isCased (c : Char) : Bool := inRanges casedRanges c.toNat

def lowercaseChar (c : Char) : List Char :=
  if c = 'İ' then ['i', '\u0307']
  else [((lowercaseRanges.findSome? (·.lower? c.toNat)).map Char.ofNat).getD c]

/-- Whether the first character that is not case-ignorable is a cased letter. -/
def startsCased (cs : List Char) : Bool :=
  match cs.dropWhile isCaseIgnorable with
  | [] => false
  | c :: _ => isCased c

/-- Lowers `cs`, given whether the nearest character before it that is not
case-ignorable is a cased letter. A capital sigma is final when such a letter
precedes it and none follows. -/
def lowercaseAfter (cased : Bool) : List Char → List Char
  | [] => []
  | c :: cs =>
    let here :=
      if c = 'Σ' then (if cased && !startsCased cs then ['ς'] else ['σ']) else lowercaseChar c
    here ++ lowercaseAfter (if isCaseIgnorable c then cased else isCased c) cs

def lowercase (cs : List Char) : List Char := lowercaseAfter false cs

end TypeResolution.Text
