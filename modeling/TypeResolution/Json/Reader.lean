import TypeResolution.Json.Lexer
import TypeResolution.Json.Reading

/-!
Reading JSON from its tokens. The reader keeps the containers that are open
around the place where it is, innermost first, and stops at the first token that
cannot stand there.
-/

namespace TypeResolution.Json

/-- An open container: an array with the elements before the current one, or an
object with the members before the current one and the name of that member. What
is before is kept in reverse. -/
inductive Frame
  | array (before : List Reading)
  | member (before : List (String × Reading)) (name : String)

/-- What the reader has just passed in the innermost container, and so what may
come next. -/
inductive Place
  | value
  | openedArray
  | element (before : List Reading)
  | elementComma (before : List Reading)
  | openedObject
  | name (before : List (String × Reading)) (name : String)
  | member (before : List (String × Reading))
  | memberComma (before : List (String × Reading))
  | finished (root : Reading)

def depthLimit : Nat := 127

/-- The whole reading when the innermost value is `r` and nothing can be read
after it. -/
def breakOff (e : SyntaxError) (r : Reading) : List Frame → Reading
  | [] => r
  | .array before :: frames => breakOff e (.array (r :: before).reverse (some e)) frames
  | .member before name :: frames =>
    breakOff e (.object ((name, r) :: before).reverse (some e)) frames

def Place.endError : Place → SyntaxError
  | value | elementComma _ | memberComma _ => .ended .value
  | openedArray | element _ => .ended .list
  | openedObject | name _ _ | member _ => .ended .object
  | finished _ => .trailingCharacters

def Place.breakOff (e : SyntaxError) (frames : List Frame) : Place → Document
  | value => ⟨Json.breakOff e (.broken e) frames, false⟩
  | openedArray => ⟨Json.breakOff e (.array [] (some e)) frames, false⟩
  | element before | elementComma before =>
    ⟨Json.breakOff e (.array before.reverse (some e)) frames, false⟩
  | openedObject => ⟨Json.breakOff e (.object [] (some e)) frames, false⟩
  | name before key =>
    ⟨Json.breakOff e (.object ((key, .broken e) :: before).reverse (some e)) frames, false⟩
  | member before | memberComma before =>
    ⟨Json.breakOff e (.object before.reverse (some e)) frames, false⟩
  | finished root => ⟨root, true⟩

abbrev Step := Except SyntaxError (List Frame × Place)

def afterValue (r : Reading) : List Frame → List Frame × Place
  | [] => ([], .finished r)
  | .array before :: frames => (frames, .element (r :: before))
  | .member before name :: frames => (frames, .member ((name, r) :: before))

def openContainer (frames : List Frame) (place : Place) : Step :=
  if frames.length < depthLimit then .ok (frames, place) else .error .tooDeep

def startValue (frames : List Frame) : Token → Step
  | .literal value => value.map fun value => afterValue (.scalar value) frames
  | .string content => content.map fun content => afterValue (.scalar (.string content)) frames
  | .openArray => openContainer frames .openedArray
  | .openObject => openContainer frames .openedObject
  | _ => .error .expectedValue

def Place.next (frames : List Frame) (token : Token) : Place → Step
  | value => startValue frames token
  | openedArray =>
    match token with
    | .closeArray => .ok (afterValue (.array [] none) frames)
    | _ => startValue (.array [] :: frames) token
  | element before =>
    match token with
    | .comma => .ok (frames, .elementComma before)
    | .closeArray => .ok (afterValue (.array before.reverse none) frames)
    | _ => .error .expectedCommaOrBracket
  | elementComma before =>
    match token with
    | .closeArray => .error .trailingComma
    | _ => startValue (.array before :: frames) token
  | openedObject =>
    match token with
    | .closeObject => .ok (afterValue (.object [] none) frames)
    | .string content => content.map fun content => (frames, .name [] content)
    | _ => .error .keyNotString
  | name before key =>
    match token with
    | .colon => .ok (.member before key :: frames, .value)
    | _ => .error .expectedColon
  | member before =>
    match token with
    | .comma => .ok (frames, .memberComma before)
    | .closeObject => .ok (afterValue (.object before.reverse none) frames)
    | _ => .error .expectedCommaOrBrace
  | memberComma before =>
    match token with
    | .closeObject => .error .trailingComma
    | .string content => content.map fun content => (frames, .name before content)
    | _ => .error .keyNotString
  | finished _ => .error .trailingCharacters

def readFrom : List Frame → Place → List Token → Document
  | _, .finished root, [] => ⟨root, false⟩
  | frames, place, [] => place.breakOff place.endError frames
  | frames, place, token :: tokens =>
    match place.next frames token with
    | .ok (frames, place) => readFrom frames place tokens
    | .error e => place.breakOff e frames

/-- Reads a text as JSON, as far as it is JSON. -/
def read (text : String) : Document := readFrom [] .value (tokenize text)

/-- The value that a text holds, if it is JSON from beginning to end. -/
def parse (text : String) : Except SyntaxError Json := (read text).toJson

end TypeResolution.Json
