import TypeResolution.Json.Basic
import TypeResolution.Json.SyntaxError

/-!
Readings: JSON values as far as a reader that goes from left to right can make
them out. Where the text stops being JSON the value is broken off, and every
container that is open there ends with the same error.
-/

namespace TypeResolution.Json

inductive Reading
  | broken (e : SyntaxError)
  | scalar (value : Scalar)
  | array (elements : List Reading) (ending : Option SyntaxError)
  | object (members : List (String × Reading)) (ending : Option SyntaxError)

namespace Reading

/-- What `ending` leaves of a container: all of it, or the error that breaks it
off. -/
def closed {α : Type} (contents : α) : Option SyntaxError → Except SyntaxError α
  | none => .ok contents
  | some e => .error e

mutual
def toJson : Reading → Except SyntaxError Json
  | broken e => .error e
  | scalar value => .ok (.scalar value)
  | array elements ending => do
    let elements ← elementsToJson elements
    closed (.array elements) ending
  | object members ending => do
    let members ← membersToJson members
    closed (.object members) ending

def elementsToJson : List Reading → Except SyntaxError (List Json)
  | [] => .ok []
  | element :: elements => do
    let value ← toJson element
    let values ← elementsToJson elements
    return value :: values

def membersToJson : List (String × Reading) → Except SyntaxError (List (String × Json))
  | [] => .ok []
  | (name, value) :: members => do
    let value ← toJson value
    let members ← membersToJson members
    return (name, value) :: members
end

end Reading

/-- What a text holds: the reading of a value, and whether anything but blanks
follows the value. -/
structure Document where
  root : Reading
  trailing : Bool

def Document.toJson (d : Document) : Except SyntaxError Json := do
  let value ← d.root.toJson
  if d.trailing then .error .trailingCharacters else .ok value

end TypeResolution.Json
