import TypeResolution.Numeral.Binary64
import TypeResolution.Table

/-!
Values of the JSON data format. An object lists its members in the order of the
text and may name one member twice; the canonical form of a value keeps the last
member of each name and sorts them.
-/

namespace TypeResolution

/-- A number: an integer within 64 bits or a binary floating-point number. -/
inductive Number
  | integer (value : Int)
  | float (value : Numeral.Binary64)
  deriving DecidableEq

inductive Scalar
  | null
  | bool (value : Bool)
  | number (value : Number)
  | string (value : String)
  deriving DecidableEq

inductive Json
  | scalar (value : Scalar)
  | array (elements : List Json)
  | object (members : List (String × Json))

namespace Json

def ofTable (t : Table Json) : Json := .object t.entries

mutual
/-- The value with the members of every object sorted by name, the last of equal
names kept. -/
def canonical : Json → Json
  | .scalar value => .scalar value
  | .array elements => .array (canonicalElements elements)
  | .object members => ofTable (.ofList (canonicalMembers members))

def canonicalElements : List Json → List Json
  | [] => []
  | element :: elements => canonical element :: canonicalElements elements

def canonicalMembers : List (String × Json) → List (String × Json)
  | [] => []
  | (name, value) :: members => (name, canonical value) :: canonicalMembers members
end

def membersTable (members : List (String × Json)) : Table Json := .ofList (canonicalMembers members)

/-- Induction on values: what holds of a container may be shown from all its parts. -/
@[elab_as_elim]
theorem induct {motive : Json → Prop} (scalar : ∀ value, motive (.scalar value))
    (array : ∀ elements, (∀ element ∈ elements, motive element) → motive (.array elements))
    (object : ∀ members, (∀ e ∈ members, motive e.2) → motive (.object members)) :
    ∀ j, motive j
  | .scalar value => scalar value
  | .array elements => array elements fun element helement =>
      have hlt : sizeOf element < sizeOf (Json.array elements) :=
        Nat.lt_of_lt_of_le (List.sizeOf_lt_of_mem helement) (by simp)
      induct scalar array object element
  | .object members => object members fun (name, value) he =>
      have hlt : sizeOf value < sizeOf (Json.object members) :=
        calc sizeOf value
          _ < sizeOf (name, value) := by
            rw [Prod.mk.sizeOf_spec]
            omega
          _ < sizeOf members := List.sizeOf_lt_of_mem he
          _ ≤ sizeOf (Json.object members) := by simp
      induct scalar array object value
termination_by j => sizeOf j
decreasing_by all_goals exact hlt

theorem canonicalElements_eq_map (elements : List Json) :
    canonicalElements elements = elements.map canonical := by
  induction elements with
  | nil => rfl
  | cons element elements ih => rw [canonicalElements, ih, List.map_cons]

theorem canonicalMembers_eq_map (members : List (String × Json)) :
    canonicalMembers members = members.map fun e => (e.1, e.2.canonical) := by
  induction members with
  | nil => rfl
  | cons e members ih => rw [canonicalMembers, ih, List.map_cons]

theorem canonical_array (elements : List Json) :
    (array elements).canonical = .array (elements.map canonical) := by
  rw [canonical, canonicalElements_eq_map]

theorem canonical_object (members : List (String × Json)) :
    (object members).canonical = ofTable (membersTable members) := by
  rw [canonical, membersTable]

end Json

end TypeResolution
