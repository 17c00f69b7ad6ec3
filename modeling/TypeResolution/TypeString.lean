import TypeResolution.ActionService
import TypeResolution.Kind
import TypeResolution.SymbolPath
import TypeResolution.Text.Segments

/-!
Type strings: a package, up to two middle segments and a class, set apart by
slashes. With two middle segments the first of them is `action`.
-/

namespace TypeResolution

/-- A type string taken apart; `middle` has at most two segments. -/
structure TypeString where
  package : String
  middle : List String
  className : String
  deriving DecidableEq

namespace TypeString

def parse (text : String) : Except ResolveError TypeString :=
  match Text.segments text with
  | [package, className] => .ok ⟨package, [], className⟩
  | [package, middle, className] => .ok ⟨package, [middle], className⟩
  | [package, root, group, className] =>
    if root = "action" then .ok ⟨package, [root, group], className⟩
    else .error (.invalidTypeString text)
  | _ => .error (.invalidTypeString text)

/-- Whether the first middle segment is `action`. -/
def isAction (t : TypeString) : Bool := t.middle.head? == some "action"

/-- The form `package/Class` that all spellings of a type share. -/
def normalized (t : TypeString) : String := canonicalKey t.package t.className

def dotted : List String → String
  | [] => ""
  | [segment] => segment
  | segment :: segments => segment ++ "." ++ dotted segments

/-- The subpath to look in first: the default of the kind if the type string
names none, the hidden submodule for a service of an action, the middle segments
otherwise. -/
def inferredSubpath (t : TypeString) (kind : Kind) : Except ResolveError String :=
  if t.middle = [] then .ok kind.defaultSubpath
  else if kind = .service ∧ t.isAction then
    ActionService.hiddenSubpath (dotted t.middle) t.className
  else .ok (dotted t.middle)

def withSubpath (t : TypeString) (subpath : String) : SymbolPath :=
  ⟨t.package, subpath, t.className⟩

@[simp] theorem normalized_withSubpath (t : TypeString) (subpath : String) :
    (t.withSubpath subpath).normalized = t.normalized := rfl

end TypeString

end TypeResolution
