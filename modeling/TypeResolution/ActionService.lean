import TypeResolution.Error
import TypeResolution.Text.SnakeCase

/-!
Services generated for actions. The action `Navigate` of a package has the
services `Navigate_SendGoal` and `Navigate_GetResult`, which do not live in the
module `action` but in a hidden submodule of it, `action._navigate`.
-/

namespace TypeResolution.ActionService

open Text

/-- How often a hidden submodule is entered along a dotted path. -/
def hiddenMarks : List Char → Nat
  | [] => 0
  | '.' :: '_' :: cs => hiddenMarks cs + 1
  | _ :: cs => hiddenMarks cs

def before? (ending cs : List Char) : Option (List Char) :=
  if ending <:+ cs then some (cs.take (cs.length - ending.length)) else none

def actionName? (className : String) : Option String :=
  ((before? "_SendGoal".toList className.toList).or
    (before? "_GetResult".toList className.toList)).map String.ofList

/-- The subpath of the hidden submodule that holds the service. A subpath that
enters one hidden submodule already is kept. -/
def hiddenSubpath (subpath className : String) : Except ResolveError String :=
  if hiddenMarks subpath.toList = 1 then .ok subpath
  else
    match actionName? className with
    | some action => .ok (subpath ++ "._" ++ snakeCase action)
    | none => .error (.invalidActionInterface className)

end TypeResolution.ActionService
