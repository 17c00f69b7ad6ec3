/-!
Why a type could not be found: what a provider of modules says, and what the
resolver makes of it. Each error is a cause; its wording is given by `message`.
-/

namespace TypeResolution

inductive ProviderError
  | moduleNotFound (path : String)
  | symbolNotFound (modulePath name : String)
  | other (text : String)
  deriving DecidableEq

def ProviderError.message : ProviderError → String
  | moduleNotFound path => "no module named '" ++ path ++ "'"
  | symbolNotFound modulePath name =>
    "module '" ++ modulePath ++ "' has no attribute '" ++ name ++ "'"
  | other text => text

inductive ServiceMember
  | request
  | response
  deriving DecidableEq

def ServiceMember.name : ServiceMember → String
  | request => "request"
  | response => "response"

inductive ResolveError
  | invalidTypeString (typeString : String)
  | invalidModule (package subpath : String) (source : ProviderError)
  | invalidClass (package subpath className : String) (source : ProviderError)
  | invalidActionInterface (className : String)
  | missingServiceMember (typeString : String) (member : ServiceMember)
  deriving DecidableEq

namespace ResolveError

/-- Whether the provider was asked and had no such module or class. Only these
failures are worth a second attempt elsewhere. -/
def isLookupFailure : ResolveError → Bool
  | invalidModule .. | invalidClass .. => true
  | _ => false

def source? : ResolveError → Option ProviderError
  | invalidModule _ _ source | invalidClass _ _ _ source => some source
  | _ => none

def message : ResolveError → String
  | invalidTypeString typeString => typeString ++ " is not a valid type string"
  | invalidModule package subpath source =>
    "unable to import " ++ package ++ "." ++ subpath ++ " from package " ++ package ++ ": "
      ++ source.message
  | invalidClass package subpath className source =>
    "unable to import " ++ subpath ++ " class " ++ className ++ " from package " ++ package ++ ": "
      ++ source.message
  | invalidActionInterface className =>
    className ++ " will not be converted to a hidden submodule since it doesn't end with "
      ++ "\"_SendGoal\" or \"_GetResult\""
  | missingServiceMember typeString member =>
    "service type '" ++ typeString ++ "' has no " ++ member.name ++ " type"

end ResolveError

end TypeResolution
