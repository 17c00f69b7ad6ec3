import TypeResolution.Error
import TypeResolution.Json.Basic

/-!
Handles on types and the instances that they make. A handle knows the qualified
name of its type, how to make an instance with default values, and, for a
service, the types of its two halves.
-/

namespace TypeResolution

inductive NativeType
  | text
  | integer
  | boolean
  | unit
  deriving DecidableEq

inductive Instance
  | native (type : NativeType)
  | json (value : Json)
  | pair (request response : Instance)

/-- A type that can be instantiated: a native one, a service, one declared by
its default fields, or one that has whichever halves its maker gives it and
whose instance is the unit. -/
inductive TypeHandle
  | native (name : String) (type : NativeType)
  | service (name : String) (request response : TypeHandle)
  | json (name : String) (fields : Table Json)
  | custom (name : String) (request response : Option TypeHandle)

namespace TypeHandle

def qualifiedName : TypeHandle → String
  | native name _ | service name _ _ | json name _ | custom name _ _ => name

def instantiate : TypeHandle → Instance
  | native _ type => .native type
  | service _ request response => .pair request.instantiate response.instantiate
  | json _ fields => .json (.ofTable fields)
  | custom _ _ _ => .native .unit

def member? : ServiceMember → TypeHandle → Option TypeHandle
  | .request, service _ request _ => some request
  | .response, service _ _ response => some response
  | .request, custom _ request _ => request
  | .response, custom _ _ response => response
  | _, _ => none

def fields? : TypeHandle → Option (Table Json)
  | json _ fields => some fields
  | _ => none

def memberName (name : String) : ServiceMember → String
  | .request => name ++ "_Request"
  | .response => name ++ "_Response"

/-- The service of two native types, each half named after the service. -/
def serviceOf (name : String) (request response : NativeType) : TypeHandle :=
  .service name (.native (memberName name .request) request)
    (.native (memberName name .response) response)

def declaredService (name : String) (request response : Table Json) : TypeHandle :=
  .service name (.json (memberName name .request) request)
    (.json (memberName name .response) response)

end TypeHandle

end TypeResolution
