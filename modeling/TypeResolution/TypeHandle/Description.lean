import TypeResolution.Json.Printer
import TypeResolution.Text.Quoted
import TypeResolution.TypeHandle

/-!
The one-line description of a type handle for diagnostics. It names every part
with its role.
-/

namespace TypeResolution

def describeRecord (kind : String) (fields : List (String × String)) : String :=
  kind ++ " \x7b " ++ ", ".intercalate (fields.map fun f => f.1 ++ ": " ++ f.2) ++ " \x7d"

def NativeType.fullName : NativeType → String
  | text => "alloc::string::String"
  | integer => "i64"
  | boolean => "bool"
  | unit => "()"

namespace Json

mutual
def describe : Json → String
  | .scalar .null => "Null"
  | .scalar (.bool true) => "Bool(true)"
  | .scalar (.bool false) => "Bool(false)"
  | .scalar (.number value) => "Number(" ++ String.ofList (numberText value) ++ ")"
  | .scalar (.string value) => "String(" ++ Text.quoted value ++ ")"
  | .array elements => "Array [" ++ ", ".intercalate (describeElements elements) ++ "]"
  | .object members => "Object \x7b" ++ ", ".intercalate (describeMembers members) ++ "\x7d"

def describeElements : List Json → List String
  | [] => []
  | element :: elements => describe element :: describeElements elements

def describeMembers : List (String × Json) → List String
  | [] => []
  | (name, value) :: members =>
    (Text.quoted name ++ ": " ++ describe value) :: describeMembers members
end

end Json

def TypeHandle.describe : TypeHandle → String
  | native name type =>
    describeRecord "MessageType"
      [("qualified_name", Text.quoted name), ("rust_type", Text.quoted type.fullName)]
  | service name request response =>
    describeRecord "ServiceType"
      [("qualified_name", Text.quoted name), ("request", request.describe),
        ("response", response.describe)]
  | json name fields =>
    describeRecord "JsonType"
      [("qualified_name", Text.quoted name),
        ("fields", "\x7b" ++ ", ".intercalate (Json.describeMembers fields.entries) ++ "\x7d")]
  | custom name _ _ => describeRecord "CustomType" [("qualified_name", Text.quoted name)]

end TypeResolution
