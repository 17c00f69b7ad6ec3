import TypeResolution.Json.Reader
import TypeResolution.Manifest
import TypeResolution.Manifest.Error

/-!
Decoding a manifest from JSON. The document is taken apart from left to right as
it is read, so of a broken text and a wrong form the one that comes first is
reported. A document and a module may be written as objects or as arrays that
give the fields in order.
-/

namespace TypeResolution

open Json (Reading SyntaxError)

abbrev Decoded (α : Type) := Except ManifestFault α

/-! ### Declarations -/

def membersNamed (name : String) (members : List (String × Json)) : List Json :=
  (members.filter (·.1 = name)).map Prod.snd

/-- The declared name: there must be one, and it must be a string. -/
def declaredName? (members : List (String × Json)) : Option String :=
  match membersNamed "name" members with
  | [.scalar (.string name)] => some name
  | _ => none

/-- Default values of fields: none, or one object of them. -/
def declaredFields? (name : String) (members : List (String × Json)) : Option (Table Json) :=
  match membersNamed name members with
  | [] => some .empty
  | [.object fields] => some (Json.membersTable fields)
  | _ => none

def MessageDeclaration.ofJson? : Json → Option MessageDeclaration
  | .scalar (.string name) => some ⟨name, .empty⟩
  | .object members => do
    let name ← declaredName? members
    let fields ← declaredFields? "fields" members
    return ⟨name, fields⟩
  | _ => none

def ServiceDeclaration.ofJson? : Json → Option ServiceDeclaration
  | .scalar (.string name) => some ⟨name, .empty, .empty⟩
  | .object members => do
    let name ← declaredName? members
    let request ← declaredFields? "request" members
    let response ← declaredFields? "response" members
    return ⟨name, request, response⟩
  | _ => none

/-! ### Readings -/

namespace Decoded

variable {α : Type}

def ended (contents : α) : Option SyntaxError → Decoded α
  | none => .ok contents
  | some e => .error (.syntaxError e)

/-- The end of an array all of whose fields have been read: nothing but the
bracket may follow. -/
def endedFields (contents : α) : Option SyntaxError → Decoded α
  | none => .ok contents
  | some (.ended .list) => .error (.syntaxError (.ended .list))
  | some .trailingComma => .error (.syntaxError .trailingComma)
  | some _ => .error (.syntaxError .trailingCharacters)

def refuse (part : ManifestPart) : Reading → Decoded α
  | .broken e => .error (.syntaxError e)
  | .scalar value => .error (.format (.invalidType (.scalar value) part))
  | .array _ _ => .error (.format (.invalidType .sequence part))
  | .object _ _ => .error (.format (.invalidType .map part))

end Decoded

open Decoded

/-- One declaration, which is read to its end before it is looked at. -/
def decodeDeclaration {α : Type} (sort : DeclarationSort) (ofJson? : Json → Option α)
    (r : Reading) : Decoded α :=
  match r.toJson with
  | .error e => .error (.syntaxError e)
  | .ok value =>
    match ofJson? value with
    | some declaration => .ok declaration
    | none => .error (.format (.noDeclaration sort))

def decodeDeclarations {α : Type} (sort : DeclarationSort) (ofJson? : Json → Option α) :
    List Reading → Decoded (List α)
  | [] => .ok []
  | element :: elements => do
    let declaration ← decodeDeclaration sort ofJson? element
    let declarations ← decodeDeclarations sort ofJson? elements
    return declaration :: declarations

def decodeList {α : Type} (sort : DeclarationSort) (ofJson? : Json → Option α) :
    Reading → Decoded (List α)
  | .array elements ending => do
    let declarations ← decodeDeclarations sort ofJson? elements
    ended declarations ending
  | r => refuse .declarations r

def decodeMessages : Reading → Decoded (List MessageDeclaration) :=
  decodeList .message MessageDeclaration.ofJson?

def decodeServices : Reading → Decoded (List ServiceDeclaration) :=
  decodeList .service ServiceDeclaration.ofJson?

def decodeModuleMembers (messages : Option (List MessageDeclaration))
    (services : Option (List ServiceDeclaration)) :
    List (String × Reading) → Decoded ModuleDeclaration
  | [] => .ok ⟨messages.getD [], services.getD []⟩
  | (name, r) :: members =>
    if name = "messages" then
      if messages.isSome then .error (.format (.duplicateField name))
      else do
        let declared ← decodeMessages r
        decodeModuleMembers (some declared) services members
    else if name = "services" then
      if services.isSome then .error (.format (.duplicateField name))
      else do
        let declared ← decodeServices r
        decodeModuleMembers messages (some declared) members
    else .error (.format (.unknownField name ["messages", "services"]))

def decodeModule : Reading → Decoded ModuleDeclaration
  | .object members ending => do
    let declared ← decodeModuleMembers none none members
    ended declared ending
  | .array [] ending => ended .empty ending
  | .array [messages] ending => do
    let messages ← decodeMessages messages
    ended ⟨messages, []⟩ ending
  | .array [messages, services] ending => do
    let messages ← decodeMessages messages
    let services ← decodeServices services
    endedFields ⟨messages, services⟩ ending
  | .array (messages :: services :: _) _ => do
    let _ ← decodeMessages messages
    let _ ← decodeServices services
    .error (.syntaxError .trailingCharacters)
  | r => refuse .module r

def decodeModuleEntries : List (String × Reading) → Decoded (List (String × ModuleDeclaration))
  | [] => .ok []
  | (path, r) :: members => do
    let declared ← decodeModule r
    let others ← decodeModuleEntries members
    return (path, declared) :: others

/-- The modules by their paths; the last module of a path counts. -/
def decodeModules : Reading → Decoded (Table ModuleDeclaration)
  | .object members ending => do
    let modules ← decodeModuleEntries members
    ended (.ofList modules) ending
  | r => refuse .modules r

def decodeDocumentMembers (modules : Option (Table ModuleDeclaration)) :
    List (String × Reading) → Decoded Manifest
  | [] => .ok ⟨modules.getD .empty⟩
  | (name, r) :: members =>
    if name = "modules" then
      if modules.isSome then .error (.format (.duplicateField name))
      else do
        let declared ← decodeModules r
        decodeDocumentMembers (some declared) members
    else .error (.format (.unknownField name ["modules"]))

def decodeRoot : Reading → Decoded Manifest
  | .object members ending => do
    let manifest ← decodeDocumentMembers none members
    ended manifest ending
  | .array [] ending => ended .empty ending
  | .array [modules] ending => do
    let modules ← decodeModules modules
    endedFields ⟨modules⟩ ending
  | .array (modules :: _) _ => do
    let _ ← decodeModules modules
    .error (.syntaxError .trailingCharacters)
  | r => refuse .document r

namespace Manifest

def ofDocument (d : Json.Document) : Decoded Manifest := do
  let manifest ← decodeRoot d.root
  if d.trailing then .error (.syntaxError .trailingCharacters) else .ok manifest

/-- The manifest that a text holds. -/
def parse (text : String) : Decoded Manifest := ofDocument (Json.read text)

def load (path : String) (contents : Except FileError String) : Except ManifestError Manifest :=
  match contents with
  | .error reason => .error (.file path reason)
  | .ok text =>
    match parse text with
    | .error fault => .error (.text fault)
    | .ok manifest => .ok manifest

end Manifest

end TypeResolution
