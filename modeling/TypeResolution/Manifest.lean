import TypeResolution.Registry

/-!
Manifests: which types every module declares, and the registry that they make
up.
-/

namespace TypeResolution

structure MessageDeclaration where
  name : String
  fields : Table Json

structure ServiceDeclaration where
  name : String
  request : Table Json
  response : Table Json

/-- The types declared in one module, in the order of their declarations. -/
structure ModuleDeclaration where
  messages : List MessageDeclaration
  services : List ServiceDeclaration

structure Manifest where
  modules : Table ModuleDeclaration

def ModuleDeclaration.empty : ModuleDeclaration := ⟨[], []⟩

def MessageDeclaration.registration (modulePath : String) (d : MessageDeclaration) :
    Registration :=
  ⟨modulePath, d.name, .json (modulePath ++ "." ++ d.name) d.fields⟩

def ServiceDeclaration.registration (modulePath : String) (d : ServiceDeclaration) :
    Registration :=
  ⟨modulePath, d.name, .declaredService (modulePath ++ "." ++ d.name) d.request d.response⟩

/-- The bindings that a module declares: its messages and after them its
services. -/
def ModuleDeclaration.registrations (modulePath : String) (d : ModuleDeclaration) :
    List Registration :=
  d.messages.map (·.registration modulePath) ++ d.services.map (·.registration modulePath)

namespace Manifest

def empty : Manifest := ⟨.empty⟩

def registrations (m : Manifest) : List Registration :=
  m.modules.entries.flatMap fun e => e.2.registrations e.1

def toRegistry (m : Manifest) : Registry := .build m.registrations

end Manifest

end TypeResolution
