import TypeResolution.TypeHandle

/-!
Registries: the modules that types can be found in, each with its classes. A
module that has been opened is a snapshot; what is registered later does not
show in it.
-/

namespace TypeResolution

structure Module where
  path : String
  classes : Table TypeHandle

namespace Module

def classNames (m : Module) : List String := m.classes.keys

def lookup (m : Module) (name : String) : Except ProviderError TypeHandle :=
  match m.classes.get? name with
  | some handle => .ok handle
  | none => .error (.symbolNotFound m.path name)

end Module

/-- The classes of every module path under which something is registered. -/
structure Registry where
  classes : Table (Table TypeHandle)

namespace Registry

def empty : Registry := ⟨.empty⟩

/-- Binds a class of a module to a type, in place of what it was bound to. -/
def register (r : Registry) (modulePath className : String) (handle : TypeHandle) : Registry :=
  ⟨r.classes.insert modulePath
    (((r.classes.get? modulePath).getD .empty).insert className handle)⟩

def modulePaths (r : Registry) : List String := r.classes.keys

def classNames? (r : Registry) (modulePath : String) : Option (List String) :=
  (r.classes.get? modulePath).map Table.keys

def isEmpty (r : Registry) : Bool := r.classes.isEmpty

/-- The module of a path as it is now. -/
def openModule (r : Registry) (modulePath : String) : Except ProviderError Module :=
  match r.classes.get? modulePath with
  | some classes => .ok ⟨modulePath, classes⟩
  | none => .error (.moduleNotFound modulePath)

end Registry

structure Registration where
  modulePath : String
  className : String
  handle : TypeHandle

namespace Registration

def message (modulePath className : String) (type : NativeType) : Registration :=
  ⟨modulePath, className, .native (modulePath ++ "." ++ className) type⟩

def service (modulePath className : String) (request response : NativeType) : Registration :=
  ⟨modulePath, className, .serviceOf (modulePath ++ "." ++ className) request response⟩

end Registration

def Registry.build (registrations : List Registration) : Registry :=
  registrations.foldl (fun r b => r.register b.modulePath b.className b.handle) .empty

end TypeResolution
