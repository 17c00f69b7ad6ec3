import TypeResolution.Resolver

/-!
Resolutions that overlap. While the provider of a registry is asked for a
module, other callers may use the same resolver or change the registry; this
provider has such interruptions happen at given modules, each once, and fails at
given modules or classes. Interruptions may interrupt one another.
-/

namespace TypeResolution.Overlap

inductive Action
  | cache (kind : Kind) (key : String) (handle : TypeHandle)
  | resolve (kind : Kind) (text : String)
  | register (registration : Registration)

/-- Actions that happen while the provider is asked for a module. -/
structure Interruption where
  modulePath : String
  actions : List Action

structure Failure where
  modulePath : String
  className : Option String
  error : ProviderError

/-- What surrounds a resolver: the registry, the interruptions still to come,
and the module paths that the provider has been asked for, the latest first. -/
structure Surroundings where
  registry : Registry
  interruptions : List Interruption
  asked : List String

abbrev State := World Surroundings

def takeInterruption (modulePath : String) :
    List Interruption → List Action × List Interruption
  | [] => ([], [])
  | i :: rest =>
    if i.modulePath = modulePath then (i.actions, rest)
    else ((takeInterruption modulePath rest).1, i :: (takeInterruption modulePath rest).2)

def ask (modulePath : String) (w : State) : State :=
  { w with outside := { w.outside with asked := modulePath :: w.outside.asked } }

def setInterruptions (interruptions : List Interruption) (w : State) : State :=
  { w with outside := { w.outside with interruptions } }

def register (b : Registration) (w : State) : State :=
  let registry := w.outside.registry.register b.modulePath b.className b.handle
  { w with outside := { w.outside with registry } }

def perform (provider : Provider Surroundings) (w : State) : Action → State
  | .cache kind key handle => w.insert kind key handle
  | .resolve kind text => (Resolver.resolve provider kind text w).2
  | .register registration => register registration w

/-- The error that lookups of a class or of the module itself are to fail with.
-/
def failure? (failures : List Failure) (modulePath : String) (className : Option String) :
    Option ProviderError :=
  (failures.find? fun f => f.modulePath = modulePath ∧ f.className = className).map (·.error)

def answer (failures : List Failure) (modulePath : String) (registry : Registry) :
    Except ProviderError (Lookup Surroundings) :=
  match failure? failures modulePath none with
  | some e => .error e
  | none =>
    (registry.openModule modulePath).map fun m =>
      .detached fun className s =>
        match failure? failures modulePath (some className) with
        | some e => (.error e, s)
        | none => (m.lookup className, s)

/-- The provider while at most `n` interruptions are still to come. -/
def provider (failures : List Failure) : Nat → Provider Surroundings
  | 0, modulePath, w =>
    (answer failures modulePath w.outside.registry, ask modulePath w)
  | n + 1, modulePath, w =>
    let (actions, others) := takeInterruption modulePath w.outside.interruptions
    let w := actions.foldl (perform (provider failures n))
      (setInterruptions others (ask modulePath w))
    (answer failures modulePath w.outside.registry, w)

end TypeResolution.Overlap
