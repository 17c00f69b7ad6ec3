import TypeResolution.Registry
import TypeResolution.Resolver.Caches
import TypeResolution.TypeString

/-!
Resolving type strings. A resolver looks in its cache under the type string
itself, then under the normalized form, and then asks its provider for the
module. Where the provider does not have the type at the inferred subpath, the
default subpath of the kind is tried.

A provider works on the state of the world, of which the caches are a part, so
that what happens while it is asked for a module or a class, other resolutions
on the same caches included, is seen by the resolution that asks.
-/

namespace TypeResolution

/-- The caches of a resolver, and whatever else a provider works on. -/
structure World (σ : Type) where
  caches : Caches
  outside : σ

/-- The types in a module that a provider has given out. Looking one up is the
provider's work too. -/
abbrev Lookup (σ : Type) := String → World σ → Except ProviderError TypeHandle × World σ

abbrev Provider (σ : Type) := String → World σ → Except ProviderError (Lookup σ) × World σ

/-- Where modules come from that are given out without regard to any caches. -/
abbrev Source (σ : Type) :=
  String → σ → Except ProviderError (String → σ → Except ProviderError TypeHandle × σ) × σ

variable {σ : Type}

def Lookup.detached (lookup : String → σ → Except ProviderError TypeHandle × σ) : Lookup σ :=
  fun className w =>
    ((lookup className w.outside).1, { w with outside := (lookup className w.outside).2 })

/-- The provider that works on what is outside the resolver alone and leaves the
caches as they are. -/
def Provider.detached (source : Source σ) : Provider σ :=
  fun modulePath w =>
    ((source modulePath w.outside).1.map Lookup.detached,
      { w with outside := (source modulePath w.outside).2 })

def Registry.source (r : Registry) : Source σ :=
  fun modulePath s => ((r.openModule modulePath).map fun m className s => (m.lookup className, s), s)

def Registry.provider (r : Registry) : Provider σ := .detached r.source

namespace World

def new (outside : σ) : World σ := ⟨.empty, outside⟩

def insert (w : World σ) (kind : Kind) (key : String) (handle : TypeHandle) : World σ :=
  { w with caches := w.caches.insert kind key handle }

def cached? (w : World σ) (kind : Kind) (key : String) : Option TypeHandle :=
  w.caches.get? kind key

end World

def loadSymbol (provider : Provider σ) (path : SymbolPath) (w : World σ) :
    Except ResolveError TypeHandle × World σ :=
  match provider path.modulePath w with
  | (.error source, w) => (.error (.invalidModule path.package path.subpath source), w)
  | (.ok lookup, w) =>
    match lookup path.className w with
    | (.error source, w) =>
      (.error (.invalidClass path.package path.subpath path.className source), w)
    | (.ok handle, w) => (.ok handle, w)

namespace Resolver

/-- One attempt to find a type: under its normalized form in the cache, else in
the module at a subpath. What is found is cached under the type string `text`
itself, and what is loaded also under the normalized form. -/
def attempt (provider : Provider σ) (kind : Kind) (text : String) (t : TypeString)
    (subpath : String) (w : World σ) : Except ResolveError TypeHandle × World σ :=
  match w.cached? kind t.normalized with
  | some handle => (.ok handle, w.insert kind text handle)
  | none =>
    match loadSymbol provider (t.withSubpath subpath) w with
    | (.error e, w) => (.error e, w)
    | (.ok handle, w) => (.ok handle, (w.insert kind text handle).insert kind t.normalized handle)

/-- The attempt at the default subpath, after a first attempt has failed. The
type string may have entered the cache during that attempt. -/
def retry (provider : Provider σ) (kind : Kind) (text : String) (t : TypeString) (w : World σ) :
    Except ResolveError TypeHandle × World σ :=
  match w.cached? kind text with
  | some handle => (.ok handle, w)
  | none => attempt provider kind text t kind.defaultSubpath w

/-- Finds the type that a type string stands for among the types of a kind. -/
def resolve (provider : Provider σ) (kind : Kind) (text : String) (w : World σ) :
    Except ResolveError TypeHandle × World σ :=
  match w.cached? kind text with
  | some handle => (.ok handle, w)
  | none =>
    match TypeString.parse text with
    | .error e => (.error e, w)
    | .ok t =>
      match t.inferredSubpath kind with
      | .error e => (.error e, w)
      | .ok subpath =>
        match attempt provider kind text t subpath w with
        | (.ok handle, w) => (.ok handle, w)
        | (.error e, w) =>
          if e.isLookupFailure then retry provider kind text t w else (.error e, w)

def messageInstance (provider : Provider σ) (text : String) (w : World σ) :
    Except ResolveError Instance × World σ :=
  match resolve provider .message text w with
  | (.error e, w) => (.error e, w)
  | (.ok handle, w) => (.ok handle.instantiate, w)

def memberInstance (provider : Provider σ) (member : ServiceMember) (text : String) (w : World σ) :
    Except ResolveError Instance × World σ :=
  match resolve provider .service text w with
  | (.error e, w) => (.error e, w)
  | (.ok handle, w) =>
    match handle.member? member with
    | some half => (.ok half.instantiate, w)
    | none => (.error (.missingServiceMember text member), w)

end Resolver

end TypeResolution
