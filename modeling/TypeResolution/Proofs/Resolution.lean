import TypeResolution.Proofs.Normalized
import TypeResolution.Resolver

/-!
What one resolution can do, said once for every provider. The two inversion
theorems, `attempt_course` and `resolve_course`, list the ways in which an
attempt and a resolution can go, with the worlds in which the caches were read
on the way; what follows about runs of resolutions is derived from these lists,
and nothing below opens the resolver again.

A provider may do whatever it likes to the world. What it is known to do is said
by two predicates: `Provider.Within G`, if all that it does stays within a
relation of worlds, and `Provider.Serves r`, if the modules that it gives out are
those of a registry.
-/

namespace TypeResolution

variable {σ : Type}

@[ext]
structure Request where
  kind : Kind
  text : String
  deriving DecidableEq

namespace Request

/-- The keys that a type is stored under when the request has been served. -/
def StoredUnder (q : Request) (key : String) : Prop :=
  key = q.text ∨ ∃ t, TypeString.parse q.text = .ok t ∧ key = t.normalized

theorem storedUnder_iff {q : Request} {t : TypeString} (h : TypeString.parse q.text = .ok t)
    {key : String} : q.StoredUnder key ↔ key = q.text ∨ key = t.normalized := by
  simp [StoredUnder, h]

end Request

namespace World

@[simp] theorem outside_insert (w : World σ) (kind : Kind) (key : String) (handle : TypeHandle) :
    (w.insert kind key handle).outside = w.outside := rfl

@[simp] theorem caches_insert (w : World σ) (kind : Kind) (key : String) (handle : TypeHandle) :
    (w.insert kind key handle).caches = w.caches.insert kind key handle := rfl

@[simp] theorem cached?_new (outside : σ) (kind : Kind) (key : String) :
    (new outside).cached? kind key = none := Caches.get?_empty kind key

theorem cached?_insert (w : World σ) (kind other : Kind) (key k : String) (handle : TypeHandle) :
    (w.insert kind key handle).cached? other k =
      if other = kind ∧ k = key then some handle else w.cached? other k :=
  Caches.get?_insert w.caches kind other key k handle

end World

/-! ### Reading a request -/

namespace TypeString

def read (kind : Kind) (text : String) : Except ResolveError (TypeString × String) :=
  match parse text with
  | .error e => .error e
  | .ok t =>
    match t.inferredSubpath kind with
    | .error e => .error e
    | .ok subpath => .ok (t, subpath)

theorem read_eq_ok_iff {kind : Kind} {text : String} {t : TypeString} {subpath : String} :
    read kind text = .ok (t, subpath) ↔
      parse text = .ok t ∧ t.inferredSubpath kind = .ok subpath := by
  unfold read
  constructor
  · intro h
    split at h
    · cases h
    · rename_i hparse
      split at h
      · cases h
      · rename_i hsubpath
        cases h
        exact ⟨hparse, hsubpath⟩
  · rintro ⟨hparse, hsubpath⟩
    simp only [hparse, hsubpath]

theorem read_normalized {text : String} {t : TypeString} (h : parse text = .ok t) (kind : Kind) :
    read kind t.normalized = .ok (t.short, kind.defaultSubpath) :=
  read_eq_ok_iff.2 ⟨parse_normalized h, inferredSubpath_short t kind⟩

end TypeString

/-! ### Loading -/

/-- All that the provider does, when it is asked for a module and when a class is
looked up in a module that it gave out, stays within `G`. -/
structure Provider.Within (provider : Provider σ) (G : World σ → World σ → Prop) : Prop where
  ask : ∀ modulePath w, G w (provider modulePath w).2
  lookUp : ∀ {modulePath w lookup}, (provider modulePath w).1 = .ok lookup →
    ∀ className w', G w' (lookup className w').2

theorem Provider.Within.loadSymbol {provider : Provider σ} {G : World σ → World σ → Prop}
    (h : provider.Within G) (trans : ∀ {u v w}, G u v → G v w → G u w) (path : SymbolPath)
    (w : World σ) : G w (loadSymbol provider path w).2 := by
  have hask := h.ask path.modulePath w
  unfold TypeResolution.loadSymbol
  split
  · rename_i heq
    rw [heq] at hask
    exact hask
  · rename_i lookup w₁ heq
    have hgiven : (provider path.modulePath w).1 = .ok lookup := by rw [heq]
    have hlook := h.lookUp hgiven path.className w₁
    rw [heq] at hask
    split
    · rename_i heq'
      rw [heq'] at hlook
      exact trans hask hlook
    · rename_i heq'
      rw [heq'] at hlook
      exact trans hask hlook

abbrev Provider.Quiet (provider : Provider σ) : Prop :=
  provider.Within fun w w' => w'.caches = w.caches

theorem Provider.quiet_detached (source : Source σ) :
    (Provider.detached source).Quiet where
  ask modulePath w := rfl
  lookUp {modulePath w lookup} hgiven className w' := by
    unfold Provider.detached at hgiven
    cases hopened : (source modulePath w.outside).1 with
    | error e =>
        rw [hopened] at hgiven
        cases hgiven
    | ok lookup' =>
        rw [hopened] at hgiven
        cases hgiven
        rfl

theorem Provider.Quiet.caches_loadSymbol {provider : Provider σ} (h : provider.Quiet)
    (path : SymbolPath) (w : World σ) : (loadSymbol provider path w).2.caches = w.caches :=
  h.loadSymbol (fun h h' => h'.trans h) path w

def Source.load (source : Source σ) (path : SymbolPath) (s : σ) :
    Except ResolveError TypeHandle × σ :=
  match source path.modulePath s with
  | (.error e, s) => (.error (.invalidModule path.package path.subpath e), s)
  | (.ok lookup, s) =>
    match lookup path.className s with
    | (.error e, s) => (.error (.invalidClass path.package path.subpath path.className e), s)
    | (.ok handle, s) => (.ok handle, s)

theorem loadSymbol_detached (source : Source σ) (path : SymbolPath) (w : World σ) :
    loadSymbol (.detached source) path w =
      ((source.load path w.outside).1, { w with outside := (source.load path w.outside).2 }) := by
  unfold loadSymbol Source.load Provider.detached
  rcases source path.modulePath w.outside with ⟨e | lookup, s⟩
  · rfl
  · simp only [Except.map, Lookup.detached]
    rcases lookup path.className s with ⟨e | handle, s'⟩ <;> rfl

theorem isLookupFailure_of_loadSymbol {provider : Provider σ} {path : SymbolPath} {w w' : World σ}
    {e : ResolveError} (h : loadSymbol provider path w = (.error e, w')) :
    e.isLookupFailure = true := by
  unfold loadSymbol at h
  split at h
  · cases h
    rfl
  · split at h
    · cases h
      rfl
    · cases h

namespace Registry

def Binds (r : Registry) (modulePath className : String) (handle : TypeHandle) : Prop :=
  ∃ m, r.openModule modulePath = .ok m ∧ m.lookup className = .ok handle

def load (r : Registry) (path : SymbolPath) : Except ResolveError TypeHandle :=
  match r.openModule path.modulePath with
  | .error source => .error (.invalidModule path.package path.subpath source)
  | .ok m =>
    match m.lookup path.className with
    | .error source => .error (.invalidClass path.package path.subpath path.className source)
    | .ok handle => .ok handle

theorem load_eq_ok_iff {r : Registry} {path : SymbolPath} {handle : TypeHandle} :
    r.load path = .ok handle ↔ r.Binds path.modulePath path.className handle := by
  unfold load Binds
  cases r.openModule path.modulePath with
  | error source => simp
  | ok m =>
      cases hm : m.lookup path.className with
      | error source => simp [hm]
      | ok found => simp [hm]

theorem isLookupFailure_of_load {r : Registry} {path : SymbolPath} {e : ResolveError}
    (h : r.load path = .error e) : e.isLookupFailure = true := by
  unfold load at h
  split at h
  · cases h
    rfl
  · split at h
    · cases h
      rfl
    · cases h

end Registry

/-- The modules that the provider gives out are those of the registry, whatever
else it does. -/
structure Provider.Serves (provider : Provider σ) (r : Registry) : Prop where
  missing : ∀ {modulePath source} w, r.openModule modulePath = .error source →
    (provider modulePath w).1 = .error source
  opened : ∀ {modulePath m} w, r.openModule modulePath = .ok m →
    ∃ lookup, (provider modulePath w).1 = .ok lookup ∧
      ∀ className w', (lookup className w').1 = m.lookup className

theorem Provider.Serves.load {provider : Provider σ} {r : Registry} (h : provider.Serves r)
    (path : SymbolPath) (w : World σ) : (loadSymbol provider path w).1 = r.load path := by
  unfold loadSymbol Registry.load
  cases hm : r.openModule path.modulePath with
  | error source =>
      have hasked := h.missing w hm
      generalize provider path.modulePath w = answer at hasked
      obtain ⟨_, w₁⟩ := answer
      subst hasked
      rfl
  | ok m =>
      obtain ⟨lookup, hasked, hlook⟩ := h.opened w hm
      -- of the world that the provider leaves behind nothing is known
      generalize provider path.modulePath w = answer at hasked
      obtain ⟨_, w₁⟩ := answer
      subst hasked
      have hfound := hlook path.className w₁
      generalize hlookup : lookup path.className w₁ = found at hfound
      obtain ⟨found, w₂⟩ := found
      simp only [hlookup, ← hfound]
      cases found <;> rfl

theorem Registry.serves_provider (r : Registry) : (r.provider : Provider σ).Serves r where
  missing w h := by simp [provider, Provider.detached, source, h, Except.map]
  opened {modulePath m} w h := by
    refine ⟨.detached fun className s => (m.lookup className, s), ?_, fun className w' => rfl⟩
    simp [provider, Provider.detached, source, h, Except.map]

theorem Registry.quiet_provider (r : Registry) : (r.provider : Provider σ).Quiet :=
  Provider.quiet_detached r.source

theorem Registry.load_source (r : Registry) (path : SymbolPath) (s : σ) :
    r.source.load path s = (r.load path, s) := by
  unfold Source.load source load
  cases r.openModule path.modulePath with
  | error e => rfl
  | ok m =>
      simp only [Except.map]
      cases m.lookup path.className <;> rfl

/-! ### The ways in which a resolution can go -/

namespace Resolver

variable {provider : Provider σ} {kind : Kind} {text : String}

/-- How an attempt can go. What it knows under the normalized form it copies;
what it loads it writes twice, after everything that the provider did. -/
inductive AttemptCourse (provider : Provider σ) (kind : Kind) (text : String) (t : TypeString)
    (subpath : String) (w : World σ) : Except ResolveError TypeHandle → World σ → Prop
  | known {handle : TypeHandle} (hit : w.cached? kind t.normalized = some handle) :
      AttemptCourse provider kind text t subpath w (.ok handle) (w.insert kind text handle)
  | loaded {handle : TypeHandle} {w' : World σ} (miss : w.cached? kind t.normalized = none)
      (load : loadSymbol provider (t.withSubpath subpath) w = (.ok handle, w')) :
      AttemptCourse provider kind text t subpath w (.ok handle)
        ((w'.insert kind text handle).insert kind t.normalized handle)
  | failed {e : ResolveError} {w' : World σ} (miss : w.cached? kind t.normalized = none)
      (load : loadSymbol provider (t.withSubpath subpath) w = (.error e, w')) :
      AttemptCourse provider kind text t subpath w (.error e) w'

theorem attempt_course {t : TypeString} {subpath : String} {w w' : World σ}
    {result : Except ResolveError TypeHandle}
    (h : attempt provider kind text t subpath w = (result, w')) :
    AttemptCourse provider kind text t subpath w result w' := by
  unfold attempt at h
  split at h
  · rename_i hit
    cases h
    exact .known hit
  · rename_i miss
    split at h
    · rename_i load
      cases h
      exact .failed miss load
    · rename_i load
      cases h
      exact .loaded miss load

/-- An attempt fails only where the provider does, so every failure is retried. -/
theorem isLookupFailure_of_attempt {t : TypeString} {subpath : String} {w w' : World σ}
    {e : ResolveError} (h : attempt provider kind text t subpath w = (.error e, w')) :
    e.isLookupFailure = true := by
  cases attempt_course h with
  | failed _ load => exact isLookupFailure_of_loadSymbol load

/-- How a resolution can go. Its caches are read at the start, and once more under
the text itself when a first attempt has failed. -/
inductive Course (provider : Provider σ) (kind : Kind) (text : String) (w : World σ) :
    Except ResolveError TypeHandle → World σ → Prop
  | cached {handle : TypeHandle} (hit : w.cached? kind text = some handle) :
      Course provider kind text w (.ok handle) w
  | unreadable {e : ResolveError} (miss : w.cached? kind text = none)
      (read : TypeString.read kind text = .error e) : Course provider kind text w (.error e) w
  | found {t : TypeString} {subpath : String} {handle : TypeHandle} {w' : World σ}
      (miss : w.cached? kind text = none) (read : TypeString.read kind text = .ok (t, subpath))
      (first : attempt provider kind text t subpath w = (.ok handle, w')) :
      Course provider kind text w (.ok handle) w'
  | overtaken {t : TypeString} {subpath : String} {e : ResolveError} {handle : TypeHandle}
      {w' : World σ} (miss : w.cached? kind text = none)
      (read : TypeString.read kind text = .ok (t, subpath))
      (first : attempt provider kind text t subpath w = (.error e, w'))
      (hit : w'.cached? kind text = some handle) : Course provider kind text w (.ok handle) w'
  | retried {t : TypeString} {subpath : String} {e : ResolveError} {w₁ w' : World σ}
      {result : Except ResolveError TypeHandle} (miss : w.cached? kind text = none)
      (read : TypeString.read kind text = .ok (t, subpath))
      (first : attempt provider kind text t subpath w = (.error e, w₁))
      (still : w₁.cached? kind text = none)
      (second : attempt provider kind text t kind.defaultSubpath w₁ = (result, w')) :
      Course provider kind text w result w'

/-- Parsing and the inference of a subpath, taken together as `TypeString.read`. -/
theorem resolve_of_miss {w : World σ} (miss : w.cached? kind text = none) :
    resolve provider kind text w =
      match TypeString.read kind text with
      | .error e => (.error e, w)
      | .ok (t, subpath) =>
        match attempt provider kind text t subpath w with
        | (.ok handle, w) => (.ok handle, w)
        | (.error _, w) => retry provider kind text t w := by
  rw [resolve, miss, TypeString.read]
  cases TypeString.parse text with
  | error e => rfl
  | ok t =>
      cases hsub : t.inferredSubpath kind with
      | error e => simp only [hsub]
      | ok subpath =>
          simp only [hsub]
          rcases first : attempt provider kind text t subpath w with ⟨e | handle, w₁⟩
          · -- the test for lookup failures never fails here
            simp only [isLookupFailure_of_attempt first, if_true]
          · rfl

theorem resolve_course {w w' : World σ} {result : Except ResolveError TypeHandle}
    (h : resolve provider kind text w = (result, w')) :
    Course provider kind text w result w' := by
  cases hit : w.cached? kind text with
  | some handle =>
      simp only [resolve, hit] at h
      cases h
      exact .cached hit
  | none =>
      rw [resolve_of_miss hit] at h
      split at h
      · rename_i read
        cases h
        exact .unreadable hit read
      · rename_i read
        split at h
        · rename_i first
          cases h
          exact .found hit read first
        · rename_i w₁ first
          unfold retry at h
          split at h
          · rename_i hit'
            cases h
            exact .overtaken hit read first hit'
          · rename_i still
            exact .retried hit read first still h

/-- Besides what its provider does, a resolver only writes to its caches, and only
under keys that can be read. -/
theorem within_attempt {G : World σ → World σ → Prop} (h : provider.Within G)
    (trans : ∀ {u v w}, G u v → G v w → G u w)
    (insert : ∀ {key t subpath} w handle, TypeString.read kind key = .ok (t, subpath) →
      G w (w.insert kind key handle))
    {t : TypeString} {subpath place : String} (read : TypeString.read kind text = .ok (t, subpath))
    {w w' : World σ} {result : Except ResolveError TypeHandle}
    (hattempt : attempt provider kind text t place w = (result, w')) : G w w' := by
  have hload := h.loadSymbol trans (t.withSubpath place) w
  have hnormalized := TypeString.read_normalized (TypeString.read_eq_ok_iff.1 read).1 kind
  cases attempt_course hattempt with
  | known _ => exact insert w _ read
  | loaded _ load =>
      rw [load] at hload
      exact trans hload (trans (insert _ _ read) (insert _ _ hnormalized))
  | failed _ load =>
      rw [load] at hload
      exact hload

theorem within_resolve {G : World σ → World σ → Prop} (h : provider.Within G)
    (refl : ∀ w, G w w) (trans : ∀ {u v w}, G u v → G v w → G u w)
    (insert : ∀ {key t subpath} w handle, TypeString.read kind key = .ok (t, subpath) →
      G w (w.insert kind key handle))
    {w w' : World σ} {result : Except ResolveError TypeHandle}
    (hresolve : resolve provider kind text w = (result, w')) : G w w' := by
  cases resolve_course hresolve with
  | cached _ => exact refl w
  | unreadable _ _ => exact refl w
  | found _ read first => exact within_attempt h trans insert read first
  | overtaken _ read first _ => exact within_attempt h trans insert read first
  | retried _ read first _ second =>
      exact trans (within_attempt h trans insert read first)
        (within_attempt h trans insert read second)

def serve (provider : Provider σ) (q : Request) (w : World σ) :
    Except ResolveError TypeHandle × World σ :=
  resolve provider q.kind q.text w

end Resolver

/-! ### New resolvers -/

namespace Registry

def resolveNew (r : Registry) (q : Request) : Except ResolveError TypeHandle :=
  (Resolver.serve r.provider q (World.new ())).1

theorem resolveNew_of_read_error {r : Registry} {q : Request} {e : ResolveError}
    (h : TypeString.read q.kind q.text = .error e) : r.resolveNew q = .error e := by
  rw [resolveNew, Resolver.serve, Resolver.resolve_of_miss (World.cached?_new () _ _), h]

/-- A new resolver tries the inferred subpath and then the default one. -/
theorem resolveNew_of_read {r : Registry} {q : Request} {t : TypeString} {subpath : String}
    (h : TypeString.read q.kind q.text = .ok (t, subpath)) :
    r.resolveNew q =
      match r.load (t.withSubpath subpath) with
      | .ok handle => .ok handle
      | .error _ => r.load (t.withSubpath q.kind.defaultSubpath) := by
  have hnew (key : String) : (World.new ()).cached? q.kind key = none := World.cached?_new () _ _
  rw [resolveNew, Resolver.serve, Resolver.resolve_of_miss (hnew _), h]
  simp only [Resolver.attempt, Resolver.retry, provider, loadSymbol_detached, load_source, hnew]
  cases r.load (t.withSubpath subpath) with
  | ok handle => rfl
  | error e =>
      -- the first attempt has left the caches empty for the second
      simp only [World.new, World.cached?, Caches.get?_empty]
      cases r.load (t.withSubpath q.kind.defaultSubpath) <;> rfl

theorem read_of_resolveNew {r : Registry} {q : Request} {handle : TypeHandle}
    (h : r.resolveNew q = .ok handle) :
    ∃ t subpath, TypeString.read q.kind q.text = .ok (t, subpath) := by
  cases hread : TypeString.read q.kind q.text with
  | error e =>
      rw [resolveNew_of_read_error hread] at h
      cases h
  | ok found => exact ⟨found.1, found.2, rfl⟩

/-- What can be read fails with a new resolver only where the provider does. -/
theorem isLookupFailure_of_resolveNew {r : Registry} {q : Request} {t : TypeString}
    {subpath : String} (hread : TypeString.read q.kind q.text = .ok (t, subpath))
    {e : ResolveError} (h : r.resolveNew q = .error e) : e.isLookupFailure = true := by
  rw [resolveNew_of_read hread] at h
  split at h
  · cases h
  · exact isLookupFailure_of_load h

end Registry

namespace Resolver

variable {provider : Provider σ} {r : Registry} {w w' : World σ}

/-- An attempt fails as loading from the registry does. -/
theorem load_of_attempt (h : provider.Serves r) {kind : Kind} {text : String} {t : TypeString}
    {subpath : String} {e : ResolveError}
    (hattempt : attempt provider kind text t subpath w = (.error e, w')) :
    r.load (t.withSubpath subpath) = .error e := by
  cases attempt_course hattempt with
  | failed _ load => rw [← h.load (t.withSubpath subpath) w, load]

/-- Over a registry a resolution fails as that of a new resolver does, whatever
the caches hold and whatever happens to them meanwhile. -/
theorem resolveNew_of_serve_error (h : provider.Serves r) {q : Request} {e : ResolveError}
    (hserve : serve provider q w = (.error e, w')) : r.resolveNew q = .error e := by
  cases resolve_course hserve with
  | unreadable _ hread => exact Registry.resolveNew_of_read_error hread
  | retried _ hread first _ second =>
      rw [Registry.resolveNew_of_read hread, load_of_attempt h first, load_of_attempt h second]

end Resolver

/-- A package that has the same class in two modules. -/
def twoModules : Registry :=
  .build [.message "p.foo" "C" .integer, .message "p.msg" "C" .boolean]

end TypeResolution
