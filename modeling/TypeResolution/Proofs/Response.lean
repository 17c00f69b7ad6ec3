import TypeResolution.Proofs.Resolution

/-!
What a resolver over a registry answers, as a function of its caches alone. Where
the provider gives out the modules of a registry and does not touch the caches,
the provider can be left out of the account: a resolution that finds neither the
text nor its normalized form in the caches goes as with a new resolver
(`Resolver.serve_of_serves`).
-/

namespace TypeResolution

def Caches.store (c : Caches) (q : Request) (normalized : String) :
    Except ResolveError TypeHandle → Caches
  | .error _ => c
  | .ok handle => (c.insert q.kind q.text handle).insert q.kind normalized handle

theorem Caches.get?_store_ok (c : Caches) (q : Request) (normalized : String)
    (handle : TypeHandle) (kind : Kind) (key : String) :
    (c.store q normalized (.ok handle)).get? kind key =
      if kind = q.kind ∧ (key = q.text ∨ key = normalized) then some handle
      else c.get? kind key := by
  rw [store, get?_insert, get?_insert]
  by_cases hkind : kind = q.kind
  · by_cases htext : key = q.text <;> simp [hkind, htext]
  · simp [hkind]

/-- The answer to a request and the caches after it, where types are those of the
registry. -/
def Registry.respond (r : Registry) (q : Request) (c : Caches) :
    Except ResolveError TypeHandle × Caches :=
  match c.get? q.kind q.text with
  | some handle => (.ok handle, c)
  | none =>
    match TypeString.read q.kind q.text with
    | .error e => (.error e, c)
    | .ok (t, _) =>
      match c.get? q.kind t.normalized with
      | some handle => (.ok handle, c.insert q.kind q.text handle)
      | none => (r.resolveNew q, c.store q t.normalized (r.resolveNew q))

namespace Registry

variable {r : Registry} {q : Request} {c : Caches} {t : TypeString} {subpath : String}

theorem respond_of_cached {handle : TypeHandle} (h : c.get? q.kind q.text = some handle) :
    r.respond q c = (.ok handle, c) := by
  rw [respond, h]

theorem respond_of_read_error (h : c.get? q.kind q.text = none) {e : ResolveError}
    (hread : TypeString.read q.kind q.text = .error e) : r.respond q c = (.error e, c) := by
  rw [respond, h, hread]

theorem respond_of_known (h : c.get? q.kind q.text = none)
    (hread : TypeString.read q.kind q.text = .ok (t, subpath)) {handle : TypeHandle}
    (hknown : c.get? q.kind t.normalized = some handle) :
    r.respond q c = (.ok handle, c.insert q.kind q.text handle) := by
  simp only [respond, h, hread, hknown]

theorem respond_of_unknown (h : c.get? q.kind q.text = none)
    (hread : TypeString.read q.kind q.text = .ok (t, subpath))
    (hunknown : c.get? q.kind t.normalized = none) :
    r.respond q c = (r.resolveNew q, c.store q t.normalized (r.resolveNew q)) := by
  simp only [respond, h, hread, hunknown]

/-- The path at which a new resolver looks last: the default one is tried where the
inferred one does not lead to a type. -/
def lastPath (r : Registry) (q : Request) (t : TypeString) (subpath : String) : SymbolPath :=
  match r.load (t.withSubpath subpath) with
  | .ok _ => t.withSubpath subpath
  | .error _ => t.withSubpath q.kind.defaultSubpath

@[simp] theorem className_lastPath (r : Registry) (q : Request) (t : TypeString)
    (subpath : String) : (r.lastPath q t subpath).className = t.className := by
  unfold lastPath
  split <;> rfl

theorem resolveNew_eq_load (hread : TypeString.read q.kind q.text = .ok (t, subpath)) :
    r.resolveNew q = r.load (r.lastPath q t subpath) := by
  rw [resolveNew_of_read hread, lastPath]
  cases hload : r.load (t.withSubpath subpath) with
  | ok handle => exact hload.symm
  | error e => rfl

end Registry

/-! ### The resolver responds -/

namespace Resolver

variable {σ : Type} {provider : Provider σ} {r : Registry} {q : Request} {w w' : World σ}
  {result : Except ResolveError TypeHandle}

/-- An attempt at something that the caches do not know is a look into the registry.
What it finds is added to what the provider has left in the caches. -/
theorem attempt_of_serves (hserves : provider.Serves r) {t : TypeString}
    (miss : w.cached? q.kind t.normalized = none) (place : String)
    (h : attempt provider q.kind q.text t place w = (result, w')) :
    result = r.load (t.withSubpath place) ∧
      w'.caches =
        (loadSymbol provider (t.withSubpath place) w).2.caches.store q t.normalized result := by
  have hload := hserves.load (t.withSubpath place) w
  cases attempt_course h with
  | known hit =>
      rw [miss] at hit
      cases hit
  | loaded _ load =>
      rw [load] at hload
      rw [load]
      exact ⟨hload, rfl⟩
  | failed _ load =>
      rw [load] at hload
      rw [load]
      exact ⟨hload, rfl⟩

/-- What the caches do not know is answered as by a new resolver, if a failure to load
it leaves the caches as they are. Where the default path is tried, the provider is asked
for it with the same caches. -/
theorem serve_of_unknown (hserves : provider.Serves r) {t : TypeString} {subpath : String}
    (miss : w.cached? q.kind q.text = none)
    (hread : TypeString.read q.kind q.text = .ok (t, subpath))
    (unknown : w.cached? q.kind t.normalized = none)
    (hkept : ∀ e, r.load (t.withSubpath subpath) = .error e →
      (loadSymbol provider (t.withSubpath subpath) w).2.caches = w.caches) :
    (serve provider q w).1 = r.resolveNew q ∧
      ∃ v, v.caches = w.caches ∧
        (serve provider q w).2.caches =
          (loadSymbol provider (r.lastPath q t subpath) v).2.caches.store q t.normalized
            (r.resolveNew q) := by
  rw [Registry.resolveNew_eq_load hread, serve, resolve_of_miss miss, hread, Registry.lastPath]
  rcases hfirst : attempt provider q.kind q.text t subpath w with ⟨first, w₁⟩
  obtain ⟨rfl, hcaches⟩ := attempt_of_serves hserves unknown subpath hfirst
  cases hload : r.load (t.withSubpath subpath) with
  | ok handle =>
      rw [hload] at hcaches
      simp only [hfirst, hload]
      exact ⟨trivial, w, rfl, hcaches⟩
  | error e =>
      rw [hload, hkept e hload, Caches.store] at hcaches
      have still : w₁.cached? q.kind q.text = none := by
        rw [World.cached?, hcaches]
        exact miss
      have unknown' : w₁.cached? q.kind t.normalized = none := by
        rw [World.cached?, hcaches]
        exact unknown
      simp only [hfirst, hload, retry, still]
      rcases hsecond : attempt provider q.kind q.text t q.kind.defaultSubpath w₁ with ⟨second, w₂⟩
      obtain ⟨rfl, hcaches'⟩ := attempt_of_serves hserves unknown' q.kind.defaultSubpath hsecond
      exact ⟨rfl, w₁, hcaches, hcaches'⟩

theorem serve_of_serves (hserves : provider.Serves r) (hquiet : provider.Quiet) (q : Request)
    (w : World σ) :
    (serve provider q w).1 = (r.respond q w.caches).1 ∧
      (serve provider q w).2.caches = (r.respond q w.caches).2 := by
  cases hit : w.cached? q.kind q.text with
  | some handle =>
      rw [serve, resolve, hit, Registry.respond_of_cached hit]
      exact ⟨rfl, rfl⟩
  | none =>
      cases hread : TypeString.read q.kind q.text with
      | error e =>
          rw [serve, resolve_of_miss hit, hread, Registry.respond_of_read_error hit hread]
          exact ⟨rfl, rfl⟩
      | ok found =>
          obtain ⟨t, subpath⟩ := found
          cases hknown : w.cached? q.kind t.normalized with
          | some handle =>
              rw [serve, resolve_of_miss hit, hread, Registry.respond_of_known hit hread hknown]
              simp only [attempt, hknown]
              exact ⟨trivial, rfl⟩
          | none =>
              rw [Registry.respond_of_unknown hit hread hknown]
              obtain ⟨hresult, v, hcaches, hstored⟩ :=
                serve_of_unknown hserves hit hread hknown fun _ _ => hquiet.caches_loadSymbol _ w
              rw [hquiet.caches_loadSymbol, hcaches] at hstored
              exact ⟨hresult, hstored⟩

end Resolver

end TypeResolution
