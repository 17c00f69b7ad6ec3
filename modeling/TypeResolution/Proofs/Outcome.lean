import TypeResolution.Proofs.Resolution

/-!
How a resolution ends, whatever happens while it waits for its provider. The
courses of a resolution differ in how often the provider is asked. For what is in
the caches afterwards only the end matters: the resolver writes nothing, or
copies the entry of the normalized form to the text, or writes what it has loaded
under both keys. `outcome_of_serve` lists these ends, with all that came before
summed up in one relation of worlds.
-/

namespace TypeResolution.Resolver

variable {σ : Type} {provider : Provider σ} {G : World σ → World σ → Prop} {q : Request}
  {w w' : World σ} {result : Except ResolveError TypeHandle}

/-- How a resolution ends that started in `w`. What is done before the end by
others stays within `G`. -/
inductive Outcome (G : World σ → World σ → Prop) (q : Request) (w : World σ) :
    Except ResolveError TypeHandle → World σ → Prop
  | failed {e : ResolveError} {w₁ : World σ} (before : G w w₁) : Outcome G q w (.error e) w₁
  | held {handle : TypeHandle} {w₁ : World σ} (before : G w w₁)
      (hit : w₁.cached? q.kind q.text = some handle) : Outcome G q w (.ok handle) w₁
  | copied {t : TypeString} {handle : TypeHandle} {w₁ : World σ} (before : G w w₁)
      (parsed : TypeString.parse q.text = .ok t) (miss : w₁.cached? q.kind q.text = none)
      (hit : w₁.cached? q.kind t.normalized = some handle) :
      Outcome G q w (.ok handle) (w₁.insert q.kind q.text handle)
  | loaded {t : TypeString} {handle : TypeHandle} {w₀ w₁ : World σ} (before : G w w₀)
      (parsed : TypeString.parse q.text = .ok t) (miss : w₀.cached? q.kind t.normalized = none)
      (during : G w₀ w₁) :
      Outcome G q w (.ok handle)
        ((w₁.insert q.kind q.text handle).insert q.kind t.normalized handle)

/-- A failed attempt has written nothing itself. -/
theorem within_of_attempt_error (h : provider.Within G)
    (trans : ∀ {u v w}, G u v → G v w → G u w) {t : TypeString} {place : String}
    {e : ResolveError}
    (hattempt : attempt provider q.kind q.text t place w = (.error e, w')) : G w w' := by
  have hload := h.loadSymbol trans (t.withSubpath place) w
  cases attempt_course hattempt with
  | failed _ load =>
      rw [load] at hload
      exact hload

theorem outcome_of_attempt (h : provider.Within G) (trans : ∀ {u v w}, G u v → G v w → G u w)
    {t : TypeString} {place : String} {w₁ : World σ} (before : G w w₁)
    (hparse : TypeString.parse q.text = .ok t) (miss : w₁.cached? q.kind q.text = none)
    (hattempt : attempt provider q.kind q.text t place w₁ = (result, w')) :
    Outcome G q w result w' := by
  have hload := h.loadSymbol trans (t.withSubpath place) w₁
  cases attempt_course hattempt with
  | known hit => exact .copied before hparse miss hit
  | loaded miss' load =>
      rw [load] at hload
      exact .loaded before hparse miss' hload
  | failed _ load =>
      rw [load] at hload
      exact .failed (trans before hload)

theorem outcome_of_serve (h : provider.Within G) (refl : ∀ w, G w w)
    (trans : ∀ {u v w}, G u v → G v w → G u w) (hserve : serve provider q w = (result, w')) :
    Outcome G q w result w' := by
  cases resolve_course hserve with
  | cached hit => exact .held (refl w) hit
  | unreadable _ _ => exact .failed (refl w)
  | found miss read first =>
      exact outcome_of_attempt h trans (refl w) (TypeString.read_eq_ok_iff.1 read).1 miss first
  | overtaken _ _ first hit => exact .held (within_of_attempt_error h trans first) hit
  | retried _ read first still second =>
      have hfirst := within_of_attempt_error h trans first
      exact outcome_of_attempt h trans hfirst (TypeString.read_eq_ok_iff.1 read).1 still second

end TypeResolution.Resolver
