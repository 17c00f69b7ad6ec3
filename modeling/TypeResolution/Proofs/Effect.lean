import TypeResolution.Proofs.Resolution

/-!
What one resolution does to the caches, whatever they hold. Nothing is assumed of
the entries: others may have put any type under any key, readable or not. As long
as the provider does not touch the caches, a resolution that fails leaves them as
they were, and one that succeeds writes the text, and the normalized form only
where it has loaded the type (`effect_of_serve`).
-/

namespace TypeResolution

variable {σ : Type}

/-- The provider has been asked for the type at some subpath and has given it, which
led to the outside of `w'`. The caches were those of `w` then. -/
def Provider.Gave (provider : Provider σ) (t : TypeString) (handle : TypeHandle)
    (w w' : World σ) : Prop :=
  ∃ subpath v v', v.caches = w.caches ∧
    loadSymbol provider (t.withSubpath subpath) v = (.ok handle, v') ∧ w'.outside = v'.outside

/-- What the success of a resolution has done. The text has the type; if it had
one before, it has this one, and nothing has happened. The other kind and other
keys are as they were. So is the normalized form, unless the provider was asked and
gave the type; then it has the type too. No key is gone. -/
structure Effect (provider : Provider σ) (q : Request) (handle : TypeHandle)
    (w w' : World σ) : Prop where
  stored : w'.cached? q.kind q.text = some handle
  kept : ∀ held, w.cached? q.kind q.text = some held → held = handle ∧ w' = w
  otherKind : ∀ kind, kind ≠ q.kind → w'.caches.table kind = w.caches.table kind
  otherKeys : ∀ key, ¬q.StoredUnder key → w'.cached? q.kind key = w.cached? q.kind key
  normalized : ∀ t, TypeString.parse q.text = .ok t →
    (w'.outside = w.outside ∧
        w'.cached? q.kind t.normalized = w.cached? q.kind t.normalized) ∨
      (provider.Gave t handle w w' ∧ w'.cached? q.kind t.normalized = some handle)
  grown : ∀ kind, w.caches.keys kind ⊆ w'.caches.keys kind

namespace Effect

variable {provider : Provider σ} {q : Request} {t : TypeString} {handle : TypeHandle}
  {v v' w : World σ}

theorem of_cached (hit : w.cached? q.kind q.text = some handle) :
    Effect provider q handle w w where
  stored := hit
  kept held h := by
    rw [hit] at h
    exact ⟨(Option.some.inj h).symm, rfl⟩
  otherKind _ _ := rfl
  otherKeys _ _ := rfl
  normalized _ _ := .inl ⟨rfl, rfl⟩
  grown _ _ h := h

theorem of_known (hparse : TypeString.parse q.text = .ok t)
    (miss : w.cached? q.kind q.text = none) (hit : w.cached? q.kind t.normalized = some handle) :
    Effect provider q handle w (w.insert q.kind q.text handle) where
  stored := by simp [World.cached?_insert]
  kept held h := by
    rw [miss] at h
    cases h
  otherKind kind hne := Caches.table_insert_of_ne w.caches hne q.text handle
  otherKeys key hkey := by
    rw [Request.storedUnder_iff hparse, not_or] at hkey
    simp [World.cached?_insert, hkey.1]
  normalized u hparse' := by
    rw [hparse] at hparse'
    cases hparse'
    -- the normalized form is not the text, which was not known
    have hne : t.normalized ≠ q.text := by
      intro heq
      rw [heq, miss] at hit
      cases hit
    exact .inl ⟨rfl, by simp [World.cached?_insert, hne]⟩
  grown _ _ h := Caches.mem_keys_insert.2 (.inr h)

theorem of_loaded (hparse : TypeString.parse q.text = .ok t)
    (miss : w.cached? q.kind q.text = none) (hv : v.caches = w.caches) {subpath : String}
    (load : loadSymbol provider (t.withSubpath subpath) v = (.ok handle, v'))
    (hv' : v'.caches = w.caches) :
    Effect provider q handle w
      ((v'.insert q.kind q.text handle).insert q.kind t.normalized handle) where
  stored := by simp [World.cached?_insert]
  kept held h := by
    rw [miss] at h
    cases h
  otherKind kind hne := by
    rw [World.caches_insert, World.caches_insert, Caches.table_insert_of_ne _ hne,
      Caches.table_insert_of_ne _ hne, hv']
  otherKeys key hkey := by
    rw [Request.storedUnder_iff hparse, not_or] at hkey
    simp [World.cached?, Caches.get?_insert, hkey.1, hkey.2, hv']
  normalized u hparse' := by
    rw [hparse] at hparse'
    cases hparse'
    exact .inr ⟨⟨subpath, v, v', hv, load, rfl⟩, by simp [World.cached?_insert]⟩
  grown kind key h := by
    rw [← hv'] at h
    exact Caches.mem_keys_insert.2 (.inr (Caches.mem_keys_insert.2 (.inr h)))

end Effect

/-- With any caches and any provider that does not touch them, a resolution that
fails leaves the caches as they were, and one that succeeds has exactly the stated
effect. -/
theorem effect_of_serve {provider : Provider σ} (h : provider.Quiet) (q : Request)
    (w : World σ) :
    match Resolver.serve provider q w with
    | (.error _, w') => w'.caches = w.caches
    | (.ok handle, w') => Effect provider q handle w w' := by
  have hload {path : SymbolPath} {v v' : World σ} {result : Except ResolveError TypeHandle}
      (hloaded : loadSymbol provider path v = (result, v')) : v'.caches = v.caches := by
    rw [← h.caches_loadSymbol path v, hloaded]
  rcases hserve : Resolver.serve provider q w with ⟨result, w'⟩
  cases Resolver.resolve_course hserve with
  | cached hit => exact .of_cached hit
  | unreadable _ _ => rfl
  | found miss read first =>
      have hparse := (TypeString.read_eq_ok_iff.1 read).1
      cases Resolver.attempt_course first with
      | known hit => exact .of_known hparse miss hit
      | loaded _ load => exact .of_loaded hparse miss rfl load (hload load)
  | overtaken miss _ first hit =>
      -- nobody can have written the text in the meantime
      cases Resolver.attempt_course first with
      | failed _ load =>
          rw [World.cached?, hload load, ← World.cached?, miss] at hit
          cases hit
  | retried miss read first _ second =>
      have hparse := (TypeString.read_eq_ok_iff.1 read).1
      cases Resolver.attempt_course first with
      | failed miss' load =>
          cases Resolver.attempt_course second with
          | known hit =>
              -- nor the normalized form
              rw [World.cached?, hload load, ← World.cached?, miss'] at hit
              cases hit
          | loaded _ load' =>
              exact .of_loaded hparse miss (hload load) load' ((hload load').trans (hload load))
          | failed _ load' => exact (hload load').trans (hload load)

/-- Caches that no resolver makes: a text that cannot be read, and a spelling without
its normalized form. -/
def strayCaches : Caches :=
  (Caches.empty.insert .message "p" (.native "stray" .unit)).insert .message "p/msg/C"
    (.native "stray" .unit)

theorem effect_of_serve_stray :
    ∃ w', Resolver.serve twoModules.provider ⟨.message, "p/foo/C"⟩ ⟨strayCaches, ()⟩ =
        (.ok (.native "p.foo.C" .integer), w') ∧
      Effect twoModules.provider ⟨.message, "p/foo/C"⟩ (.native "p.foo.C" .integer)
        ⟨strayCaches, ()⟩ w' := by
  have heffect := effect_of_serve twoModules.quiet_provider ⟨.message, "p/foo/C"⟩ ⟨strayCaches, ()⟩
  have hresult : (Resolver.serve twoModules.provider ⟨.message, "p/foo/C"⟩ ⟨strayCaches, ()⟩).1 =
      .ok (.native "p.foo.C" .integer) := rfl
  rcases hserve : Resolver.serve twoModules.provider ⟨.message, "p/foo/C"⟩ ⟨strayCaches, ()⟩ with
    ⟨result, w'⟩
  rw [hserve] at heffect hresult
  subst hresult
  exact ⟨w', rfl, heffect⟩

end TypeResolution
