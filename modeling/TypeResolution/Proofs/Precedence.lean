import TypeResolution.Proofs.MemoTable

/-!
Which type a spelling gets when others were resolved before it. The normalized
form drops the subpath, so what a resolver knows of a package and a class is what
the first spelling of them found that could be resolved at all, and every later
spelling of the same kind gets that. `serve_after_requests` says so exactly;
`resolveNew_not_kept` shows that it need not be what the later spelling would
have found by itself.
-/

namespace TypeResolution

variable {σ : Type}

def Resolver.after (provider : Provider σ) (qs : List Request) (w : World σ) : World σ :=
  qs.foldl (fun w q => (serve provider q w).2) w

/-- What all spellings of a type in one kind share. -/
def Request.key? (q : Request) : Option (Kind × String) :=
  (TypeString.parse q.text).toOption.map fun t => (q.kind, t.normalized)

theorem Request.key?_of_parse {q : Request} {t : TypeString} (h : TypeString.parse q.text = .ok t) :
    q.key? = some (q.kind, t.normalized) := by
  rw [key?, h]
  rfl

theorem Request.key?_of_read {q : Request} {t : TypeString} {subpath : String}
    (h : TypeString.read q.kind q.text = .ok (t, subpath)) :
    q.key? = some (q.kind, t.normalized) :=
  key?_of_parse (TypeString.read_eq_ok_iff.1 h).1

theorem Request.key?_eq_some_iff {q : Request} {key : Kind × String} :
    q.key? = some key ↔ ∃ t, TypeString.parse q.text = .ok t ∧ (q.kind, t.normalized) = key := by
  cases hparse : TypeString.parse q.text <;> simp [key?, hparse, Except.toOption]

theorem Request.key?_normalized {text : String} {t : TypeString}
    (h : TypeString.parse text = .ok t) (kind : Kind) :
    Request.key? ⟨kind, t.normalized⟩ = some (kind, t.normalized) :=
  key?_of_parse (t := t.short) (TypeString.parse_normalized h)

namespace Registry

def finds? (r : Registry) (key : Kind × String) (q : Request) : Option TypeHandle :=
  if q.key? = some key then (r.resolveNew q).toOption else none

/-- What new resolvers find for the first request with the key that they can
resolve. -/
def firstFound? (r : Registry) (key : Kind × String) (qs : List Request) : Option TypeHandle :=
  qs.findSome? (r.finds? key)

end Registry

namespace MemoTable

def after (source : Source σ) (qs : List Request) (m : MemoTable σ) : MemoTable σ :=
  qs.foldl (fun m q => (m.resolve source q).2) m

theorem Refines.after {w : World σ} {m : MemoTable σ} (h : Refines w m) (source : Source σ)
    (qs : List Request) : Refines (Resolver.after (.detached source) qs w) (m.after source qs) := by
  induction qs generalizing w m with
  | nil => exact h
  | cons q qs ih => exact ih (h.resolve source q).2

/-- Over a registry a text without an entry is resolved as by a new resolver, and
the type is remembered if there is one. -/
theorem resolve_registry {r : Registry} {q : Request} {m : MemoTable σ} {t : TypeString}
    {subpath : String} (hread : TypeString.read q.kind q.text = .ok (t, subpath))
    (hentry : m.known? q.kind t.normalized = none) :
    m.resolve r.source q =
      (r.resolveNew q,
        match r.resolveNew q with
        | .ok handle => m.remember q.kind t.normalized handle
        | .error _ => m) := by
  rw [resolve_of_read hread, hentry, Registry.resolveNew_of_read hread]
  simp only [fetch, Registry.load_source]
  cases r.load (t.withSubpath subpath) with
  | ok handle => rfl
  | error e => cases r.load (t.withSubpath q.kind.defaultSubpath) <;> rfl

/-- One more request over a registry is remembered if nothing was before. -/
theorem known?_resolve_registry (r : Registry) (q : Request) (m : MemoTable σ) (kind : Kind)
    (key : String) :
    (m.resolve r.source q).2.known? kind key = (m.known? kind key).or (r.finds? (kind, key) q) := by
  unfold Registry.finds?
  cases hread : TypeString.read q.kind q.text with
  | error e =>
      rw [resolve_of_read_error hread, Registry.resolveNew_of_read_error hread]
      simp [Except.toOption]
  | ok found =>
      obtain ⟨t, subpath⟩ := found
      rw [Request.key?_of_read hread]
      cases hentry : m.known? q.kind t.normalized with
      | some handle =>
          rw [resolve_of_read hread, hentry]
          by_cases hkey : q.kind = kind ∧ t.normalized = key
          · obtain ⟨rfl, rfl⟩ := hkey
            rw [hentry]
            rfl
          · simp [hkey]
      | none =>
          rw [resolve_registry hread hentry]
          by_cases hkey : q.kind = kind ∧ t.normalized = key
          · obtain ⟨rfl, rfl⟩ := hkey
            rw [hentry]
            cases r.resolveNew q with
            | ok handle => simp [remember, Except.toOption]
            | error e => simp [hentry, Except.toOption]
          · have hother : ¬(kind = q.kind ∧ key = t.normalized) := fun h => hkey ⟨h.1.symm, h.2.symm⟩
            cases r.resolveNew q with
            | ok handle => simp [remember, hkey, hother]
            | error e => simp [hkey]

/-- What a run of requests over a registry leaves in the table. -/
theorem known?_after_registry (r : Registry) (qs : List Request) (m : MemoTable σ) (kind : Kind)
    (key : String) :
    (m.after r.source qs).known? kind key =
      (m.known? kind key).or (r.firstFound? (kind, key) qs) := by
  induction qs generalizing m with
  | nil => simp [after, Registry.firstFound?]
  | cons q qs ih =>
      rw [after, List.foldl_cons, ← after, ih, known?_resolve_registry, Option.or_assoc]
      congr 1
      simp only [Registry.firstFound?, List.findSome?_cons]
      cases r.finds? (kind, key) q <;> rfl

end MemoTable

/-- A type string that a new resolver over the registry can resolve is resolved
after any requests as well. What it gets is the type that a new resolver finds
for the first of these requests with the same kind and normalized form that can
be resolved, so it is the type that it names itself just if these agree. -/
theorem serve_after_requests (r : Registry) (qs : List Request) (q : Request) (handle : TypeHandle)
    (h : r.resolveNew q = .ok handle) :
    ∃ key, q.key? = some key ∧
      (Resolver.serve r.provider q (Resolver.after r.provider qs (.new ()))).1 =
        .ok ((r.firstFound? key qs).getD handle) ∧
      ((Resolver.serve r.provider q (Resolver.after r.provider qs (.new ()))).1 = .ok handle ↔
        ∀ first, r.firstFound? key qs = some first → first = handle) := by
  obtain ⟨t, subpath, hread⟩ : ∃ t subpath, TypeString.read q.kind q.text = .ok (t, subpath) := by
    cases hread : TypeString.read q.kind q.text with
    | error e =>
        rw [Registry.resolveNew_of_read_error hread] at h
        cases h
    | ok found => exact ⟨found.1, found.2, rfl⟩
  refine ⟨_, Request.key?_of_parse (TypeString.read_eq_ok_iff.1 hread).1, ?_⟩
  have hrefines := (MemoTable.refines_new ()).after r.source qs
  have hresult : (Resolver.serve r.provider q (Resolver.after r.provider qs (.new ()))).1 =
      .ok ((r.firstFound? (q.kind, t.normalized) qs).getD handle) := by
    rw [Registry.provider, (hrefines.resolve r.source q).1]
    have hentry := MemoTable.known?_after_registry r qs (.new ()) q.kind t.normalized
    cases hfirst : r.firstFound? (q.kind, t.normalized) qs with
    | some first =>
        rw [hfirst] at hentry
        rw [MemoTable.resolve_of_read hread, hentry]
        rfl
    | none =>
        rw [hfirst] at hentry
        rw [MemoTable.resolve_registry hread hentry, h]
        rfl
  refine ⟨hresult, ?_⟩
  rw [hresult, Except.ok.injEq]
  cases r.firstFound? (q.kind, t.normalized) qs <;> simp

/-- Requests of which two spell the class `C` of the package `p`, the first of them
in the module that is not the default one. -/
def detours : List Request :=
  [⟨.message, "p"⟩, ⟨.service, "p/C"⟩, ⟨.message, "p//foo/C"⟩, ⟨.message, "p/msg/C"⟩]

theorem serve_after_requests_twoModules :
    twoModules.resolveNew ⟨.message, "p/C"⟩ = .ok (.native "p.msg.C" .boolean) ∧
      (Resolver.serve twoModules.provider ⟨.message, "p/C"⟩
        (Resolver.after twoModules.provider detours (.new ()))).1 =
          .ok (.native "p.foo.C" .integer) := by
  have hnew : twoModules.resolveNew ⟨.message, "p/C"⟩ = .ok (.native "p.msg.C" .boolean) := rfl
  obtain ⟨key, hkey, hresult, -⟩ := serve_after_requests twoModules detours _ _ hnew
  have hkey' : key = (.message, "p/C") := (Option.some.inj hkey).symm
  subst hkey'
  have hfirst : twoModules.firstFound? (.message, "p/C") detours =
      some (.native "p.foo.C" .integer) := rfl
  rw [hfirst] at hresult
  exact ⟨hnew, hresult⟩

/-- The type of a type string is not kept by every earlier request. -/
theorem resolveNew_not_kept :
    ¬∀ (r : Registry) (qs : List Request) (q : Request) (handle : TypeHandle),
      r.resolveNew q = .ok handle →
        (Resolver.serve r.provider q (Resolver.after r.provider qs (.new ()))).1 = .ok handle := by
  intro hkept
  have hresult := hkept twoModules [⟨.message, "p/foo/C"⟩] ⟨.message, "p/C"⟩
    (.native "p.msg.C" .boolean) rfl
  have hfound : (Resolver.serve twoModules.provider ⟨.message, "p/C"⟩
      (Resolver.after twoModules.provider [⟨.message, "p/foo/C"⟩] (.new ()))).1 =
        .ok (.native "p.foo.C" .integer) := rfl
  rw [hfound] at hresult
  simp at hresult

end TypeResolution
