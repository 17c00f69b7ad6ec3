import TypeResolution.Proofs.Nested.Origin
import TypeResolution.Proofs.Nested.Overtaking

/-!
Whether all spellings of a type agree in the caches. They need not: where a package
has a class in two modules, a call for the one can overtake a call for the other
(`not_coherent_of_nested`). The registries for which they do agree after all runs
are those where new resolvers resolve all spellings of a type alike
(`spellings_of_nested`).
-/

namespace TypeResolution

/-- Every key can be read, and has the same type as its normalized form. -/
def Caches.Coherent (c : Caches) : Prop :=
  ∀ ⦃kind key handle⦄, c.get? kind key = some handle →
    ∃ t, TypeString.parse key = .ok t ∧ c.get? kind t.normalized = some handle

/-- New resolvers that can resolve two spellings of a type resolve them alike. -/
def Registry.Interchangeable (r : Registry) : Prop :=
  ∀ ⦃q q' : Request⦄ ⦃key handle handle'⦄, q.key? = some key → q'.key? = some key →
    r.resolveNew q = .ok handle → r.resolveNew q' = .ok handle' → handle = handle'

/-! ### Registries whose spellings are interchangeable -/

namespace Registry

variable {r : Registry}

/-- What has an origin is what a new resolver finds for some spelling. -/
theorem Origin.resolveNew {past : History} {kind : Kind} {key : String} {handle : TypeHandle}
    {t : TypeString} {subpath : String} (h : r.Origin past kind key handle t subpath) :
    ∃ q : Request, q.key? = some (kind, t.normalized) ∧ r.resolveNew q = .ok handle := by
  have hload {text : String} {u : TypeString} (hu : TypeString.parse text = .ok u)
      (heq : u.normalized = t.normalized) : r.load (u.withSubpath subpath) = .ok handle :=
    load_eq_ok_iff.2 (h.respell hu heq).bound
  rcases h.suggested with rfl | ⟨text, u, -, hu, hsubpath, heq⟩
  · have hparse := TypeString.parse_normalized h.parsed
    have hread := TypeString.read_normalized h.parsed kind
    refine ⟨⟨kind, t.normalized⟩, Request.key?_normalized h.parsed kind, ?_⟩
    rw [resolveNew_of_read (q := ⟨kind, t.normalized⟩) hread, hload hparse rfl]
  · have hread : TypeString.read kind text = .ok (u, subpath) :=
      TypeString.read_eq_ok_iff.2 ⟨hu, hsubpath⟩
    refine ⟨⟨kind, text⟩, ?_, ?_⟩
    · rw [Request.key?_of_parse (q := ⟨kind, text⟩) hu, heq]
    · rw [resolveNew_of_read (q := ⟨kind, text⟩) hread, hload hu heq]

theorem Interchangeable.coherent (h : r.Interchangeable) {w : World History}
    (run : Run (·.Serves r) (.new []) w) : w.caches.Coherent := by
  intro kind key handle hfound
  obtain ⟨t, handle', hparse, hnormalized, -⟩ := Settled.new.run run hfound
  have hgrounded : Grounded r w := (Grounded.new r).run run
  obtain ⟨u, subpath, horigin⟩ := hgrounded.entries hfound
  obtain ⟨u', subpath', horigin'⟩ := hgrounded.entries hnormalized
  obtain ⟨q, hkey, hnew⟩ := horigin.resolveNew
  obtain ⟨q', hkey', hnew'⟩ := horigin'.resolveNew
  have hu : u = t := Except.ok.inj (horigin.parsed.symm.trans hparse)
  have hu' : u' = t.short :=
    Except.ok.inj (horigin'.parsed.symm.trans (TypeString.parse_normalized hparse))
  subst hu hu'
  have hsame : handle = handle' := h hkey hkey' hnew hnew'
  exact ⟨u, hparse, hsame ▸ hnormalized⟩

/-! ### A request made while another one waits -/

def interrupted (r : Registry) (target : String) (q : Request) : Provider History :=
  r.nesting (fun modulePath => if modulePath = target then [q] else []) 1

variable {target : String} {q : Request}

theorem serves_interrupted : (r.interrupted target q).Serves r := r.serves_nesting _ 1

theorem run_interrupted {w : World History} (q' : Request) :
    Run (·.Serves r) w (w.call (r.interrupted target q) q') :=
  r.run_nesting _ 1 [q'] w

theorem quiet_nesting (during : String → List Request) : (r.nesting during 0).Quiet where
  ask modulePath w := rfl
  lookUp {modulePath w lookup} hgiven className w' := by
    rw [r.snd_lookup_nesting during hgiven]
    rfl

theorem caches_interrupted (modulePath : String) (v : World History) :
    (r.interrupted target q modulePath v).2.caches =
      if modulePath = target then (r.respond q v.caches).2 else v.caches := by
  unfold interrupted nesting
  split
  · exact (Resolver.serve_of_serves (r.serves_nesting _ 0) (quiet_nesting _) q _).2
  · rfl

theorem caches_loadSymbol_interrupted (path : SymbolPath) (v : World History) :
    (loadSymbol (r.interrupted target q) path v).2.caches =
      if path.modulePath = target then (r.respond q v.caches).2 else v.caches := by
  rw [← caches_interrupted]
  unfold loadSymbol
  split
  · rename_i heq
    rw [heq]
  · rename_i lookup v₁ heq
    have hcaches : (lookup path.className v₁).2.caches = v₁.caches := by
      rw [r.snd_lookup_nesting _ (congrArg Prod.fst heq)]
      rfl
    rw [heq]
    split
    · rename_i heq'
      rw [heq'] at hcaches
      exact hcaches
    · rename_i heq'
      rw [heq'] at hcaches
      exact hcaches

/-- While a request waits for the module that it finds its type in, another one can be
served. Then what it finds is written over what the other one has found. -/
theorem exists_interrupted {t : TypeString} {subpath : String} {handle : TypeHandle}
    (hread : TypeString.read q.kind q.text = .ok (t, subpath))
    (hnew : r.resolveNew q = .ok handle) (q' : Request) {v : World History}
    (miss : v.cached? q.kind q.text = none) (unknown : v.cached? q.kind t.normalized = none) :
    ∃ target, (Resolver.serve (r.interrupted target q') q v).2.caches =
      (r.respond q' v.caches).2.store q t.normalized (.ok handle) := by
  have hload : r.load (r.lastPath q t subpath) = .ok handle :=
    (resolveNew_eq_load hread).symm.trans hnew
  set path := r.lastPath q t subpath with hpath
  -- a module tried before is another one, since it does not have the class
  have hkept : ∀ e, r.load (t.withSubpath subpath) = .error e →
      (loadSymbol (r.interrupted path.modulePath q') (t.withSubpath subpath) v).2.caches =
        v.caches := by
    intro e hfailed
    rw [caches_loadSymbol_interrupted, if_neg]
    intro heq
    have hbinds := load_eq_ok_iff.1 hload
    rw [← heq, hpath, className_lastPath] at hbinds
    rw [load_eq_ok_iff.2 hbinds] at hfailed
    cases hfailed
  obtain ⟨-, v', hcaches, hstored⟩ :=
    Resolver.serve_of_unknown serves_interrupted miss hread unknown hkept
  rw [caches_loadSymbol_interrupted, if_pos rfl, hcaches, hnew] at hstored
  exact ⟨path.modulePath, hstored⟩

/-- Of two spellings that new resolvers resolve, one overtakes the other in some run. -/
theorem exists_run_overtaken {q q' : Request} {key : Kind × String} {handle handle' : TypeHandle}
    (hkey : q.key? = some key) (hkey' : q'.key? = some key) (hnew : r.resolveNew q = .ok handle)
    (hnew' : r.resolveNew q' = .ok handle') (hdiffer : q'.text ≠ q.text)
    (hspelled : q'.text ≠ key.2) :
    ∃ w, Run (·.Serves r) (.new []) w ∧ w.cached? key.1 q'.text = some handle' ∧
      w.cached? key.1 key.2 = some handle := by
  obtain ⟨t, subpath, hread⟩ := read_of_resolveNew hnew
  obtain ⟨t', subpath', hread'⟩ := read_of_resolveNew hnew'
  rw [Request.key?_of_read hread] at hkey
  cases hkey
  rw [Request.key?_of_read hread'] at hkey'
  obtain ⟨hkind, hnormalized⟩ := Prod.mk.inj (Option.some.inj hkey')
  have hempty (key : String) : Caches.empty.get? q.kind key = none := Caches.get?_empty q.kind key
  have hempty' (key : String) : Caches.empty.get? q'.kind key = none :=
    Caches.get?_empty q'.kind key
  obtain ⟨target, hcaches⟩ := exists_interrupted hread hnew q'
    (v := (World.new []).note (.called q)) (hempty q.text) (hempty t.normalized)
  have hrespond : (r.respond q' .empty).2 = Caches.empty.store q' t'.normalized (.ok handle') := by
    rw [respond_of_unknown (hempty' q'.text) hread' (hempty' t'.normalized), hnew']
  have hcached (kind : Kind) (text : String) :
      ((World.new []).call (r.interrupted target q') q).cached? kind text =
        ((Caches.empty.store q' t'.normalized (.ok handle')).store q t.normalized
          (.ok handle)).get? kind text := by
    rw [← hrespond]
    exact congrArg (fun c => c.get? kind text) hcaches
  refine ⟨(World.new []).call (r.interrupted target q') q, run_interrupted q, ?_, ?_⟩
  · rw [hcached]
    simp [Caches.get?_store_ok, hdiffer, hspelled, hkind]
  · rw [hcached]
    simp [Caches.get?_store_ok]

theorem interchangeable_of_coherent
    (h : ∀ w, Run (·.Serves r) (.new []) w → w.caches.Coherent) : r.Interchangeable := by
  -- all spellings but the normalized form are left behind if they overtake another one
  have hspelling {q q' : Request} {key : Kind × String} {handle handle' : TypeHandle}
      (hkey : q.key? = some key) (hkey' : q'.key? = some key)
      (hnew : r.resolveNew q = .ok handle) (hnew' : r.resolveNew q' = .ok handle')
      (hdiffer : q'.text ≠ q.text) (hspelled : q'.text ≠ key.2) : handle = handle' := by
    obtain ⟨w, run, hfound, hnormalized⟩ :=
      exists_run_overtaken hkey hkey' hnew hnew' hdiffer hspelled
    obtain ⟨t, hparse, hagree⟩ := h w run hfound
    obtain ⟨t', hparse', rfl⟩ := Request.key?_eq_some_iff.1 hkey'
    rw [hparse'] at hparse
    cases hparse
    exact Option.some.inj (hnormalized.symm.trans hagree)
  intro q q' key handle handle' hkey hkey' hnew hnew'
  by_cases hdiffer : q'.text = q.text
  · obtain ⟨t, -, hq⟩ := Request.key?_eq_some_iff.1 hkey
    obtain ⟨t', -, hq'⟩ := Request.key?_eq_some_iff.1 hkey'
    have hkind : q'.kind = q.kind := congrArg Prod.fst (hq'.trans hq.symm)
    rw [Request.ext hkind hdiffer, hnew] at hnew'
    exact Except.ok.inj hnew'
  · by_cases hspelled : q'.text = key.2
    · have hspelled' : q.text ≠ key.2 := fun heq => hdiffer (hspelled.trans heq.symm)
      exact (hspelling hkey' hkey hnew' hnew (Ne.symm hdiffer) hspelled').symm
    · exact hspelling hkey hkey' hnew hnew' hdiffer hspelled

end Registry

/-- In every nested run of a new resolver over a registry, the normalized form of a
key is a key as well. It has the same type, or the call that wrote it has been
overtaken by one for the key. All keys have the types of their normalized forms after
all runs just if new resolvers resolve all spellings of a type alike. -/
theorem spellings_of_nested (r : Registry) :
    (∀ w, Run (·.Serves r) (.new []) w → Settled w) ∧
      ((∀ w, Run (·.Serves r) (.new []) w → w.caches.Coherent) ↔ r.Interchangeable) :=
  ⟨fun _ run => Settled.new.run run, Registry.interchangeable_of_coherent,
    fun h _ run => h.coherent run⟩

/-- A request for the class `C` of the module `p.foo`. While that module is asked for,
the class is requested from the default module. -/
def outrun : World History :=
  (World.new []).call (twoModules.interrupted "p.foo" ⟨.message, "p/msg/C"⟩) ⟨.message, "p/foo/C"⟩

/-- The keys do not have the types of their normalized forms after all runs. -/
theorem not_coherent_of_nested :
    ¬∀ (r : Registry) (w : World History), Run (·.Serves r) (.new []) w → w.caches.Coherent := by
  intro hcoherent
  have hrun : Run (·.Serves twoModules) (.new []) outrun := Registry.run_interrupted _
  have hfound : outrun.caches.get? .message "p/msg/C" = some (.native "p.msg.C" .boolean) := by
    cbv
  have hoverwritten : outrun.caches.get? .message "p/C" = some (.native "p.foo.C" .integer) := by
    cbv
  obtain ⟨t, hparse, hnormalized⟩ := hcoherent twoModules outrun hrun hfound
  have hread : TypeString.parse "p/msg/C" = .ok ⟨"p", ["msg"], "C"⟩ := rfl
  rw [hread] at hparse
  cases hparse
  have hform : TypeString.normalized ⟨"p", ["msg"], "C"⟩ = "p/C" := rfl
  rw [hform, hoverwritten] at hnormalized
  simp at hnormalized

end TypeResolution
