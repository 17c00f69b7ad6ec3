import TypeResolution.Proofs.MemoTable
import TypeResolution.Proofs.Response

/-!
What a resolver asks of a source that leaves the caches alone. The source is made
to keep a record of all that it is asked and of whether it had it
(`Source.traced`), and the record of one resolution is set beside its result
(`Resolver.trace`). There are four ways in which a request can be dealt with, and
`turn_of_trace` says for each what is asked and what is left in the caches. A
resolution has one successful load behind it if it had to search and found
something, and none otherwise.
-/

namespace TypeResolution

variable {σ : Type}

structure Inquiry where
  question : Question
  met : Bool
  deriving DecidableEq

def Inquiry.isLoad : Inquiry → Bool
  | ⟨.lookUp _ _, met⟩ => met
  | ⟨.openModule _, _⟩ => false

/-- The source that keeps a record of the inquiries made of it, the latest last. -/
def Source.traced (source : Source σ) : Source (σ × List Inquiry) :=
  fun modulePath s =>
    ((source modulePath s.1).1.map fun lookup className s' =>
        ((lookup className s'.1).1,
          ((lookup className s'.1).2,
            s'.2 ++ [⟨.lookUp modulePath className, (lookup className s'.1).1.isOk⟩])),
      ((source modulePath s.1).2, s.2 ++ [⟨.openModule modulePath, (source modulePath s.1).1.isOk⟩]))

def Source.inquiries (source : Source σ) (path : SymbolPath) (s : σ) : List Inquiry :=
  match source path.modulePath s with
  | (.error _, _) => [⟨.openModule path.modulePath, false⟩]
  | (.ok lookup, s) =>
    [⟨.openModule path.modulePath, true⟩,
      ⟨.lookUp path.modulePath path.className, (lookup path.className s).1.isOk⟩]

theorem Source.load_traced (source : Source σ) (path : SymbolPath) (s : σ) (log : List Inquiry) :
    source.traced.load path (s, log) =
      ((source.load path s).1, ((source.load path s).2, log ++ source.inquiries path s)) := by
  unfold load traced inquiries
  rcases source path.modulePath s with ⟨e | lookup, s₁⟩
  · simp [Except.map, Except.isOk, Except.toBool]
  · rcases hfound : lookup path.className s₁ with ⟨e | handle, s₂⟩ <;>
      simp [Except.map, Except.isOk, Except.toBool, hfound]

/-- A load that succeeds has one inquiry that brought a type, and one that fails has
none. -/
theorem Source.countP_inquiries (source : Source σ) (path : SymbolPath) (s : σ) :
    (source.inquiries path s).countP Inquiry.isLoad =
      if (source.load path s).1.isOk then 1 else 0 := by
  unfold load inquiries
  rcases source path.modulePath s with ⟨e | lookup, s₁⟩
  · simp [Inquiry.isLoad, Except.isOk, Except.toBool]
  · rcases hfound : lookup path.className s₁ with ⟨e | handle, s₂⟩ <;>
      simp [Inquiry.isLoad, Except.isOk, Except.toBool, hfound]

/-! ### Searching -/

namespace Source

/-- Loads a type at the subpath, and where that fails at the default one. -/
def search (source : Source σ) (kind : Kind) (t : TypeString) (subpath : String) (s : σ) :
    Except ResolveError TypeHandle × σ :=
  match source.load (t.withSubpath subpath) s with
  | (.ok handle, s) => (.ok handle, s)
  | (.error _, s) => source.load (t.withSubpath kind.defaultSubpath) s

def searchInquiries (source : Source σ) (kind : Kind) (t : TypeString) (subpath : String) (s : σ) :
    List Inquiry :=
  source.inquiries (t.withSubpath subpath) s ++
    match source.load (t.withSubpath subpath) s with
    | (.ok _, _) => []
    | (.error _, s) => source.inquiries (t.withSubpath kind.defaultSubpath) s

variable (source : Source σ) (kind : Kind) (t : TypeString) (subpath : String) (s : σ)

theorem search_traced (log : List Inquiry) :
    source.traced.search kind t subpath (s, log) =
      ((source.search kind t subpath s).1,
        ((source.search kind t subpath s).2, log ++ source.searchInquiries kind t subpath s)) := by
  rw [search, search, searchInquiries, load_traced]
  rcases source.load (t.withSubpath subpath) s with ⟨e | handle, s₁⟩
  · simp [load_traced]
  · simp

theorem countP_searchInquiries :
    (source.searchInquiries kind t subpath s).countP Inquiry.isLoad =
      if (source.search kind t subpath s).1.isOk then 1 else 0 := by
  rw [search, searchInquiries, List.countP_append, countP_inquiries]
  rcases source.load (t.withSubpath subpath) s with ⟨e | handle, s₁⟩
  · simp [countP_inquiries, Except.isOk, Except.toBool]
  · simp [Except.isOk, Except.toBool]

end Source

/-! ### What is asked for one request -/

namespace Resolver

variable {source : Source σ} {q : Request} {w : World σ} {t : TypeString} {subpath : String}
  {handle : TypeHandle}

theorem serve_of_cached {provider : Provider σ} (hit : w.cached? q.kind q.text = some handle) :
    serve provider q w = (.ok handle, w) := by
  rw [serve, resolve, hit]

theorem serve_of_refused {provider : Provider σ} (miss : w.cached? q.kind q.text = none)
    {e : ResolveError} (hread : TypeString.read q.kind q.text = .error e) :
    serve provider q w = (.error e, w) := by
  rw [serve, resolve_of_miss miss, hread]

theorem serve_of_known {provider : Provider σ} (miss : w.cached? q.kind q.text = none)
    (hread : TypeString.read q.kind q.text = .ok (t, subpath))
    (hknown : w.cached? q.kind t.normalized = some handle) :
    serve provider q w = (.ok handle, w.insert q.kind q.text handle) := by
  simp only [serve, resolve_of_miss miss, hread, attempt, hknown]

/-- What the caches do not know is searched for, and stored if it is found. -/
theorem serve_of_unfamiliar (miss : w.cached? q.kind q.text = none)
    (hread : TypeString.read q.kind q.text = .ok (t, subpath))
    (hunknown : w.cached? q.kind t.normalized = none) :
    serve (.detached source) q w =
      ((source.search q.kind t subpath w.outside).1,
        ⟨w.caches.store q t.normalized (source.search q.kind t subpath w.outside).1,
          (source.search q.kind t subpath w.outside).2⟩) := by
  rw [serve, resolve_of_miss miss, hread, Source.search]
  simp only [attempt, hunknown, loadSymbol_detached]
  rcases source.load (t.withSubpath subpath) w.outside with ⟨e | found, s⟩
  · -- the second attempt finds the caches as the first one did
    have still : World.cached? { w with outside := s } q.kind q.text = none := miss
    have hunknown' : World.cached? { w with outside := s } q.kind t.normalized = none := hunknown
    simp only [retry, still, attempt, hunknown', loadSymbol_detached]
    rcases source.load (t.withSubpath q.kind.defaultSubpath) s with ⟨e' | found, s'⟩ <;> rfl
  · rfl

end Resolver

structure Served where
  request : Request
  result : Except ResolveError TypeHandle
  inquiries : List Inquiry

namespace Resolver

variable {source : Source σ} {q : Request} {w : World σ} {t : TypeString} {subpath : String}
  {handle : TypeHandle}

def trace (source : Source σ) (q : Request) (w : World σ) : Served × World σ :=
  let served := serve (.detached source.traced) q ⟨w.caches, (w.outside, [])⟩
  (⟨q, served.1, served.2.outside.2⟩, ⟨served.2.caches, served.2.outside.1⟩)

theorem trace_of_cached (hit : w.cached? q.kind q.text = some handle) :
    trace source q w = (⟨q, .ok handle, []⟩, w) := by
  have hserve : serve (.detached source.traced) q ⟨w.caches, (w.outside, [])⟩ = (.ok handle, _) :=
    serve_of_cached hit
  simp only [trace, hserve]

theorem trace_of_refused (miss : w.cached? q.kind q.text = none) {e : ResolveError}
    (hread : TypeString.read q.kind q.text = .error e) :
    trace source q w = (⟨q, .error e, []⟩, w) := by
  have hserve : serve (.detached source.traced) q ⟨w.caches, (w.outside, [])⟩ = (.error e, _) :=
    serve_of_refused (w := ⟨w.caches, (w.outside, [])⟩) miss hread
  simp only [trace, hserve]

theorem trace_of_known (miss : w.cached? q.kind q.text = none)
    (hread : TypeString.read q.kind q.text = .ok (t, subpath))
    (hknown : w.cached? q.kind t.normalized = some handle) :
    trace source q w = (⟨q, .ok handle, []⟩, w.insert q.kind q.text handle) := by
  have hserve : serve (.detached source.traced) q ⟨w.caches, (w.outside, [])⟩ = (.ok handle, _) :=
    serve_of_known miss hread hknown
  simp only [trace, hserve]
  rfl

theorem trace_of_unfamiliar (miss : w.cached? q.kind q.text = none)
    (hread : TypeString.read q.kind q.text = .ok (t, subpath))
    (hunknown : w.cached? q.kind t.normalized = none) :
    trace source q w =
      (⟨q, (source.search q.kind t subpath w.outside).1,
          source.searchInquiries q.kind t subpath w.outside⟩,
        ⟨w.caches.store q t.normalized (source.search q.kind t subpath w.outside).1,
          (source.search q.kind t subpath w.outside).2⟩) := by
  have hserve : serve (.detached source.traced) q ⟨w.caches, (w.outside, [])⟩ = _ :=
    serve_of_unfamiliar miss hread hunknown
  simp only [trace, hserve, Source.search_traced, List.nil_append]

/-- How a request is dealt with, and what it comes to. -/
inductive Turn (source : Source σ) (q : Request) (w : World σ) : Served → World σ → Prop
  | cached {handle : TypeHandle} (hit : w.cached? q.kind q.text = some handle) :
      Turn source q w ⟨q, .ok handle, []⟩ w
  | refused {e : ResolveError} (miss : w.cached? q.kind q.text = none)
      (read : TypeString.read q.kind q.text = .error e) : Turn source q w ⟨q, .error e, []⟩ w
  | known {t : TypeString} {subpath : String} {handle : TypeHandle}
      (miss : w.cached? q.kind q.text = none)
      (read : TypeString.read q.kind q.text = .ok (t, subpath))
      (hit : w.cached? q.kind t.normalized = some handle) :
      Turn source q w ⟨q, .ok handle, []⟩ (w.insert q.kind q.text handle)
  | searched {t : TypeString} {subpath : String} (miss : w.cached? q.kind q.text = none)
      (read : TypeString.read q.kind q.text = .ok (t, subpath))
      (unknown : w.cached? q.kind t.normalized = none) :
      Turn source q w
        ⟨q, (source.search q.kind t subpath w.outside).1,
          source.searchInquiries q.kind t subpath w.outside⟩
        ⟨w.caches.store q t.normalized (source.search q.kind t subpath w.outside).1,
          (source.search q.kind t subpath w.outside).2⟩

theorem turn_of_trace (source : Source σ) (q : Request) (w : World σ) :
    Turn source q w (trace source q w).1 (trace source q w).2 := by
  cases hit : w.cached? q.kind q.text with
  | some handle =>
      rw [trace_of_cached hit]
      exact .cached hit
  | none =>
      cases hread : TypeString.read q.kind q.text with
      | error e =>
          rw [trace_of_refused hit hread]
          exact .refused hit hread
      | ok found =>
          obtain ⟨t, subpath⟩ := found
          cases hknown : w.cached? q.kind t.normalized with
          | some handle =>
              rw [trace_of_known hit hread hknown]
              exact .known hit hread hknown
          | none =>
              rw [trace_of_unfamiliar hit hread hknown]
              exact .searched hit hread hknown

namespace Turn

variable {a : Served} {w' : World σ}

theorem serve_eq (h : Turn source q w a w') : serve (.detached source) q w = (a.result, w') := by
  cases h with
  | cached hit => exact serve_of_cached hit
  | refused miss read => exact serve_of_refused miss read
  | known miss read hit => exact serve_of_known miss read hit
  | searched miss read unknown => exact serve_of_unfamiliar miss read unknown

theorem request_eq (h : Turn source q w a w') : a.request = q := by
  cases h <;> rfl

theorem kept (h : Turn source q w a w') {kind : Kind} {key : String} {held : TypeHandle}
    (hheld : w.cached? kind key = some held) : w'.cached? kind key = some held := by
  cases h with
  | cached _ => exact hheld
  | refused _ _ => exact hheld
  | known miss _ _ =>
      have hother : ¬(kind = q.kind ∧ key = q.text) := by
        rintro ⟨rfl, rfl⟩
        simp [miss] at hheld
      simp [World.cached?_insert, hother, hheld]
  | @searched t subpath miss read unknown =>
      cases hfound : (source.search q.kind t subpath w.outside).1 with
      | error e => exact hheld
      | ok found =>
          have hother : ¬(kind = q.kind ∧ (key = q.text ∨ key = t.normalized)) := by
            rintro ⟨rfl, rfl | rfl⟩
            · simp [miss] at hheld
            · simp [unknown] at hheld
          rw [World.cached?, Caches.get?_store_ok, if_neg hother]
          exact hheld

theorem stored (h : Turn source q w a w') {found : TypeHandle} (hfound : a.result = .ok found) :
    w'.cached? q.kind q.text = some found := by
  cases h with
  | cached hit =>
      cases hfound
      exact hit
  | refused _ _ => cases hfound
  | known _ _ _ =>
      cases hfound
      simp [World.cached?_insert]
  | searched _ _ _ =>
      simp only at hfound
      rw [hfound, World.cached?, Caches.get?_store_ok]
      simp

end Turn

end Resolver

end TypeResolution
