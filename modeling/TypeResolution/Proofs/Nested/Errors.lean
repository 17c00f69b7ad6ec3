import TypeResolution.Proofs.Nested

/-!
Errors in nested runs over a registry. A resolver with a past may find a type
where a new one finds none, but it never fails where a new one does not, nor does
it fail differently, and a text that cannot be read fails with every resolver
(`result_of_returned`).

The second half rests on the keys: all of them can be read
(`Caches.Readable`), so a cache never answers for a text that cannot. The first
half needs nothing of the caches, since the error of a resolution is that of its
last attempt and a registry gives the same answers to all who ask.
-/

namespace TypeResolution

def Caches.Readable (c : Caches) : Prop :=
  ∀ ⦃kind key handle⦄, c.get? kind key = some handle →
    ∃ t subpath, TypeString.read kind key = .ok (t, subpath)

namespace Caches.Readable

theorem empty : Caches.empty.Readable := by
  intro kind key handle h
  simp at h

theorem insert {c : Caches} (h : c.Readable) {kind : Kind} {key : String} {t : TypeString}
    {subpath : String} (hread : TypeString.read kind key = .ok (t, subpath))
    (handle : TypeHandle) : (c.insert kind key handle).Readable := by
  intro other k found hfound
  rcases Caches.of_get?_insert hfound with ⟨rfl, rfl, -⟩ | hfound
  · exact ⟨t, subpath, hread⟩
  · exact h hfound

end Caches.Readable

namespace Resolver

variable {σ : Type} {provider : Provider σ} {w : World σ}

/-- A text that cannot be read fails without anything being asked or written. -/
theorem serve_of_read_error (hreadable : w.caches.Readable) {q : Request} {e : ResolveError}
    (h : TypeString.read q.kind q.text = .error e) : serve provider q w = (.error e, w) := by
  have miss : w.cached? q.kind q.text = none := by
    cases hit : w.cached? q.kind q.text with
    | none => rfl
    | some handle =>
        obtain ⟨t, subpath, hread⟩ := hreadable hit
        rw [h] at hread
        cases hread
  rw [serve, resolve_of_miss miss, h]

end Resolver

/-! ### The invariant of nested runs -/

/-- The result is an error only if that is the answer of a new resolver, and
every answer of a new resolver that is no lookup failure is the result. -/
structure Registry.Answers (r : Registry) (q : Request)
    (result : Except ResolveError TypeHandle) : Prop where
  error : ∀ {e}, result = .error e → r.resolveNew q = .error e
  unread : ∀ {e}, r.resolveNew q = .error e → e.isLookupFailure = false → result = .error e

/-- Every resolution is answered so, if the keys can be read where it starts. -/
theorem Resolver.answers_of_serve {σ : Type} {provider : Provider σ} {r : Registry}
    {w w' : World σ} (hserves : provider.Serves r) (hreadable : w.caches.Readable) {q : Request}
    {result : Except ResolveError TypeHandle} (hserve : serve provider q w = (result, w')) :
    r.Answers q result where
  error {e} he := by
    subst he
    exact resolveNew_of_serve_error hserves hserve
  unread {e} hnew he := by
    cases hread : TypeString.read q.kind q.text with
    | error e' =>
        -- no cache could answer for the text, so the call has failed likewise
        rw [Registry.resolveNew_of_read_error hread] at hnew
        cases hnew
        rw [serve_of_read_error hreadable hread] at hserve
        cases hserve
        rfl
    | ok found =>
        rw [Registry.isLookupFailure_of_resolveNew hread hnew] at he
        cases he

structure Faithful (r : Registry) (w : World History) : Prop where
  readable : w.caches.Readable
  answered : ∀ m ∈ w.outside, ∀ q result, m.event = .returned q result → r.Answers q result

namespace Faithful

variable {r : Registry} {w w' : World History}

theorem new (r : Registry) : Faithful r (.new []) where
  readable := Caches.Readable.empty
  answered m hm := by cases hm

theorem insert (h : Faithful r w) {kind : Kind} {key : String} {t : TypeString} {subpath : String}
    (hread : TypeString.read kind key = .ok (t, subpath)) (handle : TypeHandle) :
    Faithful r (w.insert kind key handle) where
  readable := h.readable.insert hread handle
  answered := h.answered

theorem note (h : Faithful r w) {e : Event}
    (he : ∀ q result, e = .returned q result → r.Answers q result) : Faithful r (w.note e) where
  readable := h.readable
  answered m hm := by
    rcases List.mem_cons.1 hm with rfl | hm
    · exact he
    · exact h.answered m hm

theorem call {provider : Provider History} (hserves : provider.Serves r)
    (hwithin : provider.Within fun v v' => Faithful r v → Faithful r v') (q : Request)
    (h : Faithful r w) : Faithful r (w.call provider q) := by
  have hcalled : Faithful r (w.note (.called q)) := h.note (by intro _ _ he; cases he)
  rcases hserve : Resolver.serve provider q (w.note (.called q)) with ⟨result, w₁⟩
  have h₁ : Faithful r w₁ := by
    refine Resolver.within_resolve hwithin ?_ ?_ ?_ hserve hcalled
    · exact fun _ h => h
    · exact fun h h' hu => h' (h hu)
    · exact fun _ handle hread h => h.insert hread handle
  have hanswers := Resolver.answers_of_serve hserves hcalled.readable hserve
  rw [World.call, hserve]
  refine h₁.note ?_
  intro q' result' he
  cases he
  exact hanswers

theorem run (run : Run (·.Serves r) w w') (h : Faithful r w) : Faithful r w' := by
  refine run.within (G := fun v v' => Faithful r v → Faithful r v') ?_ ?_ ?_ ?_ ?_ h
  · exact fun _ h => h
  · exact fun h h' hu => h' (h hu)
  · exact fun _ _ h => h.note (by intro _ _ he; cases he)
  · exact fun _ _ h => h.note (by intro _ _ he; cases he)
  · exact fun q _ _ hserves hwithin h => h.call hserves hwithin q

end Faithful

/-- In every nested run of a new resolver over a registry, each call at each depth
that returns an error returns the error of a new resolver. So it succeeds where a
new resolver does, and where a new resolver fails without a lookup it fails in the
same way. -/
theorem result_of_returned {r : Registry} {w : World History} (run : Run (·.Serves r) (.new []) w)
    {m : Moment} (hm : m ∈ w.outside) {q : Request} {result : Except ResolveError TypeHandle}
    (h : m.event = .returned q result) :
    (∀ e, result = .error e → r.resolveNew q = .error e) ∧
      (∀ handle, r.resolveNew q = .ok handle → ∃ handle', result = .ok handle') ∧
      ∀ e, r.resolveNew q = .error e → e.isLookupFailure = false → result = .error e := by
  have hanswers := ((Faithful.new r).run run).answered m hm q result h
  refine ⟨fun e => hanswers.error, ?_, fun e => hanswers.unread⟩
  intro handle hnew
  cases result with
  | ok handle' => exact ⟨handle', rfl⟩
  | error e =>
      rw [hanswers.error rfl] at hnew
      cases hnew

/-- A text that is no type string, requested during another call. -/
theorem result_of_returned_interleaved :
    (∃ m ∈ interleaved.outside,
      m.event = .returned ⟨.message, "p"⟩ (.error (.invalidTypeString "p"))) ∧
      twoModules.resolveNew ⟨.message, "p"⟩ = .error (.invalidTypeString "p") := by
  have hevent : .returned ⟨.message, "p"⟩ (.error (.invalidTypeString "p")) ∈
      interleaved.outside.map (·.event) := by simp [events_interleaved]
  obtain ⟨m, hm, h⟩ := List.mem_map.1 hevent
  exact ⟨⟨m, hm, h⟩, (result_of_returned run_interleaved hm h).1 _ rfl⟩

end TypeResolution
