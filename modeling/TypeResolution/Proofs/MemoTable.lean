import TypeResolution.Proofs.Resolution

/-!
A resolver as a memo table. A resolver caches what it finds under two keys, the
text that it was asked for and the normalized form of it. Here is the plainer
machine that remembers under the normalized form alone and reads every text
afresh. As long as nobody else writes to the caches and the provider does not
call back, the two cannot be told apart: they give the same results and put the
same questions to the provider in the same order
(`transcript_resolver_eq_memoTable`).

The relation that carries this is `MemoTable.Refines`: a cached text can be read,
and what it is cached for is what the table has under its normalized form. That
a text may be the normalized form of another costs nothing, since a normalized
form is its own.
-/

namespace TypeResolution

variable {σ : Type}

/-! ### Questions to a provider -/

inductive Question
  | openModule (modulePath : String)
  | lookUp (modulePath className : String)
  deriving DecidableEq

def Source.recorded (source : Source σ) : Source (σ × List Question) :=
  fun modulePath s =>
    ((source modulePath s.1).1.map fun lookup className s' =>
        ((lookup className s'.1).1,
          ((lookup className s'.1).2, s'.2 ++ [.lookUp modulePath className])),
      ((source modulePath s.1).2, s.2 ++ [.openModule modulePath]))

/-! ### The machine with one table for each kind -/

/-- For each kind a table with normalized forms as its keys, and what the source
works on. -/
structure MemoTable (σ : Type) where
  known? : Kind → String → Option TypeHandle
  outside : σ

namespace MemoTable

def new (outside : σ) : MemoTable σ := ⟨fun _ _ => none, outside⟩

def remember (m : MemoTable σ) (kind : Kind) (key : String) (handle : TypeHandle) : MemoTable σ :=
  { m with
    known? := fun other k => if other = kind ∧ k = key then some handle else m.known? other k }

def fetch (source : Source σ) (kind : Kind) (t : TypeString) (subpath : String) (m : MemoTable σ) :
    Except ResolveError TypeHandle × MemoTable σ :=
  match source.load (t.withSubpath subpath) m.outside with
  | (.ok handle, s) => (.ok handle, { m with outside := s }.remember kind t.normalized handle)
  | (.error e, s) => (.error e, { m with outside := s })

def resolve (source : Source σ) (q : Request) (m : MemoTable σ) :
    Except ResolveError TypeHandle × MemoTable σ :=
  match TypeString.parse q.text with
  | .error e => (.error e, m)
  | .ok t =>
    match t.inferredSubpath q.kind with
    | .error e => (.error e, m)
    | .ok subpath =>
      match m.known? q.kind t.normalized with
      | some handle => (.ok handle, m)
      | none =>
        match m.fetch source q.kind t subpath with
        | (.ok handle, m) => (.ok handle, m)
        | (.error _, m) => m.fetch source q.kind t q.kind.defaultSubpath

end MemoTable

/-- The results of requests made one after another, each with what can be seen of
the machine when it is given. -/
def transcript {ω ρ υ : Type} (serve : Request → ω → ρ × ω) (view : ω → υ) :
    List Request → ω → List (ρ × υ)
  | [], _ => []
  | q :: qs, w => ((serve q w).1, view (serve q w).2) :: transcript serve view qs (serve q w).2

/-! ### The relation between the two -/

namespace MemoTable

/-- The caches hold what the table holds, and under other spellings nothing else.
-/
structure Refines (w : World σ) (m : MemoTable σ) : Prop where
  outside : w.outside = m.outside
  spelled : ∀ {kind key handle}, w.cached? kind key = some handle →
    ∃ t subpath, TypeString.read kind key = .ok (t, subpath) ∧
      m.known? kind t.normalized = some handle
  kept : ∀ {kind key handle}, m.known? kind key = some handle → w.cached? kind key = some handle

theorem refines_new (outside : σ) : Refines (World.new outside) (new outside) where
  outside := rfl
  spelled h := by simp at h
  kept h := by simp [new] at h

namespace Refines

variable {w : World σ} {m : MemoTable σ} {kind : Kind} {text : String} {t : TypeString}
  {subpath : String}

theorem cached?_normalized (h : Refines w m)
    (hread : TypeString.read kind text = .ok (t, subpath)) :
    w.cached? kind t.normalized = m.known? kind t.normalized := by
  have hparse := (TypeString.read_eq_ok_iff.1 hread).1
  cases hentry : m.known? kind t.normalized with
  | some handle => exact h.kept hentry
  | none =>
      cases hit : w.cached? kind t.normalized with
      | none => rfl
      | some handle =>
          obtain ⟨u, _, hread', hentry'⟩ := h.spelled hit
          rw [TypeString.read_normalized hparse] at hread'
          cases hread'
          rw [TypeString.normalized_short, hentry] at hentry'
          cases hentry'

/-- A text without an entry for its normalized form is not cached. -/
theorem cached?_eq_none (h : Refines w m) (hread : TypeString.read kind text = .ok (t, subpath))
    (hentry : m.known? kind t.normalized = none) : w.cached? kind text = none := by
  cases hit : w.cached? kind text with
  | none => rfl
  | some handle =>
      obtain ⟨u, _, hread', hentry'⟩ := h.spelled hit
      rw [hread] at hread'
      cases hread'
      rw [hentry] at hentry'
      cases hentry'

/-- What happens outside the caches concerns both alike. -/
theorem setOutside (h : Refines w m) (s : σ) :
    Refines { w with outside := s } { m with outside := s } where
  outside := rfl
  spelled := h.spelled
  kept := h.kept

/-- A spelling may be cached for what the table has. -/
theorem copy (h : Refines w m) (hread : TypeString.read kind text = .ok (t, subpath))
    (miss : w.cached? kind text = none) {handle : TypeHandle}
    (hentry : m.known? kind t.normalized = some handle) :
    Refines (w.insert kind text handle) m where
  outside := h.outside
  spelled {other key found} hfound := by
    rcases Caches.of_get?_insert hfound with ⟨rfl, rfl, rfl⟩ | hfound
    · exact ⟨t, subpath, hread, hentry⟩
    · exact h.spelled hfound
  kept {other key found} hfound := by
    rw [World.cached?_insert]
    split
    · -- the text itself is in the table, so it would have been in the caches
      rename_i hkey
      obtain ⟨rfl, rfl⟩ := hkey
      rw [h.kept hfound] at miss
      cases miss
    · exact h.kept hfound

/-- What neither knows both may store. -/
theorem store (h : Refines w m) (hread : TypeString.read kind text = .ok (t, subpath))
    (hentry : m.known? kind t.normalized = none) (handle : TypeHandle) :
    Refines ((w.insert kind text handle).insert kind t.normalized handle)
      (m.remember kind t.normalized handle) where
  outside := h.outside
  spelled {other key found} hfound := by
    have hparse := (TypeString.read_eq_ok_iff.1 hread).1
    rcases Caches.of_get?_insert hfound with ⟨rfl, rfl, rfl⟩ | hfound
    · exact ⟨t.short, _, TypeString.read_normalized hparse other, by simp [remember]⟩
    · rcases Caches.of_get?_insert hfound with ⟨rfl, rfl, rfl⟩ | hfound
      · exact ⟨t, subpath, hread, by simp [remember]⟩
      · obtain ⟨u, s, hread', hentry'⟩ := h.spelled hfound
        refine ⟨u, s, hread', ?_⟩
        simp only [remember]
        split
        · -- another spelling of the same type would have had an entry already
          rename_i hkey
          rw [hkey.1, hkey.2, hentry] at hentry'
          cases hentry'
        · exact hentry'
  kept {other key found} hfound := by
    simp only [remember] at hfound
    rw [World.cached?_insert]
    split
    · rename_i hkey
      simpa [hkey] using hfound
    · rename_i hkey
      rw [if_neg hkey] at hfound
      rw [World.cached?_insert]
      split
      · rename_i hkey'
        obtain ⟨rfl, rfl⟩ := hkey'
        have miss := h.cached?_eq_none hread hentry
        rw [h.kept hfound] at miss
        cases miss
      · exact h.kept hfound

theorem fetch (h : Refines w m) (source : Source σ)
    (hread : TypeString.read kind text = .ok (t, subpath))
    (hentry : m.known? kind t.normalized = none) (place : String) :
    (Resolver.attempt (.detached source) kind text t place w).1 =
        (m.fetch source kind t place).1 ∧
      Refines (Resolver.attempt (.detached source) kind text t place w).2
        (m.fetch source kind t place).2 := by
  have hmiss : w.cached? kind t.normalized = none := by rw [h.cached?_normalized hread, hentry]
  simp only [Resolver.attempt, MemoTable.fetch, hmiss, loadSymbol_detached, h.outside]
  rcases source.load (t.withSubpath place) m.outside with ⟨e | handle, s⟩
  · exact ⟨rfl, h.setOutside s⟩
  · exact ⟨rfl, (h.setOutside s).store hread hentry handle⟩

end Refines

theorem known?_fetch {source : Source σ} {kind : Kind} {t : TypeString} {subpath : String}
    {m m' : MemoTable σ} {e : ResolveError}
    (h : m.fetch source kind t subpath = (.error e, m')) : m'.known? = m.known? := by
  unfold fetch at h
  split at h
  · cases h
  · cases h
    rfl

theorem resolve_of_read_error {source : Source σ} {q : Request} {m : MemoTable σ}
    {e : ResolveError} (h : TypeString.read q.kind q.text = .error e) :
    m.resolve source q = (.error e, m) := by
  rw [TypeString.read] at h
  rw [resolve]
  cases hparse : TypeString.parse q.text with
  | error e' =>
      rw [hparse] at h
      cases h
      rfl
  | ok t =>
      cases hsubpath : t.inferredSubpath q.kind with
      | error e' =>
          simp only [hparse, hsubpath] at h
          cases h
          simp only [hsubpath]
      | ok subpath =>
          simp only [hparse, hsubpath] at h
          cases h

theorem resolve_of_read {source : Source σ} {q : Request} {m : MemoTable σ} {t : TypeString}
    {subpath : String} (h : TypeString.read q.kind q.text = .ok (t, subpath)) :
    m.resolve source q =
      match m.known? q.kind t.normalized with
      | some handle => (.ok handle, m)
      | none =>
        match m.fetch source q.kind t subpath with
        | (.ok handle, m) => (.ok handle, m)
        | (.error _, m) => m.fetch source q.kind t q.kind.defaultSubpath := by
  obtain ⟨hparse, hsubpath⟩ := TypeString.read_eq_ok_iff.1 h
  simp only [resolve, hparse, hsubpath]

/-- One request is served alike, and the relation still holds when it has been. -/
theorem Refines.resolve {w : World σ} {m : MemoTable σ} (h : Refines w m) (source : Source σ)
    (q : Request) :
    (Resolver.serve (.detached source) q w).1 = (m.resolve source q).1 ∧
      Refines (Resolver.serve (.detached source) q w).2 (m.resolve source q).2 := by
  unfold Resolver.serve
  cases hit : w.cached? q.kind q.text with
  | some handle =>
      obtain ⟨t, subpath, hread, hentry⟩ := h.spelled hit
      rw [resolve_of_read hread, hentry]
      rw [Resolver.resolve, hit]
      exact ⟨rfl, h⟩
  | none =>
      rw [Resolver.resolve_of_miss hit]
      cases hread : TypeString.read q.kind q.text with
      | error e =>
          rw [resolve_of_read_error hread]
          exact ⟨rfl, h⟩
      | ok found =>
          obtain ⟨t, subpath⟩ := found
          rw [resolve_of_read hread]
          cases hentry : m.known? q.kind t.normalized with
          | some handle =>
              have hknown : w.cached? q.kind t.normalized = some handle := h.kept hentry
              simp only [Resolver.attempt, hknown, true_and]
              exact h.copy hread hit hentry
          | none =>
              obtain ⟨hresult, h₁⟩ := h.fetch source hread hentry subpath
              rcases first : Resolver.attempt (.detached source) q.kind q.text t subpath w with
                ⟨e | handle, w₁⟩
              · rcases hfetch : m.fetch source q.kind t subpath with ⟨e' | handle', m₁⟩
                · -- the second attempt starts from caches that are still as they were
                  simp only [first, hfetch] at h₁ ⊢
                  have hentry₁ : m₁.known? q.kind t.normalized = none := by
                    rw [known?_fetch hfetch, hentry]
                  have still := h₁.cached?_eq_none hread hentry₁
                  simp only [Resolver.retry, still]
                  exact h₁.fetch source hread hentry₁ q.kind.defaultSubpath
                · rw [first, hfetch] at hresult
                  cases hresult
              · rcases hfetch : m.fetch source q.kind t subpath with ⟨e' | handle', m₁⟩
                · rw [first, hfetch] at hresult
                  cases hresult
                · simp only [first, hfetch] at hresult h₁ ⊢
                  exact ⟨hresult, h₁⟩

theorem Refines.transcript_eq {w : World σ} {m : MemoTable σ} (h : Refines w m) (source : Source σ)
    (qs : List Request) :
    transcript (Resolver.serve (.detached source)) World.outside qs w =
      transcript (MemoTable.resolve source) MemoTable.outside qs m := by
  induction qs generalizing w m with
  | nil => rfl
  | cons q qs ih =>
      obtain ⟨hresult, h'⟩ := h.resolve source q
      rw [transcript, transcript, hresult, h'.outside, ih h']

end MemoTable

/-- A new resolver and the machine with one table for each kind serve every run of
requests alike, whatever the source answers: the results agree at every step, and
so do what the source has come to and the record of the questions put to it. -/
theorem transcript_resolver_eq_memoTable (source : Source σ) (s : σ) (qs : List Request) :
    transcript (Resolver.serve (.detached source)) World.outside qs (.new s) =
        transcript (MemoTable.resolve source) MemoTable.outside qs (.new s) ∧
      transcript (Resolver.serve (.detached source.recorded)) World.outside qs (.new (s, [])) =
        transcript (MemoTable.resolve source.recorded) MemoTable.outside qs (.new (s, [])) := by
  constructor
  · exact (MemoTable.refines_new s).transcript_eq source qs
  · exact (MemoTable.refines_new (s, [])).transcript_eq source.recorded qs

end TypeResolution
