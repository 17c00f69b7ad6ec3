import TypeResolution.Proofs.Reachability

/-!
What a resolver asks of its provider, and when. Nothing is assumed of the provider, not even
that it leaves the caches alone: entries may come and go whenever it is asked for a module or
looks up a class. So the caches count at two moments, where the resolution starts and where
its first request has been refused. What is in them then decides whether the resolver asks at
all, and whether it asks again (`protocol_of_serve`).

The requests are seen by having the provider keep a record of them (`Provider.recorded`).
-/

namespace TypeResolution

variable {σ : Type}

/-! ### Recorded requests -/

namespace World

def withRecord (w : World σ) (asked : List String) : World (σ × List String) :=
  ⟨w.caches, (w.outside, asked)⟩

def unrecorded (w : World (σ × List String)) : World σ := ⟨w.caches, w.outside.1⟩

variable (w : World σ) (asked : List String)

@[simp] theorem unrecorded_withRecord : (w.withRecord asked).unrecorded = w := rfl

@[simp] theorem outside_withRecord : (w.withRecord asked).outside = (w.outside, asked) := rfl

@[simp] theorem cached?_withRecord (kind : Kind) (key : String) :
    (w.withRecord asked).cached? kind key = w.cached? kind key := rfl

@[simp] theorem insert_withRecord (kind : Kind) (key : String) (handle : TypeHandle) :
    (w.withRecord asked).insert kind key handle = (w.insert kind key handle).withRecord asked := rfl

theorem cached?_eq_none_iff {w : World σ} {kind : Kind} {key : String} :
    w.cached? kind key = none ↔ key ∉ w.caches.keys kind := by
  rw [Caches.mem_keys_iff, ← Option.isSome_iff_exists, Option.not_isSome_iff_eq_none, cached?]

end World

def Lookup.recorded (lookup : Lookup σ) : Lookup (σ × List String) :=
  fun className w =>
    ((lookup className w.unrecorded).1,
      (lookup className w.unrecorded).2.withRecord w.outside.2)

/-- The provider that records the modules that it is asked for, the latest last. -/
def Provider.recorded (provider : Provider σ) : Provider (σ × List String) :=
  fun modulePath w =>
    ((provider modulePath w.unrecorded).1.map Lookup.recorded,
      (provider modulePath w.unrecorded).2.withRecord (w.outside.2 ++ [modulePath]))

theorem loadSymbol_recorded (provider : Provider σ) (path : SymbolPath) (w : World σ)
    (asked : List String) :
    loadSymbol provider.recorded path (w.withRecord asked) =
      ((loadSymbol provider path w).1,
        (loadSymbol provider path w).2.withRecord (asked ++ [path.modulePath])) := by
  unfold loadSymbol Provider.recorded
  rw [World.unrecorded_withRecord]
  rcases provider path.modulePath w with ⟨e | lookup, w₁⟩
  · rfl
  · simp only [Except.map, Lookup.recorded, World.unrecorded_withRecord, World.outside_withRecord]
    rcases lookup path.className w₁ with ⟨e | handle, w₂⟩ <;> rfl

/-! ### Refusals -/

/-- The provider does not have the type at the path. Either it has no such module, or the
class is not found in the module that it gives out. The error says where that was. -/
inductive Provider.Refuses (provider : Provider σ) (path : SymbolPath) (w : World σ) :
    ResolveError → World σ → Prop
  | module {source : ProviderError} {w' : World σ}
      (asked : provider path.modulePath w = (.error source, w')) :
      Refuses provider path w (.invalidModule path.package path.subpath source) w'
  | symbol {lookup : Lookup σ} {source : ProviderError} {w₁ w' : World σ}
      (asked : provider path.modulePath w = (.ok lookup, w₁))
      (lookedUp : lookup path.className w₁ = (.error source, w')) :
      Refuses provider path w (.invalidClass path.package path.subpath path.className source) w'

theorem refuses_iff {provider : Provider σ} {path : SymbolPath} {w w' : World σ}
    {e : ResolveError} :
    provider.Refuses path w e w' ↔ loadSymbol provider path w = (.error e, w') := by
  constructor
  · intro h
    cases h with
    | module asked => simp only [loadSymbol, asked]
    | symbol asked lookedUp => simp only [loadSymbol, asked, lookedUp]
  · intro h
    unfold loadSymbol at h
    split at h
    · cases h
      exact .module ‹_›
    · split at h
      · cases h
        exact .symbol ‹_› ‹_›
      · cases h

theorem Provider.Refuses.unique {provider : Provider σ} {path : SymbolPath} {w w₁ w₂ : World σ}
    {e₁ e₂ : ResolveError} (h₁ : provider.Refuses path w e₁ w₁)
    (h₂ : provider.Refuses path w e₂ w₂) : e₁ = e₂ ∧ w₁ = w₂ := by
  have hload := (refuses_iff.1 h₁).symm.trans (refuses_iff.1 h₂)
  cases hload
  exact ⟨rfl, rfl⟩

/-! ### When the provider is needed -/

def Request.Unknown (q : Request) (t : TypeString) (w : World σ) : Prop :=
  q.text ∉ w.caches.keys q.kind ∧ t.normalized ∉ w.caches.keys q.kind

theorem Request.unknown_iff {q : Request} {t : TypeString} {w : World σ} :
    q.Unknown t w ↔
      w.cached? q.kind q.text = none ∧ w.cached? q.kind t.normalized = none := by
  rw [Unknown, World.cached?_eq_none_iff, World.cached?_eq_none_iff]

inductive Request.Decided (q : Request) (w : World σ) : Prop
  | text (hit : q.text ∈ w.caches.keys q.kind)
  | unreadable {e : ResolveError} (read : TypeString.read q.kind q.text = .error e)
  | normalized {t : TypeString} {subpath : String}
      (read : TypeString.read q.kind q.text = .ok (t, subpath))
      (hit : t.normalized ∈ w.caches.keys q.kind)

theorem Request.decided_iff {q : Request} {w : World σ} {t : TypeString} {subpath : String}
    (hread : TypeString.read q.kind q.text = .ok (t, subpath)) : q.Decided w ↔ ¬q.Unknown t w := by
  rw [Unknown, not_and, Decidable.not_not]
  constructor
  · intro h hmiss
    cases h with
    | text hit => exact absurd hit hmiss
    | unreadable read =>
        rw [hread] at read
        cases read
    | normalized read hit =>
        rw [hread] at read
        cases read
        exact hit
  · intro h
    by_cases hit : q.text ∈ w.caches.keys q.kind
    · exact .text hit
    · exact .normalized hread (h hit)

namespace Resolver

/-! ### The course of the requests -/

variable {provider : Provider σ} {q : Request} {w w' : World σ} {t : TypeString} {subpath : String}
  {result : Except ResolveError TypeHandle}

def asked (provider : Provider σ) (q : Request) (w : World σ) : List String :=
  (serve provider.recorded q (w.withRecord [])).2.outside.2

/-- What is asked while a request is served, and what comes of it. -/
inductive Exchange (provider : Provider σ) (q : Request) (w : World σ) :
    List String → Except ResolveError TypeHandle → World σ → Prop
  | held {handle : TypeHandle} {w' : World σ} (decided : q.Decided w) :
      Exchange provider q w [] (.ok handle) w'
  | unreadable {e : ResolveError} (read : TypeString.read q.kind q.text = .error e) :
      Exchange provider q w [] (.error e) w
  | supplied {t : TypeString} {subpath : String} {handle : TypeHandle} {w₁ w' : World σ}
      (read : TypeString.read q.kind q.text = .ok (t, subpath)) (unknown : q.Unknown t w)
      (load : loadSymbol provider (t.withSubpath subpath) w = (.ok handle, w₁)) :
      Exchange provider q w [(t.withSubpath subpath).modulePath] (.ok handle) w'
  | overtaken {t : TypeString} {subpath : String} {e : ResolveError} {handle : TypeHandle}
      {w₁ w' : World σ} (read : TypeString.read q.kind q.text = .ok (t, subpath))
      (unknown : q.Unknown t w) (refused : provider.Refuses (t.withSubpath subpath) w e w₁)
      (hit : (w₁.cached? q.kind q.text).or (w₁.cached? q.kind t.normalized) = some handle) :
      Exchange provider q w [(t.withSubpath subpath).modulePath] (.ok handle) w'
  | retried {t : TypeString} {subpath : String} {e : ResolveError} {w₁ w' : World σ}
      {result : Except ResolveError TypeHandle}
      (read : TypeString.read q.kind q.text = .ok (t, subpath)) (unknown : q.Unknown t w)
      (refused : provider.Refuses (t.withSubpath subpath) w e w₁) (still : q.Unknown t w₁)
      (failed : ∀ e', result = .error e' →
        provider.Refuses (t.withSubpath q.kind.defaultSubpath) w₁ e' w') :
      Exchange provider q w
        [(t.withSubpath subpath).modulePath, (t.withSubpath q.kind.defaultSubpath).modulePath]
        result w'

def attemptAsked (kind : Kind) (t : TypeString) (subpath : String) (w : World σ) : List String :=
  match w.cached? kind t.normalized with
  | some _ => []
  | none => [(t.withSubpath subpath).modulePath]

theorem attempt_recorded (provider : Provider σ) (kind : Kind) (text : String) (t : TypeString)
    (subpath : String) (w : World σ) (paths : List String) :
    attempt provider.recorded kind text t subpath (w.withRecord paths) =
      ((attempt provider kind text t subpath w).1,
        (attempt provider kind text t subpath w).2.withRecord
          (paths ++ attemptAsked kind t subpath w)) := by
  unfold attempt attemptAsked
  rw [World.cached?_withRecord]
  cases w.cached? kind t.normalized with
  | some handle => simp
  | none =>
      simp only [loadSymbol_recorded]
      rcases loadSymbol provider (t.withSubpath subpath) w with ⟨e | handle, w'⟩ <;> rfl

/-- A resolution goes the same way if the requests are recorded. -/
theorem serve_recorded (h : serve provider q w = (result, w')) :
    ∃ paths, serve provider.recorded q (w.withRecord []) = (result, w'.withRecord paths) ∧
      Exchange provider q w paths result w' := by
  cases resolve_course h with
  | cached hit =>
      refine ⟨[], serve_of_cached hit, .held (.text ?_)⟩
      exact Caches.mem_keys_iff.2 ⟨_, hit⟩
  | unreadable miss read =>
      exact ⟨[], serve_of_refused (w := w.withRecord []) miss read, .unreadable read⟩
  | @found t subpath _ _ miss read first =>
      refine ⟨attemptAsked q.kind t subpath w, ?_, ?_⟩
      · simp only [serve, resolve_of_miss (w := w.withRecord []) miss, read, attempt_recorded,
          first]
        rfl
      · rw [attemptAsked]
        cases attempt_course first with
        | known hit =>
            rw [hit]
            exact .held (.normalized read (Caches.mem_keys_iff.2 ⟨_, hit⟩))
        | loaded unknown load =>
            rw [unknown]
            exact .supplied read (Request.unknown_iff.2 ⟨miss, unknown⟩) load
  | @overtaken t subpath _ _ _ miss read first hit =>
      refine ⟨attemptAsked q.kind t subpath w, ?_, ?_⟩
      · simp only [serve, resolve_of_miss (w := w.withRecord []) miss, read, attempt_recorded,
          first, retry, World.cached?_withRecord, hit]
        rfl
      · rw [attemptAsked]
        cases attempt_course first with
        | failed unknown load =>
            rw [unknown]
            exact .overtaken read (Request.unknown_iff.2 ⟨miss, unknown⟩) (refuses_iff.2 load)
              (by rw [hit]; rfl)
  | @retried t subpath _ w₁ _ _ miss read first still second =>
      refine ⟨attemptAsked q.kind t subpath w ++ attemptAsked q.kind t q.kind.defaultSubpath w₁,
        ?_, ?_⟩
      · simp only [serve, resolve_of_miss (w := w.withRecord []) miss, read, attempt_recorded,
          first, retry, World.cached?_withRecord, still, second]
        rfl
      · rw [attemptAsked, attemptAsked]
        cases attempt_course first with
        | failed unknown load =>
            have hunknown := Request.unknown_iff.2 ⟨miss, unknown⟩
            have hrefused := refuses_iff.2 load
            rw [unknown]
            cases attempt_course second with
            | known hit =>
                rw [hit]
                exact .overtaken read hunknown hrefused (by rw [still, hit]; rfl)
            | loaded unknown' _ =>
                rw [unknown']
                exact .retried read hunknown hrefused (Request.unknown_iff.2 ⟨still, unknown'⟩)
                  (by simp)
            | failed unknown' load' =>
                rw [unknown']
                refine .retried read hunknown hrefused (Request.unknown_iff.2 ⟨still, unknown'⟩) ?_
                rintro e' he'
                cases he'
                exact refuses_iff.2 load'

/-! ### The protocol -/

/-- What is asked for a request that is made in `w`, and what becomes of it if the provider
refuses. A second request is made just where the first has been refused and the keys are
still missing then, and its path is the default one even if that is the same again. Where
keys have come in, their entries are the result, that of the text before that of the
normalized form. An error of the provider is returned only from the second request. -/
structure Protocol (provider : Provider σ) (q : Request) (w : World σ) (paths : List String)
    (result : Except ResolveError TypeHandle) (w' : World σ) : Prop where
  most : paths.length ≤ 2
  nothing : paths = [] ↔ q.Decided w
  first : ∀ path, paths[0]? = some path →
    ∃ t subpath, TypeString.read q.kind q.text = .ok (t, subpath) ∧
      path = (t.withSubpath subpath).modulePath
  second : ∀ {t subpath}, TypeString.read q.kind q.text = .ok (t, subpath) → ∀ path,
    paths[1]? = some path ↔
      path = (t.withSubpath q.kind.defaultSubpath).modulePath ∧ q.Unknown t w ∧
        ∃ e w₁, provider.Refuses (t.withSubpath subpath) w e w₁ ∧ q.Unknown t w₁
  overtaken : ∀ {t subpath e w₁}, TypeString.read q.kind q.text = .ok (t, subpath) →
    q.Unknown t w → provider.Refuses (t.withSubpath subpath) w e w₁ →
      ∀ handle, (w₁.cached? q.kind q.text).or (w₁.cached? q.kind t.normalized) = some handle →
        result = .ok handle
  failed : ∀ e, result = .error e → e.isLookupFailure = true →
    ∃ t subpath e₁ w₁, TypeString.read q.kind q.text = .ok (t, subpath) ∧
      provider.Refuses (t.withSubpath subpath) w e₁ w₁ ∧
        provider.Refuses (t.withSubpath q.kind.defaultSubpath) w₁ e w'

namespace Exchange

variable {paths : List String}

theorem length_le (h : Exchange provider q w paths result w') : paths.length ≤ 2 := by
  cases h <;> simp

theorem nothing_iff (h : Exchange provider q w paths result w') : paths = [] ↔ q.Decided w := by
  have hneeded {t : TypeString} {subpath : String}
      (hread : TypeString.read q.kind q.text = .ok (t, subpath)) (hunknown : q.Unknown t w) :
      ¬q.Decided w := by
    rw [Request.decided_iff hread]
    exact not_not_intro hunknown
  cases h with
  | held decided => exact iff_of_true rfl decided
  | unreadable read => exact iff_of_true rfl (.unreadable read)
  | supplied read unknown _ => exact iff_of_false (by simp) (hneeded read unknown)
  | overtaken read unknown _ _ => exact iff_of_false (by simp) (hneeded read unknown)
  | retried read unknown _ _ _ => exact iff_of_false (by simp) (hneeded read unknown)

theorem first (h : Exchange provider q w paths result w') {path : String}
    (hpath : paths[0]? = some path) :
    ∃ t subpath, TypeString.read q.kind q.text = .ok (t, subpath) ∧
      path = (t.withSubpath subpath).modulePath := by
  cases h with
  | held _ => cases hpath
  | unreadable _ => cases hpath
  | supplied read _ _ => exact ⟨_, _, read, (Option.some.inj hpath).symm⟩
  | overtaken read _ _ _ => exact ⟨_, _, read, (Option.some.inj hpath).symm⟩
  | retried read _ _ _ _ => exact ⟨_, _, read, (Option.some.inj hpath).symm⟩

theorem of_refused (h : Exchange provider q w paths result w')
    (hread : TypeString.read q.kind q.text = .ok (t, subpath)) (hunknown : q.Unknown t w)
    {e : ResolveError} {w₁ : World σ} (hrefused : provider.Refuses (t.withSubpath subpath) w e w₁) :
    (paths.length = 1 ∧ ∃ handle, result = .ok handle ∧
        (w₁.cached? q.kind q.text).or (w₁.cached? q.kind t.normalized) = some handle) ∨
      (paths[1]? = some (t.withSubpath q.kind.defaultSubpath).modulePath ∧ q.Unknown t w₁) := by
  cases h with
  | held decided => exact absurd hunknown ((Request.decided_iff hread).1 decided)
  | unreadable read =>
      rw [hread] at read
      cases read
  | supplied read _ load =>
      rw [hread] at read
      cases read
      rw [refuses_iff, load] at hrefused
      cases hrefused
  | overtaken read _ refused hit =>
      rw [hread] at read
      cases read
      obtain ⟨rfl, rfl⟩ := hrefused.unique refused
      exact .inl ⟨rfl, _, rfl, hit⟩
  | retried read _ refused still _ =>
      rw [hread] at read
      cases read
      obtain ⟨rfl, rfl⟩ := hrefused.unique refused
      exact .inr ⟨rfl, still⟩

theorem second_iff (h : Exchange provider q w paths result w')
    (hread : TypeString.read q.kind q.text = .ok (t, subpath)) {path : String} :
    paths[1]? = some path ↔
      path = (t.withSubpath q.kind.defaultSubpath).modulePath ∧ q.Unknown t w ∧
        ∃ e w₁, provider.Refuses (t.withSubpath subpath) w e w₁ ∧ q.Unknown t w₁ := by
  constructor
  · intro hpath
    cases h with
    | held _ => cases hpath
    | unreadable _ => cases hpath
    | supplied _ _ _ => cases hpath
    | overtaken _ _ _ _ => cases hpath
    | retried read unknown refused still _ =>
        rw [hread] at read
        cases read
        exact ⟨(Option.some.inj hpath).symm, unknown, _, _, refused, still⟩
  · rintro ⟨rfl, hunknown, e, w₁, hrefused, hstill⟩
    obtain ⟨-, handle, -, hit⟩ | ⟨hpath, -⟩ := h.of_refused hread hunknown hrefused
    · obtain ⟨htext, hnormalized⟩ := Request.unknown_iff.1 hstill
      rw [htext, hnormalized] at hit
      cases hit
    · exact hpath

theorem overtaken_of_hit (h : Exchange provider q w paths result w')
    (hread : TypeString.read q.kind q.text = .ok (t, subpath)) (hunknown : q.Unknown t w)
    {e : ResolveError} {w₁ : World σ} (hrefused : provider.Refuses (t.withSubpath subpath) w e w₁)
    {handle : TypeHandle}
    (hit : (w₁.cached? q.kind q.text).or (w₁.cached? q.kind t.normalized) = some handle) :
    result = .ok handle := by
  obtain ⟨-, found, rfl, hit'⟩ | ⟨-, hstill⟩ := h.of_refused hread hunknown hrefused
  · rw [hit] at hit'
    cases hit'
    rfl
  · obtain ⟨htext, hnormalized⟩ := Request.unknown_iff.1 hstill
    rw [htext, hnormalized] at hit
    cases hit

theorem failed {e : ResolveError} (h : Exchange provider q w paths (.error e) w')
    (he : e.isLookupFailure = true) :
    ∃ t subpath e₁ w₁, TypeString.read q.kind q.text = .ok (t, subpath) ∧
      provider.Refuses (t.withSubpath subpath) w e₁ w₁ ∧
        provider.Refuses (t.withSubpath q.kind.defaultSubpath) w₁ e w' := by
  cases h with
  | unreadable read => obtain rfl | ⟨_, rfl⟩ := TypeString.error_of_read read <;> cases he
  | retried read _ refused _ failed => exact ⟨_, _, _, _, read, refused, failed e rfl⟩

end Exchange

/-- What is asked first is a module at the subpath that is inferred from the text. -/
theorem read_of_asked {path : String} (h : (asked provider q w)[0]? = some path) :
    ∃ t subpath, TypeString.read q.kind q.text = .ok (t, subpath) ∧
      path = (t.withSubpath subpath).modulePath := by
  have hserve : serve provider q w = ((serve provider q w).1, (serve provider q w).2) := rfl
  obtain ⟨paths, hrecorded, hexchange⟩ := serve_recorded hserve
  rw [asked, hrecorded] at h
  exact hexchange.first h

/-- With any caches and any provider, whatever it does to the caches while it is asked, a
resolution keeps to the protocol. -/
theorem protocol_of_serve (provider : Provider σ) (q : Request) (w : World σ) :
    Protocol provider q w (asked provider q w) (serve provider q w).1 (serve provider q w).2 := by
  have hserve : serve provider q w = ((serve provider q w).1, (serve provider q w).2) := rfl
  obtain ⟨paths, hrecorded, hexchange⟩ := serve_recorded hserve
  have hpaths : asked provider q w = paths := by rw [asked, hrecorded]; rfl
  rw [hpaths]
  exact {
    most := hexchange.length_le
    nothing := hexchange.nothing_iff
    first := fun _ => hexchange.first
    second := fun hread _ => hexchange.second_iff hread
    overtaken := fun hread hunknown hrefused _ => hexchange.overtaken_of_hit hread hunknown hrefused
    failed := fun _ herror => Exchange.failed (herror ▸ hexchange)
  }

end Resolver

end TypeResolution
