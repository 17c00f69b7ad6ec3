import Mathlib.Data.Finset.Card
import Mathlib.Data.List.Dedup
import TypeResolution.Proofs.Inquiries
import TypeResolution.Proofs.Precedence

/-!
One load for each type. In a session requests are served one after another, and
between them anything may happen to the source: types are registered or replaced,
lookups begin to fail. The caches of the resolver are its own. Then the successful
loads made for a kind so far are as many as there are normalized forms among the
cached type strings of the kind, and a type that has once been found is never asked
for again under any spelling (`loads_of_session`).

`Session.Kept` is what every step preserves. That the caches can be read as a table
with one entry for each normalized form comes from `MemoTable.Refines`; what is
added is that nothing in them is ever overwritten (`Resolver.Turn.kept`) and how the
loads are counted.
-/

namespace TypeResolution

variable {σ : Type}

/-! ### Normalized forms in the caches -/

namespace Caches

def normalizedForms (c : Caches) (kind : Kind) : Finset String :=
  ((c.keys kind).filterMap fun key => (Request.key? ⟨kind, key⟩).map Prod.snd).toFinset

theorem mem_normalizedForms {c : Caches} {kind : Kind} {form : String} :
    form ∈ c.normalizedForms kind ↔
      ∃ key ∈ c.keys kind, ∃ t, TypeString.parse key = .ok t ∧ t.normalized = form := by
  simp [normalizedForms, Request.key?_eq_some_iff]

theorem normalizedForms_empty (kind : Kind) : empty.normalizedForms kind = ∅ := by
  cases kind <;> rfl

theorem normalizedForms_insert (c : Caches) {kind other : Kind} {key : String} {t : TypeString}
    (hparse : TypeString.parse key = .ok t) (handle : TypeHandle) :
    (c.insert kind key handle).normalizedForms other =
      if other = kind then Insert.insert t.normalized (c.normalizedForms other)
      else c.normalizedForms other := by
  ext form
  by_cases hkind : other = kind
  · simp [mem_normalizedForms, mem_keys_insert, hkind, hparse, eq_comm]
  · simp [mem_normalizedForms, mem_keys_insert, hkind]

end Caches

/-- A cached text can be read, and its normalized form is cached for the same type. -/
theorem MemoTable.Refines.cached?_normalized_of_hit {w : World σ} {m : MemoTable σ} (h : Refines w m)
    {kind : Kind} {key : String} {handle : TypeHandle} (hit : w.cached? kind key = some handle) :
    ∃ t subpath, TypeString.read kind key = .ok (t, subpath) ∧
      w.cached? kind t.normalized = some handle := by
  obtain ⟨t, subpath, hread, hentry⟩ := h.spelled hit
  exact ⟨t, subpath, hread, h.kept hentry⟩

theorem MemoTable.Refines.mem_normalizedForms {w : World σ} {m : MemoTable σ} (h : Refines w m)
    {kind : Kind} {text : String} {t : TypeString} (hparse : TypeString.parse text = .ok t) :
    t.normalized ∈ w.caches.normalizedForms kind ↔
      ∃ handle, w.cached? kind t.normalized = some handle := by
  rw [Caches.mem_normalizedForms]
  constructor
  · rintro ⟨key, hkey, u, hparse', hform⟩
    obtain ⟨handle, hit⟩ := Caches.mem_keys_iff.1 hkey
    obtain ⟨v, _, hread, hcached⟩ := h.cached?_normalized_of_hit hit
    rw [(TypeString.read_eq_ok_iff.1 hread).1] at hparse'
    cases hparse'
    exact ⟨handle, hform ▸ hcached⟩
  · rintro ⟨handle, hit⟩
    have hself := TypeString.parse_normalized hparse
    exact ⟨t.normalized, Caches.mem_keys_iff.2 ⟨handle, hit⟩, t.short, hself, rfl⟩

/-! ### What one request adds -/

def Served.loads (a : Served) : Nat := a.inquiries.countP Inquiry.isLoad

namespace Resolver.Turn

variable {source : Source σ} {q : Request} {w w' : World σ} {a : Served}

/-- A request that takes a successful load adds one normalized form to its kind, and
no other request adds any. -/
theorem card_normalizedForms (h : Turn source q w a w') {m : MemoTable σ}
    (hrefines : MemoTable.Refines w m) (kind : Kind) :
    (w'.caches.normalizedForms kind).card =
      (if q.kind = kind then a.loads else 0) + (w.caches.normalizedForms kind).card := by
  cases h with
  | cached _ => simp [Served.loads]
  | refused _ _ => simp [Served.loads]
  | @known t subpath handle miss read hit =>
      have hparse := (TypeString.read_eq_ok_iff.1 read).1
      have hmem : t.normalized ∈ w.caches.normalizedForms q.kind :=
        (hrefines.mem_normalizedForms hparse).2 ⟨handle, hit⟩
      rw [World.caches_insert, Caches.normalizedForms_insert _ hparse]
      by_cases hkind : kind = q.kind
      · subst hkind
        simp [Served.loads, Finset.insert_eq_of_mem hmem]
      · simp [Served.loads, hkind]
  | @searched t subpath miss read unknown =>
      have hparse := (TypeString.read_eq_ok_iff.1 read).1
      have hnormalized := TypeString.parse_normalized hparse
      have hnew : t.normalized ∉ w.caches.normalizedForms q.kind := by
        rw [hrefines.mem_normalizedForms hparse, unknown]
        simp
      simp only [Served.loads, Source.countP_searchInquiries]
      cases hfound : (source.search q.kind t subpath w.outside).1 with
      | error e => simp [Caches.store, Except.isOk, Except.toBool]
      | ok handle =>
          rw [Caches.store, Caches.normalizedForms_insert _ hnormalized,
            Caches.normalizedForms_insert _ hparse]
          by_cases hkind : kind = q.kind
          · subst hkind
            have hcard := Finset.card_insert_of_notMem hnew
            simp [Except.isOk, Except.toBool, hcard, Nat.add_comm]
          · simp [hkind, Ne.symm hkind]

end Resolver.Turn

/-! ### Sessions -/

structure Session (σ : Type) where
  world : World σ
  served : List Served

namespace Session

/-- What may happen next: a request, or any change of what the source works on. -/
inductive Step (σ : Type)
  | request (q : Request)
  | change (f : σ → σ)

def new (outside : σ) : Session σ := ⟨.new outside, []⟩

def step (source : Source σ) (s : Session σ) : Step σ → Session σ
  | .request q =>
    ⟨(Resolver.trace source q s.world).2, (Resolver.trace source q s.world).1 :: s.served⟩
  | .change f => { s with world := { s.world with outside := f s.world.outside } }

def run (source : Source σ) (steps : List (Step σ)) (s : Session σ) : Session σ :=
  steps.foldl (step source) s

def loads (s : Session σ) (kind : Kind) : Nat :=
  ((s.served.filter fun a => a.request.kind = kind).flatMap Served.inquiries).countP Inquiry.isLoad

/-- What is so in every session: the caches are those of a memo table, every success
is still in them, and each of their normalized forms has been loaded once. -/
structure Kept (s : Session σ) : Prop where
  refines : ∃ m, MemoTable.Refines s.world m
  remembered : ∀ ⦃a⦄, a ∈ s.served → ∀ ⦃handle⦄, a.result = .ok handle →
    s.world.cached? a.request.kind a.request.text = some handle
  counted : ∀ kind, s.loads kind = (s.world.caches.normalizedForms kind).card

namespace Kept

variable {source : Source σ} {s : Session σ}

theorem new (outside : σ) : Kept (Session.new outside) where
  refines := ⟨.new outside, MemoTable.refines_new outside⟩
  remembered := by simp [Session.new]
  counted kind := by
    have hempty := Caches.normalizedForms_empty kind
    simp [Session.new, loads, World.new, hempty]

theorem request (h : s.Kept) (q : Request) : (s.step source (.request q)).Kept := by
  obtain ⟨m, hrefines⟩ := h.refines
  rcases htrace : Resolver.trace source q s.world with ⟨a, w'⟩
  have hturn : Resolver.Turn source q s.world a w' := by
    simpa [htrace] using Resolver.turn_of_trace source q s.world
  have hrequest := hturn.request_eq
  rw [Session.step, htrace]
  refine ⟨⟨(m.resolve source q).2, ?_⟩, ?_, ?_⟩
  · have hkept := (hrefines.resolve source q).2
    rw [hturn.serve_eq] at hkept
    exact hkept
  · intro b hb handle hresult
    rcases List.mem_cons.1 hb with rfl | hb
    · rw [hrequest]
      exact hturn.stored hresult
    · exact hturn.kept (h.remembered hb hresult)
  · intro kind
    have hcard := hturn.card_normalizedForms hrefines kind
    have hcounted := h.counted kind
    rw [hcard, ← hcounted]
    by_cases hkind : q.kind = kind <;> simp [loads, Served.loads, hrequest, hkind]

theorem change (h : s.Kept) (f : σ → σ) : (s.step source (.change f)).Kept where
  refines := by
    obtain ⟨m, hrefines⟩ := h.refines
    exact ⟨_, hrefines.setOutside _⟩
  remembered := h.remembered
  counted := h.counted

theorem step (h : s.Kept) (x : Step σ) : (s.step source x).Kept := by
  cases x with
  | request q => exact h.request q
  | change f => exact h.change f

theorem run (h : s.Kept) (steps : List (Step σ)) : (s.run source steps).Kept := by
  induction steps generalizing s with
  | nil => exact h
  | cons x steps ih => exact ih (h.step x)

/-- A type that has been found is given again for every spelling that can be read,
without a question. -/
theorem trace_again (h : s.Kept) {a : Served} (ha : a ∈ s.served) {handle : TypeHandle}
    (hresult : a.result = .ok handle) {q : Request} {key : Kind × String}
    (hkey : a.request.key? = some key) (hkey' : q.key? = some key) {t : TypeString}
    {subpath : String} (hread : TypeString.read q.kind q.text = .ok (t, subpath)) :
    (Resolver.trace source q s.world).1 = ⟨q, .ok handle, []⟩ := by
  obtain ⟨m, hrefines⟩ := h.refines
  have hknown : s.world.cached? q.kind t.normalized = some handle := by
    obtain ⟨u, _, hread', hcached⟩ := hrefines.cached?_normalized_of_hit (h.remembered ha hresult)
    rw [Request.key?_of_read hread'] at hkey
    rw [Request.key?_of_read hread, ← hkey] at hkey'
    obtain ⟨hkind, hform⟩ := Prod.mk.inj (Option.some.inj hkey')
    rw [hkind, hform]
    exact hcached
  rcases htrace : Resolver.trace source q s.world with ⟨b, w'⟩
  have hturn : Resolver.Turn source q s.world b w' := by
    simpa [htrace] using Resolver.turn_of_trace source q s.world
  cases hturn with
  | @cached held hit =>
      -- the text has the type of its normalized form
      obtain ⟨u, _, hread', hcached⟩ := hrefines.cached?_normalized_of_hit hit
      rw [hread] at hread'
      cases hread'
      rw [hknown] at hcached
      cases hcached
      rfl
  | refused _ read =>
      rw [hread] at read
      cases read
  | known _ read hit =>
      rw [hread] at read
      cases read
      rw [hknown] at hit
      cases hit
      rfl
  | searched _ read unknown =>
      rw [hread] at read
      cases read
      rw [hknown] at unknown
      cases unknown

end Kept

/-- For each type that a session has found there was one load, and it holds for good:
whatever the source has come to, another request for the type gets what was found and
asks nothing. -/
structure LoadsOnce (source : Source σ) (s : Session σ) : Prop where
  counted : ∀ kind, s.loads kind = (s.world.caches.normalizedForms kind).card
  cached : ∀ kind, ∀ form ∈ s.world.caches.normalizedForms kind, form ∈ s.world.caches.keys kind
  again : ∀ a ∈ s.served, ∀ handle, a.result = .ok handle →
    ∀ q key, a.request.key? = some key → q.key? = some key →
      ∀ t subpath, TypeString.read q.kind q.text = .ok (t, subpath) →
        (Resolver.trace source q s.world).1 = ⟨q, .ok handle, []⟩

end Session

/-- However requests of both kinds and changes of the source follow one another, there
is one successful load for each type that has been found. -/
theorem loads_of_session (source : Source σ) (outside : σ) (steps : List (Session.Step σ)) :
    ((Session.new outside).run source steps).LoadsOnce source := by
  have hkept : ((Session.new outside).run source steps).Kept := (Session.Kept.new outside).run steps
  refine ⟨hkept.counted, ?_, ?_⟩
  · intro kind form hform
    obtain ⟨m, hrefines⟩ := hkept.refines
    obtain ⟨key, -, t, hparse, rfl⟩ := Caches.mem_normalizedForms.1 hform
    exact Caches.mem_keys_iff.2 ((hrefines.mem_normalizedForms hparse).1 hform)
  · intro a ha handle hresult q key hkey hkey' t subpath hread
    exact hkept.trace_again ha hresult hkey hkey' hread

def Registry.current : Source Registry :=
  fun modulePath r => ((r.openModule modulePath).map fun m className r' => (m.lookup className, r'), r)

/-- A type is loaded, then replaced, and at last everything is gone. -/
def replacement : List (Session.Step Registry) :=
  [.request ⟨.message, "p/foo/C"⟩, .change fun r => r.register "p.foo" "C" (.native "other" .text),
    .request ⟨.service, "p/C"⟩, .change fun _ => .empty]

theorem loads_of_session_replacement :
    ((Session.new twoModules).run Registry.current replacement).loads .message = 1 ∧
      (Resolver.trace Registry.current ⟨.message, "p//C/"⟩
          ((Session.new twoModules).run Registry.current replacement).world).1 =
        ⟨⟨.message, "p//C/"⟩, .ok (.native "p.foo.C" .integer), []⟩ := by
  have hloads := loads_of_session Registry.current twoModules replacement
  have hserved : ∃ inquiries, (⟨⟨.message, "p/foo/C"⟩, .ok (.native "p.foo.C" .integer), inquiries⟩ :
      Served) ∈ ((Session.new twoModules).run Registry.current replacement).served :=
    ⟨_, List.mem_cons_of_mem _ List.mem_cons_self⟩
  obtain ⟨inquiries, hserved⟩ := hserved
  have hkey : Request.key? ⟨.message, "p/foo/C"⟩ = some (.message, "p/C") := by decide
  have hkey' : Request.key? ⟨.message, "p//C/"⟩ = some (.message, "p/C") := by decide
  have hread : TypeString.read .message "p//C/" = .ok (⟨"p", [], "C"⟩, "msg") := rfl
  constructor
  · rw [hloads.counted]
    rfl
  · exact hloads.again _ hserved _ rfl _ _ hkey hkey' _ _ hread

end TypeResolution
