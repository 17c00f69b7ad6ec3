import TypeResolution.Proofs.Nested
import TypeResolution.Proofs.Registration

/-!
Where the types in the caches come from. However calls nest, whatever is cached
for a text is bound by the registry to the class that the text names, in its
package, at a subpath that some call of the same kind for this package and class
has inferred, or at the default one (`origin_of_nested`). The subpath need not be
that of the text itself, since the normalized form of a type leaves it out.
-/

namespace TypeResolution

namespace History

def Called (past : History) (q : Request) : Prop := ∃ m ∈ past, m.event = .called q

/-- There has been reason to look for the type at the subpath: it is the default
one, or was inferred from a text that has the same normalized form. -/
def Suggests (past : History) (kind : Kind) (t : TypeString) (subpath : String) : Prop :=
  subpath = kind.defaultSubpath ∨
    ∃ text u, past.Called ⟨kind, text⟩ ∧ TypeString.parse text = .ok u ∧
      u.inferredSubpath kind = .ok subpath ∧ u.normalized = t.normalized

theorem Suggests.mono {past past' : History} {kind : Kind} {t : TypeString} {subpath : String}
    (h : past.Suggests kind t subpath) (hlater : past <:+ past') :
    past'.Suggests kind t subpath := by
  rcases h with h | ⟨text, u, ⟨m, hm, hcalled⟩, hu⟩
  · exact .inl h
  · exact .inr ⟨text, u, ⟨m, hlater.subset hm, hcalled⟩, hu⟩

end History

/-- The handle is bound to the class that the key names, in its package and at
the subpath, which has been suggested. -/
structure Registry.Origin (r : Registry) (past : History) (kind : Kind) (key : String)
    (handle : TypeHandle) (t : TypeString) (subpath : String) : Prop where
  parsed : TypeString.parse key = .ok t
  bound : r.Binds (t.withSubpath subpath).modulePath t.className handle
  suggested : past.Suggests kind t subpath

namespace Registry.Origin

variable {r : Registry} {past past' : History} {kind : Kind} {key : String} {handle : TypeHandle}
  {t : TypeString} {subpath : String}

theorem mono (h : r.Origin past kind key handle t subpath) (hlater : past <:+ past') :
    r.Origin past' kind key handle t subpath where
  parsed := h.parsed
  bound := h.bound
  suggested := h.suggested.mono hlater

/-- What holds of one spelling holds of all. -/
theorem respell (h : r.Origin past kind key handle t subpath) {key' : String} {u : TypeString}
    (hu : TypeString.parse key' = .ok u) (heq : u.normalized = t.normalized) :
    r.Origin past kind key' handle u subpath where
  parsed := hu
  bound := by
    have hshort := (TypeString.normalized_eq_iff hu h.parsed).1 heq
    have hpath : u.withSubpath subpath = t.withSubpath subpath := by
      rw [← TypeString.withSubpath_short, hshort, TypeString.withSubpath_short]
    have hclass : u.className = t.className := congrArg SymbolPath.className hpath
    rw [hpath, hclass]
    exact h.bound
  suggested := by
    rw [History.Suggests, heq]
    exact h.suggested

end Registry.Origin

/-! ### The invariant of nested runs -/

def Registry.Explains (r : Registry) (past : History) (c : Caches) : Prop :=
  ∀ ⦃kind key handle⦄, c.get? kind key = some handle →
    ∃ t subpath, r.Origin past kind key handle t subpath

namespace Registry.Explains

variable {r : Registry} {past past' : History} {c : Caches}

theorem empty (r : Registry) (past : History) : r.Explains past .empty := by
  intro kind key handle h
  simp at h

theorem mono (h : r.Explains past c) (hlater : past <:+ past') : r.Explains past' c := by
  intro kind key handle hfound
  obtain ⟨t, subpath, horigin⟩ := h hfound
  exact ⟨t, subpath, horigin.mono hlater⟩

theorem insert (h : r.Explains past c) {kind : Kind} {key : String} {handle : TypeHandle}
    {t : TypeString} {subpath : String} (horigin : r.Origin past kind key handle t subpath) :
    r.Explains past (c.insert kind key handle) := by
  intro other k found hfound
  rcases Caches.of_get?_insert hfound with ⟨rfl, rfl, rfl⟩ | hfound
  · exact ⟨t, subpath, horigin⟩
  · exact h hfound

end Registry.Explains

/-- All entries that there are, or were at any moment, have an origin in the
history up to then, and so have all answers. -/
structure Grounded (r : Registry) (w : World History) : Prop where
  entries : r.Explains w.outside w.caches
  moments : ∀ m past, m :: past <:+ w.outside → r.Explains (m :: past) m.caches
  answers : ∀ m past q handle, m :: past <:+ w.outside → m.event = .returned q (.ok handle) →
    ∃ t subpath, r.Origin (m :: past) q.kind q.text handle t subpath

def Continues (r : Registry) (w w' : World History) : Prop :=
  Grounded r w → World.Later w w' ∧ Grounded r w'

theorem Continues.refl (r : Registry) (w : World History) : Continues r w w :=
  fun h => ⟨.refl w, h⟩

theorem Continues.trans {r : Registry} {u v w : World History} (h : Continues r u v)
    (h' : Continues r v w) : Continues r u w := by
  intro hu
  obtain ⟨hlater, hv⟩ := h hu
  obtain ⟨hlater', hw⟩ := h' hv
  exact ⟨hlater.trans hlater', hw⟩

namespace Grounded

variable {r : Registry} {w w' : World History}

theorem new (r : Registry) : Grounded r (.new []) where
  entries := .empty r []
  moments m past h := by cases List.suffix_nil.1 h
  answers m past q handle h := by cases List.suffix_nil.1 h

theorem insert (h : Grounded r w) {kind : Kind} {key : String} {handle : TypeHandle}
    {t : TypeString} {subpath : String}
    (horigin : r.Origin w.outside kind key handle t subpath) :
    Grounded r (w.insert kind key handle) where
  entries := h.entries.insert horigin
  moments := h.moments
  answers := h.answers

theorem note (h : Grounded r w) {e : Event}
    (he : ∀ q handle, e = .returned q (.ok handle) →
      ∃ t subpath, r.Origin w.outside q.kind q.text handle t subpath) :
    Grounded r (w.note e) where
  entries := h.entries.mono (World.later_note e w)
  moments m past hm := by
    rcases List.suffix_cons_iff.1 hm with hm | hm
    · cases hm
      exact h.entries.mono (World.later_note e w)
    · exact h.moments m past hm
  answers m past q handle hm hreturned := by
    rcases List.suffix_cons_iff.1 hm with hm | hm
    · cases hm
      obtain ⟨t, subpath, horigin⟩ := he q handle hreturned
      exact ⟨t, subpath, horigin.mono (World.later_note e w)⟩
    · exact h.answers m past q handle hm hreturned

theorem attempt {provider : Provider History} (hserves : provider.Serves r)
    (hwithin : provider.Within (Continues r)) {kind : Kind} {text : String} {t : TypeString}
    {subpath : String} {result : Except ResolveError TypeHandle}
    (hparse : TypeString.parse text = .ok t) (hplace : w.outside.Suggests kind t subpath)
    (hattempt : Resolver.attempt provider kind text t subpath w = (result, w'))
    (h : Grounded r w) :
    World.Later w w' ∧ Grounded r w' ∧
      ∀ handle, result = .ok handle → ∃ subpath, r.Origin w'.outside kind text handle t subpath := by
  have hload := hwithin.loadSymbol Continues.trans (t.withSubpath subpath) w h
  cases Resolver.attempt_course hattempt with
  | known hit =>
      -- the place is the one that the entry has, whatever subpath the text suggests
      obtain ⟨u, place, horigin⟩ := h.entries hit
      have hu : u = t.short := by
        have hparsed := horigin.parsed
        rw [TypeString.parse_normalized hparse] at hparsed
        exact (Except.ok.inj hparsed).symm
      subst hu
      have htext := horigin.respell hparse (TypeString.normalized_short t).symm
      refine ⟨.refl w, h.insert htext, ?_⟩
      rintro _ ⟨⟩
      exact ⟨place, htext⟩
  | @loaded handle w₁ _ load =>
      rw [load] at hload
      have hbound : r.Binds (t.withSubpath subpath).modulePath t.className handle := by
        refine Registry.load_eq_ok_iff.1 ?_
        rw [← hserves.load (t.withSubpath subpath) w, load]
      -- what was suggested before loading still is after it
      have htext : r.Origin w₁.outside kind text handle t subpath :=
        ⟨hparse, hbound, hplace.mono hload.1⟩
      have hnormalized := htext.respell (TypeString.parse_normalized hparse)
        (TypeString.normalized_short t)
      refine ⟨hload.1, (hload.2.insert htext).insert hnormalized, ?_⟩
      rintro _ ⟨⟩
      exact ⟨subpath, htext⟩
  | failed _ load =>
      rw [load] at hload
      refine ⟨hload.1, hload.2, ?_⟩
      rintro _ ⟨⟩

theorem serve {provider : Provider History} (hserves : provider.Serves r)
    (hwithin : provider.Within (Continues r)) {q : Request}
    {result : Except ResolveError TypeHandle} (hcalled : w.outside.Called q)
    (hserve : Resolver.serve provider q w = (result, w')) (h : Grounded r w) :
    World.Later w w' ∧ Grounded r w' ∧
      ∀ handle, result = .ok handle →
        ∃ t subpath, r.Origin w'.outside q.kind q.text handle t subpath := by
  have hinferred {t subpath} (hread : TypeString.read q.kind q.text = .ok (t, subpath)) :
      TypeString.parse q.text = .ok t ∧ w.outside.Suggests q.kind t subpath := by
    obtain ⟨hparse, hsubpath⟩ := TypeString.read_eq_ok_iff.1 hread
    exact ⟨hparse, .inr ⟨q.text, t, hcalled, hparse, hsubpath, rfl⟩⟩
  cases Resolver.resolve_course hserve with
  | cached hit =>
      refine ⟨.refl w, h, ?_⟩
      rintro _ ⟨⟩
      exact h.entries hit
  | unreadable _ _ =>
      refine ⟨.refl w, h, ?_⟩
      rintro _ ⟨⟩
  | @found t _ _ _ _ read first =>
      obtain ⟨hlater, h', horigin⟩ :=
        h.attempt hserves hwithin (hinferred read).1 (hinferred read).2 first
      exact ⟨hlater, h', fun handle hresult => ⟨t, horigin handle hresult⟩⟩
  | overtaken _ read first hit =>
      -- a nested call has found the type in the meantime
      obtain ⟨hlater, h', -⟩ :=
        h.attempt hserves hwithin (hinferred read).1 (hinferred read).2 first
      refine ⟨hlater, h', ?_⟩
      rintro _ ⟨⟩
      exact h'.entries hit
  | @retried t _ _ _ _ _ _ read first _ second =>
      obtain ⟨hlater, h', -⟩ :=
        h.attempt hserves hwithin (hinferred read).1 (hinferred read).2 first
      obtain ⟨hlater', h'', horigin⟩ :=
        h'.attempt hserves hwithin (hinferred read).1 (.inl rfl) second
      exact ⟨hlater.trans hlater', h'', fun handle hresult => ⟨t, horigin handle hresult⟩⟩

theorem continues_note {e : Event} (he : ∀ q result, e ≠ .returned q result)
    (w : World History) : Continues r w (w.note e) := by
  intro h
  refine ⟨World.later_note e w, h.note ?_⟩
  rintro q handle rfl
  exact absurd rfl (he q (.ok handle))

theorem continues_call {provider : Provider History} (hserves : provider.Serves r)
    (hwithin : provider.Within (Continues r)) (q : Request) (w : World History) :
    Continues r w (w.call provider q) := by
  intro h
  have hcalled : (w.note (.called q)).outside.Called q := ⟨_, List.mem_cons_self, rfl⟩
  have hlater := World.later_note (.called q) w
  have h₀ : Grounded r (w.note (.called q)) := h.note (by rintro _ _ ⟨⟩)
  rcases hserve : Resolver.serve provider q (w.note (.called q)) with ⟨result, w₁⟩
  obtain ⟨hlater₁, h₁, horigin⟩ := h₀.serve hserves hwithin hcalled hserve
  have hreturned := World.later_note (.returned q result) w₁
  rw [World.call, hserve]
  refine ⟨(hlater.trans hlater₁).trans hreturned, h₁.note ?_⟩
  rintro _ handle ⟨⟩
  exact horigin handle rfl

theorem run (run : Run (·.Serves r) w w') (h : Grounded r w) : Grounded r w' := by
  have hcontinues : Continues r w w' := by
    refine run.within (Continues.refl r) Continues.trans ?_ ?_ ?_
    · exact fun _ v => continues_note (by rintro _ _ ⟨⟩) v
    · exact fun _ v => continues_note (by rintro _ _ ⟨⟩) v
    · exact fun q _ v hserves hwithin => continues_call hserves hwithin q v
  exact (hcontinues h).2

end Grounded

theorem exists_origin {r : Registry} {w : World History} (run : Run (·.Serves r) (.new []) w)
    {m : Moment} {past : History} (hm : m :: past <:+ w.outside) {kind : Kind} {key : String}
    {handle : TypeHandle}
    (h : m.caches.get? kind key = some handle ∨ m.event = .returned ⟨kind, key⟩ (.ok handle)) :
    ∃ t subpath, r.Origin (m :: past) kind key handle t subpath := by
  have hgrounded : Grounded r w := (Grounded.new r).run run
  rcases h with hcached | hreturned
  · exact hgrounded.moments m past hm hcached
  · exact hgrounded.answers m past ⟨kind, key⟩ handle hm hreturned

/-- Over the registry of a manifest everything cached or returned for a text is named after a
path with the package and the class of the text. -/
theorem qualifiedName_of_nested {manifest : Manifest} {w : World History}
    (run : Run (·.Serves manifest.toRegistry) (.new []) w) {m : Moment} {past : History}
    (hm : m :: past <:+ w.outside) {kind : Kind} {key : String} {handle : TypeHandle}
    (h : m.caches.get? kind key = some handle ∨ m.event = .returned ⟨kind, key⟩ (.ok handle)) :
    ∃ t subpath, TypeString.parse key = .ok t ∧
      handle.qualifiedName = (t.withSubpath subpath).qualifiedName := by
  obtain ⟨t, subpath, horigin⟩ := exists_origin run hm h
  have hregular := Registry.regular_toRegistry manifest
  exact ⟨t, subpath, horigin.parsed, hregular.qualifiedName_of_binds horigin.bound⟩

/-- In every nested run of a new resolver over a registry, whatever is cached at a
moment or returned there has an origin in the history up to this moment. In a
regular registry it is also named after that origin. -/
theorem origin_of_nested {r : Registry} {w : World History} (run : Run (·.Serves r) (.new []) w)
    {m : Moment} {past : History} (hm : m :: past <:+ w.outside) {kind : Kind} {key : String}
    {handle : TypeHandle}
    (h : m.caches.get? kind key = some handle ∨ m.event = .returned ⟨kind, key⟩ (.ok handle)) :
    ∃ t subpath, r.Origin (m :: past) kind key handle t subpath ∧
      (r.Regular → handle.qualifiedName = (t.withSubpath subpath).qualifiedName) := by
  obtain ⟨t, subpath, horigin⟩ := exists_origin run hm h
  exact ⟨t, subpath, horigin, fun hregular => hregular.qualifiedName_of_binds horigin.bound⟩

/-- The class requested without a subpath is that of a module which an earlier call
has named. -/
theorem origin_of_nested_interleaved :
    ∃ m past, m :: past <:+ interleaved.outside ∧
      m.event = .returned ⟨.message, "p/C"⟩ (.ok (.native "p.foo.C" .integer)) ∧
        ∃ t subpath,
          twoModules.Origin (m :: past) .message "p/C" (.native "p.foo.C" .integer) t subpath ∧
            (t.withSubpath subpath).qualifiedName = "p.foo.C" := by
  have hevent : .returned ⟨.message, "p/C"⟩ (.ok (.native "p.foo.C" .integer)) ∈
      interleaved.outside.map (·.event) := by simp [events_interleaved]
  obtain ⟨m, hm, h⟩ := List.mem_map.1 hevent
  obtain ⟨later, past, hsplit⟩ := List.append_of_mem hm
  have hsuffix : m :: past <:+ interleaved.outside := ⟨later, hsplit.symm⟩
  have hregular : twoModules.Regular := by
    refine ⟨_, ?_, rfl⟩
    refine List.forall_mem_cons.2 ⟨.message "p.foo" "C" .integer, ?_⟩
    exact List.forall_mem_singleton.2 (.message "p.msg" "C" .boolean)
  obtain ⟨t, subpath, horigin, hname⟩ := origin_of_nested run_interleaved hsuffix (.inr h)
  exact ⟨_, _, hsuffix, h, t, subpath, horigin, (hname hregular).symm⟩

end TypeResolution
