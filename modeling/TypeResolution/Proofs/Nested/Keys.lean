import TypeResolution.Proofs.Nested
import TypeResolution.Proofs.Outcome

/-!
Which keys are in the caches. However calls nest and whatever their providers
answer, a cache has as its keys the texts of the calls that have succeeded and
the normalized forms of these texts, and no others (`stored_of_nested`). A call
that is answered from the caches writes at most one of its two keys; the other is
there because some call has written it before, possibly one that is nested in the
first.
-/

namespace TypeResolution

variable {kind : Kind} {key : String}

namespace History

/-- A call has succeeded that has the key as its text or as the normalized form
of it. -/
def Stored (past : History) (kind : Kind) (key : String) : Prop :=
  ∃ m ∈ past, ∃ q handle,
    m.event = .returned q (.ok handle) ∧ q.kind = kind ∧ q.StoredUnder key

def Answered (past : History) : Prop :=
  ∀ m ∈ past, ∀ q handle, m.event = .returned q (.ok handle) →
    m.caches.get? q.kind q.text = some handle ∧ ∃ t, TypeString.parse q.text = .ok t

variable {past past' : History}

theorem Stored.mono (h : past.Stored kind key) (hlater : past <:+ past') :
    past'.Stored kind key := by
  obtain ⟨m, hm, hstored⟩ := h
  exact ⟨m, hlater.subset hm, hstored⟩

theorem Answered.mono (h : past'.Answered) (hlater : past <:+ past') : past.Answered :=
  fun m hm => h m (hlater.subset hm)

theorem not_stored_nil : ¬Stored [] kind key := by
  rintro ⟨m, hm, -⟩
  cases hm

/-- Only a success stores anything. -/
theorem stored_cons_of_ne {e : Event} {c : Caches}
    (h : ∀ q handle, e ≠ .returned q (.ok handle)) :
    Stored (⟨e, c⟩ :: past) kind key ↔ past.Stored kind key := by
  constructor
  · rintro ⟨m', hm', q, handle, hevent, hkey⟩
    rcases List.mem_cons.1 hm' with rfl | hm'
    · exact absurd hevent (h q handle)
    · exact ⟨m', hm', q, handle, hevent, hkey⟩
  · exact fun h' => h'.mono (List.suffix_cons _ past)

theorem stored_cons_returned {q : Request} {handle : TypeHandle} {c : Caches} :
    Stored (⟨.returned q (.ok handle), c⟩ :: past) kind key ↔
      (q.kind = kind ∧ q.StoredUnder key) ∨ past.Stored kind key := by
  constructor
  · rintro ⟨m, hm, q', handle', hevent, hkey⟩
    rcases List.mem_cons.1 hm with rfl | hm
    · cases hevent
      exact .inl hkey
    · exact .inr ⟨m, hm, q', handle', hevent, hkey⟩
  · rintro (hkey | h)
    · exact ⟨_, List.mem_cons_self, q, handle, rfl, hkey⟩
    · exact h.mono (List.suffix_cons _ past)

/-- A stored key can be read, and its normalized form is stored as well. -/
theorem Stored.normalized (h : past.Stored kind key) (hanswered : past.Answered) :
    ∃ t, TypeString.parse key = .ok t ∧ past.Stored kind t.normalized := by
  obtain ⟨m, hm, q, handle, hevent, hkind, hkey⟩ := h
  obtain ⟨-, t, hparse⟩ := hanswered m hm q handle hevent
  have hstored : past.Stored kind t.normalized :=
    ⟨m, hm, q, handle, hevent, hkind, .inr ⟨t, hparse, rfl⟩⟩
  rcases hkey with rfl | ⟨u, hparse', rfl⟩
  · exact ⟨t, hparse, hstored⟩
  · -- the key is the normalized form, and so its own
    rw [hparse] at hparse'
    cases hparse'
    exact ⟨t.short, TypeString.parse_normalized hparse, hstored⟩

end History

/-! ### The invariant of nested runs -/

/-- The keys are those that the history accounts for, at the end and at every
moment. -/
structure Accounted (w : World History) : Prop where
  keys : ∀ kind key, key ∈ w.caches.keys kind ↔ w.outside.Stored kind key
  moments : ∀ m past, m :: past <:+ w.outside →
    ∀ kind key, key ∈ m.caches.keys kind ↔ History.Stored (m :: past) kind key
  answered : w.outside.Answered

namespace Accounted

variable {w w' : World History}

theorem new : Accounted (.new []) where
  keys kind key := by
    constructor
    · intro hkey
      obtain ⟨handle, hfound⟩ := Caches.mem_keys_iff.1 hkey
      simp [World.new] at hfound
    · exact fun h => absurd h History.not_stored_nil
  moments m past h := by cases List.suffix_nil.1 h
  answered m hm := by cases hm

theorem normalized_mem (h : Accounted w) (hkey : key ∈ w.caches.keys kind) :
    ∃ t, TypeString.parse key = .ok t ∧ t.normalized ∈ w.caches.keys kind := by
  obtain ⟨t, hparse, hstored⟩ := ((h.keys kind key).1 hkey).normalized h.answered
  exact ⟨t, hparse, (h.keys kind t.normalized).2 hstored⟩

/-- The history goes on by an event that accounts for what has become of the caches
before it. -/
theorem advance (h : Accounted w) {e : Event} {c : Caches}
    (hkeys : ∀ kind key, key ∈ c.keys kind ↔ History.Stored (⟨e, c⟩ :: w.outside) kind key)
    (hanswered : ∀ q handle, e = .returned q (.ok handle) →
      c.get? q.kind q.text = some handle ∧ ∃ t, TypeString.parse q.text = .ok t) :
    Accounted (World.note e { w with caches := c }) where
  keys := hkeys
  moments m past hm := by
    rcases List.suffix_cons_iff.1 hm with hm | hm
    · cases hm
      exact hkeys
    · exact h.moments m past hm
  answered m hm := by
    rcases List.mem_cons.1 hm with rfl | hm
    · exact hanswered
    · exact h.answered m hm

theorem note (h : Accounted w) {e : Event} (he : ∀ q handle, e ≠ .returned q (.ok handle)) :
    Accounted (w.note e) := by
  refine h.advance (fun kind key => ?_) (fun q handle hevent => absurd hevent (he q handle))
  rw [h.keys kind key]
  exact (History.stored_cons_of_ne he).symm

theorem returned (h : Accounted w) {q : Request} {t : TypeString} {handle : TypeHandle}
    {c : Caches} (hparse : TypeString.parse q.text = .ok t)
    (hfound : c.get? q.kind q.text = some handle)
    (hkeys : ∀ kind key, key ∈ c.keys kind ↔
      (kind = q.kind ∧ (key = q.text ∨ key = t.normalized)) ∨ key ∈ w.caches.keys kind) :
    Accounted (World.note (.returned q (.ok handle)) { w with caches := c }) := by
  refine h.advance (fun kind key => ?_) ?_
  · rw [hkeys kind key, History.stored_cons_returned, Request.storedUnder_iff hparse,
      h.keys kind key, eq_comm]
  · rintro _ _ ⟨⟩
    exact ⟨hfound, t, hparse⟩

theorem call {provider : Provider History}
    (hwithin : provider.Within fun v v' => Accounted v → Accounted v') (q : Request)
    (h : Accounted w) : Accounted (w.call provider q) := by
  have hcalled : Accounted (w.note (.called q)) := h.note (by rintro _ _ ⟨⟩)
  rcases hserve : Resolver.serve provider q (w.note (.called q)) with ⟨result, w'⟩
  have houtcome := Resolver.outcome_of_serve hwithin (fun _ h => h)
    (fun h h' hu => h' (h hu)) hserve
  rw [World.call, hserve]
  cases houtcome with
  | failed before => exact (before hcalled).note (by rintro _ _ ⟨⟩)
  | @held handle _ before hit =>
      -- the text is a key already, and with it its normalized form
      have h₁ := before hcalled
      have htext : q.text ∈ w'.caches.keys q.kind := Caches.mem_keys_iff.2 ⟨handle, hit⟩
      obtain ⟨t, hparse, hnormalized⟩ := h₁.normalized_mem htext
      refine h₁.returned hparse hit fun kind key => ⟨.inr, ?_⟩
      rintro (⟨rfl, rfl | rfl⟩ | hkey)
      · exact htext
      · exact hnormalized
      · exact hkey
  | @copied t handle w₁ before hparse _ hit =>
      -- the normalized form is a key already
      have h₁ := before hcalled
      have hnormalized : t.normalized ∈ w₁.caches.keys q.kind :=
        Caches.mem_keys_iff.2 ⟨handle, hit⟩
      refine h₁.returned hparse (by simp [Caches.get?_insert]) fun kind key => ?_
      rw [Caches.mem_keys_insert]
      constructor
      · exact Or.imp_left (And.imp_right .inl)
      · rintro (⟨rfl, rfl | rfl⟩ | hkey)
        · exact .inl ⟨rfl, rfl⟩
        · exact .inr hnormalized
        · exact .inr hkey
  | @loaded t handle w₀ w₁ before hparse _ during =>
      have h₁ := during (before hcalled)
      refine h₁.returned hparse (by simp [Caches.get?_insert]) fun kind key => ?_
      rw [World.caches_insert, Caches.mem_keys_insert, Caches.mem_keys_insert]
      tauto

theorem run {Allowed : Provider History → Prop} (run : Run Allowed w w') (h : Accounted w) :
    Accounted w' := by
  refine run.within (G := fun v v' => Accounted v → Accounted v') ?_ ?_ ?_ ?_ ?_ h
  · exact fun _ h => h
  · exact fun h h' hu => h' (h hu)
  · exact fun _ _ h => h.note (by rintro _ _ ⟨⟩)
  · exact fun _ _ h => h.note (by rintro _ _ ⟨⟩)
  · exact fun q _ _ _ hwithin h => h.call hwithin q

end Accounted

/-- What is stored in nested runs of a new resolver, whatever its providers answer
and do. When a call returns a type, its text is cached for this type and the
normalized form of it is a key. At every moment the keys can be read and their
normalized forms are keys; no key of an earlier moment is missing; and the keys
are the texts of the calls that have succeeded so far, with their normalized
forms. -/
theorem stored_of_nested {Allowed : Provider History → Prop} {w : World History}
    (run : Run Allowed (.new []) w) {m : Moment} {past : History} (hm : m :: past <:+ w.outside) :
    (∀ q handle, m.event = .returned q (.ok handle) →
      m.caches.get? q.kind q.text = some handle ∧
        ∃ t, TypeString.parse q.text = .ok t ∧ t.normalized ∈ m.caches.keys q.kind) ∧
      (∀ kind, ∀ key ∈ m.caches.keys kind,
        ∃ t, TypeString.parse key = .ok t ∧ t.normalized ∈ m.caches.keys kind) ∧
      (∀ m' ∈ past, ∀ kind, m'.caches.keys kind ⊆ m.caches.keys kind) ∧
      ∀ kind key, key ∈ m.caches.keys kind ↔ History.Stored (m :: past) kind key := by
  have h : Accounted w := Accounted.new.run run
  have hanswered : History.Answered (m :: past) := h.answered.mono hm
  have hclosed : ∀ kind, ∀ key ∈ m.caches.keys kind,
      ∃ t, TypeString.parse key = .ok t ∧ t.normalized ∈ m.caches.keys kind := by
    intro kind key hkey
    obtain ⟨t, hparse, hstored⟩ := ((h.moments m past hm kind key).1 hkey).normalized hanswered
    exact ⟨t, hparse, (h.moments m past hm kind t.normalized).2 hstored⟩
  refine ⟨fun q handle hevent => ?_, hclosed, fun m' hm' kind key hkey => ?_,
    h.moments m past hm⟩
  · have hfound := (hanswered m List.mem_cons_self q handle hevent).1
    exact ⟨hfound, hclosed q.kind q.text (Caches.mem_keys_iff.2 ⟨handle, hfound⟩)⟩
  · -- what was stored at the earlier moment is stored still
    obtain ⟨between, before, rfl⟩ := List.append_of_mem hm'
    have hsuffix : m' :: before <:+ m :: (between ++ m' :: before) :=
      ⟨m :: between, rfl⟩
    have hstored := (h.moments m' before (hsuffix.trans hm) kind key).1 hkey
    exact (h.moments m _ hm kind key).2 (hstored.mono hsuffix)

/-- The call that is nested in the second one of the run, and finds its text cached.
-/
theorem stored_of_nested_interleaved :
    ∃ m ∈ interleaved.outside,
      m.event = .returned ⟨.message, "p/C"⟩ (.ok (.native "p.foo.C" .integer)) ∧
        m.caches.get? .message "p/C" = some (.native "p.foo.C" .integer) ∧
        ∃ t, TypeString.parse "p/C" = .ok t ∧ t.normalized ∈ m.caches.keys .message := by
  have hevent : .returned ⟨.message, "p/C"⟩ (.ok (.native "p.foo.C" .integer)) ∈
      interleaved.outside.map (·.event) := by simp [events_interleaved]
  obtain ⟨m, hm, h⟩ := List.mem_map.1 hevent
  obtain ⟨later, past, hsplit⟩ := List.append_of_mem hm
  obtain ⟨hreturned, -⟩ := stored_of_nested run_interleaved ⟨later, hsplit.symm⟩
  obtain ⟨hfound, hkeys⟩ := hreturned _ _ h
  exact ⟨m, hm, h, hfound, hkeys⟩

end TypeResolution
