import TypeResolution.Proofs.Nested
import TypeResolution.Proofs.Outcome
import TypeResolution.Proofs.Precedence
import TypeResolution.Proofs.Response

/-!
Calls that overtake one another. A resolution that has loaded a type writes it under
the normalized form without looking again whether another one has done so while it
waited for its provider. A spelling that was served in between keeps the type that
it was served with. However calls nest and whatever their providers answer, this is the
only way in which a key and its normalized form come to have different types
(`Settled`).
-/

namespace TypeResolution

/-! ### Overlapping calls in a history -/

namespace History

inductive Balanced : History → Prop
  | nil : Balanced []
  | asked {past : History} (modulePath : String) (c : Caches) (before : Balanced past) :
      Balanced (⟨.asked modulePath, c⟩ :: past)
  | lookedUp {past : History} (className : String) (c : Caches) (before : Balanced past) :
      Balanced (⟨.lookedUp className, c⟩ :: past)
  | call {past during : History} (q : Request) (result : Except ResolveError TypeHandle)
      (c c' : Caches) (nested : Balanced during) (before : Balanced past) :
      Balanced (⟨.returned q result, c'⟩ :: (during ++ ⟨.called q, c⟩ :: past))

theorem Balanced.append {past during : History} (h : Balanced during) (h' : Balanced past) :
    Balanced (during ++ past) := by
  induction h with
  | nil => exact h'
  | asked modulePath c _ ih => exact .asked modulePath c ih
  | lookedUp className c _ ih => exact .lookedUp className c ih
  | call q result c c' nested _ _ ih =>
      rw [List.cons_append, List.append_assoc, List.cons_append]
      exact .call q result c c' nested ih

def Returned (past : History) (q : Request) (handle : TypeHandle) : Prop :=
  ∃ m ∈ past, m.event = .returned q (.ok handle)

theorem Returned.append_left {past : History} {q : Request} {handle : TypeHandle}
    (h : past.Returned q handle) (later : History) : Returned (later ++ past) q handle := by
  obtain ⟨m, hm, hevent⟩ := h
  exact ⟨m, List.mem_append_right later hm, hevent⟩

theorem Returned.append_right {past : History} {q : Request} {handle : TypeHandle}
    (h : past.Returned q handle) (earlier : History) : Returned (past ++ earlier) q handle := by
  obtain ⟨m, hm, hevent⟩ := h
  exact ⟨m, List.mem_append_left earlier hm, hevent⟩

/-- Between the beginning and the end of a call for `q`, which has returned `handle`, a
call for `q'` has returned `handle'`. The two requests spell the same type. -/
structure Overtaken (past : History) (q q' : Request) (handle handle' : TypeHandle) : Prop where
  sameType : q.key? = q'.key?
  differ : q ≠ q'
  overlap : ∃ before during c c',
    ⟨.returned q (.ok handle), c'⟩ :: (during ++ ⟨.called q, c⟩ :: before) <:+ past ∧
      Balanced during ∧ during.Returned q' handle'

theorem Overtaken.mono {past past' : History} {q q' : Request} {handle handle' : TypeHandle}
    (h : past.Overtaken q q' handle handle') (hlater : past <:+ past') :
    past'.Overtaken q q' handle handle' where
  sameType := h.sameType
  differ := h.differ
  overlap := by
    obtain ⟨before, during, c, c', hpast, hduring⟩ := h.overlap
    exact ⟨before, during, c, c', hpast.trans hlater, hduring⟩

end History

/-! ### What a run adds to the caches -/

namespace World

/-- Finished calls lead from `w` to `w'`, and what is cached after them was cached
before, or has been returned by one of them, or has a key that is a normalized form. -/
def Leads (w w' : World History) : Prop :=
  ∃ during, w'.outside = during ++ w.outside ∧ History.Balanced during ∧
    ∀ ⦃kind key handle⦄, w'.cached? kind key = some handle →
      w.cached? kind key = some handle ∨ History.Returned during ⟨kind, key⟩ handle ∨
        Request.key? ⟨kind, key⟩ = some (kind, key)

namespace Leads

variable {u v w : World History}

theorem refl (w : World History) : Leads w w :=
  ⟨[], rfl, .nil, fun _ _ _ h => .inl h⟩

theorem trans (h : Leads u v) (h' : Leads v w) : Leads u w := by
  obtain ⟨during, houtside, hbalanced, hentries⟩ := h
  obtain ⟨during', houtside', hbalanced', hentries'⟩ := h'
  refine ⟨during' ++ during, ?_, hbalanced'.append hbalanced, fun kind key handle hfound => ?_⟩
  · rw [houtside', houtside, List.append_assoc]
  · rcases hentries' hfound with hfound | hreturned | hnormalized
    · rcases hentries hfound with hfound | hreturned | hnormalized
      · exact .inl hfound
      · exact .inr (.inl (hreturned.append_left during'))
      · exact .inr (.inr hnormalized)
    · exact .inr (.inl (hreturned.append_right during))
    · exact .inr (.inr hnormalized)

theorem later (h : Leads v w) : Later v w := by
  obtain ⟨during, houtside, -⟩ := h
  exact ⟨during, houtside.symm⟩

theorem returned {q : Request} {result : Except ResolveError TypeHandle} {c : Caches}
    (h : Leads (v.note (.called q)) w)
    (hentries : ∀ ⦃kind key handle⦄, c.get? kind key = some handle →
      w.cached? kind key = some handle ∨ (q = ⟨kind, key⟩ ∧ result = .ok handle) ∨
        Request.key? ⟨kind, key⟩ = some (kind, key)) :
    Leads v (note (.returned q result) { w with caches := c }) := by
  obtain ⟨during, houtside, hbalanced, hduring⟩ := h
  refine ⟨⟨.returned q result, c⟩ :: (during ++ [⟨.called q, v.caches⟩]), ?_,
    .call q result v.caches c hbalanced .nil, fun kind key handle hfound => ?_⟩
  · simp [houtside]
  · rcases hentries hfound with hfound | ⟨rfl, rfl⟩ | hnormalized
    · rcases hduring hfound with hfound | hreturned | hnormalized
      · exact .inl hfound
      · exact .inr (.inl ((hreturned.append_right _).append_left [_]))
      · exact .inr (.inr hnormalized)
    · exact .inr (.inl ⟨_, List.mem_cons_self, rfl⟩)
    · exact .inr (.inr hnormalized)

/-- A text was not cached when a call for `q` asked its provider in `v`, but is when
the provider has answered in `w`. Then a call for the text has been faster. -/
theorem overtaken {q : Request} {kind : Kind} {text : String} {found : TypeHandle}
    (before : Leads (u.note (.called q)) v) (during : Leads v w)
    (hkey : q.key? = Request.key? ⟨kind, text⟩) (hne : q ≠ ⟨kind, text⟩)
    (hspelled : Request.key? ⟨kind, text⟩ ≠ some (kind, text))
    (miss : v.cached? kind text = none) (hit : w.cached? kind text = some found)
    (handle : TypeHandle) (c : Caches) :
    History.Overtaken (⟨.returned q (.ok handle), c⟩ :: w.outside) q ⟨kind, text⟩ handle found where
  sameType := hkey
  differ := hne
  overlap := by
    obtain ⟨past, houtside, hbalanced, -⟩ := before
    obtain ⟨past', houtside', hbalanced', hentries⟩ := during
    have hreturned : History.Returned past' ⟨kind, text⟩ found := by
      rcases hentries hit with hfound | hreturned | hnormalized
      · rw [miss] at hfound
        cases hfound
      · exact hreturned
      · exact absurd hnormalized hspelled
    refine ⟨u.outside, past' ++ past, u.caches, c, ⟨[], ?_⟩, hbalanced'.append hbalanced,
      hreturned.append_right past⟩
    simp [houtside', houtside]

end Leads

end World

/-! ### The invariant of nested runs -/

/-- Every key can be read, and its normalized form is a key too. The two have the
same type unless a call that wrote the normalized form has been overtaken. -/
def Settled (w : World History) : Prop :=
  ∀ ⦃kind key handle⦄, w.cached? kind key = some handle →
    ∃ t handle', TypeString.parse key = .ok t ∧ w.cached? kind t.normalized = some handle' ∧
      (handle = handle' ∨ ∃ q, w.outside.Overtaken q ⟨kind, key⟩ handle' handle)

namespace Settled

variable {w w' : World History} {q : Request} {t : TypeString}

theorem new : Settled (.new []) := by
  intro kind key handle h
  simp at h

theorem note (h : Settled w) (e : Event) : Settled (w.note e) := by
  intro kind key handle hfound
  obtain ⟨t, handle', hparse, hnormalized, hagree⟩ := h hfound
  refine ⟨t, handle', hparse, hnormalized, hagree.imp_right ?_⟩
  rintro ⟨q, hovertaken⟩
  exact ⟨q, hovertaken.mono (World.later_note e w)⟩

/-- Nothing is cached under a spelling if nothing is under the normalized form. -/
theorem cached?_eq_none (h : Settled w) {kind : Kind} {text : String}
    (hparse : TypeString.parse text = .ok t) (unknown : w.cached? kind t.normalized = none) :
    w.cached? kind text = none := by
  cases hknown : w.cached? kind text with
  | none => rfl
  | some handle =>
      obtain ⟨u, handle', hparse', hnormalized, -⟩ := h hknown
      rw [hparse] at hparse'
      cases hparse'
      rw [unknown] at hnormalized
      cases hnormalized

/-- The type of the normalized form is copied to a new key. -/
theorem insert_copy (h : Settled w) {kind : Kind} {text : String} {t : TypeString}
    {handle : TypeHandle} (hparse : TypeString.parse text = .ok t)
    (miss : w.cached? kind text = none) (hit : w.cached? kind t.normalized = some handle) :
    Settled (w.insert kind text handle) := by
  intro other key found hfound
  rcases Caches.of_get?_insert hfound with ⟨rfl, rfl, rfl⟩ | hfound
  · refine ⟨t, found, hparse, ?_, .inl rfl⟩
    rw [World.cached?_insert]
    split
    · rfl
    · exact hit
  · obtain ⟨u, handle', hparse', hnormalized, hagree⟩ := h hfound
    refine ⟨u, handle', hparse', ?_, hagree⟩
    rw [World.cached?_insert, if_neg, hnormalized]
    -- the new key is not the normalized form of an old one, which is a key already
    rintro ⟨rfl, rfl⟩
    rw [miss] at hnormalized
    cases hnormalized

/-- A call for `q` returns what it has loaded. It began in `w`, and asked its
provider in `w₀`, where the normalized form was not cached. -/
theorem returned_loaded {w₀ w₁ : World History} (before : World.Leads (w.note (.called q)) w₀)
    (during : World.Leads w₀ w₁) (h₀ : Settled w₀) (h₁ : Settled w₁)
    (hparse : TypeString.parse q.text = .ok t) (miss : w₀.cached? q.kind t.normalized = none)
    (handle : TypeHandle) :
    Settled (World.note (.returned q (.ok handle))
      { w₁ with caches := w₁.caches.store q t.normalized (.ok handle) }) := by
  have hget (kind : Kind) (key : String) :=
    Caches.get?_store_ok w₁.caches q t.normalized handle kind key
  have hwritten : (w₁.caches.store q t.normalized (.ok handle)).get? q.kind t.normalized =
      some handle := by simp [hget]
  intro kind key found hfound
  rw [World.cached?_note, World.cached?, hget] at hfound
  split at hfound
  · rename_i hown
    obtain ⟨rfl, hkey⟩ := hown
    cases hfound
    rcases hkey with rfl | rfl
    · exact ⟨t, handle, hparse, hwritten, .inl rfl⟩
    · exact ⟨t.short, handle, TypeString.parse_normalized hparse, hwritten, .inl rfl⟩
  · rename_i hother
    obtain ⟨u, handle', hparse', hnormalized, hagree⟩ := h₁ hfound
    have hkey : Request.key? ⟨kind, key⟩ = some (kind, u.normalized) :=
      Request.key?_of_parse hparse'
    by_cases hsame : kind = q.kind ∧ u.normalized = t.normalized
    · obtain ⟨rfl, hspelling⟩ := hsame
      refine ⟨u, handle, hparse', hspelling ▸ hwritten, .inr ⟨q, ?_⟩⟩
      have miss' : w₀.cached? q.kind key = none := h₀.cached?_eq_none hparse' (hspelling ▸ miss)
      refine before.overtaken during ?_ ?_ ?_ miss' hfound handle _
      · rw [Request.key?_of_parse hparse, hkey, hspelling]
      · intro heq
        exact hother ⟨rfl, .inl (congrArg Request.text heq).symm⟩
      · rw [hkey, hspelling]
        intro heq
        exact hother ⟨rfl, .inr (Prod.mk.inj (Option.some.inj heq)).2.symm⟩
    · refine ⟨u, handle', hparse', ?_, hagree.imp_right ?_⟩
      · rw [World.cached?_note, World.cached?, hget, if_neg]
        · exact hnormalized
        · rintro ⟨rfl, htext | hspelling⟩
          · -- the text would be a normalized form, and so its own
            rw [← htext, TypeString.parse_normalized hparse'] at hparse
            cases hparse
            exact hsame ⟨rfl, rfl⟩
          · exact hsame ⟨rfl, hspelling⟩
      · rintro ⟨q', hovertaken⟩
        exact ⟨q', hovertaken.mono (List.suffix_cons _ _)⟩

end Settled

def Settles (w w' : World History) : Prop := World.Leads w w' ∧ (Settled w → Settled w')

namespace Settles

variable {u v w : World History}

theorem refl (w : World History) : Settles w w := ⟨.refl w, id⟩

theorem trans (h : Settles u v) (h' : Settles v w) : Settles u w :=
  ⟨h.1.trans h'.1, h'.2 ∘ h.2⟩

theorem call {provider : Provider History} (hwithin : provider.Within Settles) (q : Request)
    (w : World History) : Settles w (w.call provider q) := by
  rcases hserve : Resolver.serve provider q (w.note (.called q)) with ⟨result, w'⟩
  have houtcome := Resolver.outcome_of_serve hwithin refl trans hserve
  rw [World.call, hserve]
  cases houtcome with
  | failed before =>
      exact ⟨before.1.returned fun _ _ _ => .inl, fun h => (before.2 (h.note _)).note _⟩
  | held before _ =>
      exact ⟨before.1.returned fun _ _ _ => .inl, fun h => (before.2 (h.note _)).note _⟩
  | @copied t handle w₁ before hparse miss hit =>
      refine ⟨before.1.returned fun kind key found hfound => ?_,
        fun h => ((before.2 (h.note _)).insert_copy hparse miss hit).note _⟩
      rcases Caches.of_get?_insert hfound with ⟨rfl, rfl, rfl⟩ | hfound
      · exact .inr (.inl ⟨rfl, rfl⟩)
      · exact .inl hfound
  | @loaded t handle w₀ w₁ before hparse miss during =>
      refine ⟨(before.1.trans during.1).returned fun kind key found hfound => ?_, fun h => ?_⟩
      · rcases Caches.of_get?_insert hfound with ⟨rfl, rfl, rfl⟩ | hfound
        · exact .inr (.inr (Request.key?_normalized hparse q.kind))
        · rcases Caches.of_get?_insert hfound with ⟨rfl, rfl, rfl⟩ | hfound
          · exact .inr (.inl ⟨rfl, rfl⟩)
          · exact .inl hfound
      · have h₀ := before.2 (h.note (.called q))
        exact Settled.returned_loaded before.1 during.1 h₀ (during.2 h₀) hparse miss handle

theorem note {e : Event} (he : ∀ c, History.Balanced [⟨e, c⟩]) (w : World History) :
    Settles w (w.note e) :=
  ⟨⟨[⟨e, w.caches⟩], rfl, he w.caches, fun _ _ _ => .inl⟩, fun h => h.note e⟩

end Settles

theorem Settled.run {Allowed : Provider History → Prop} {w w' : World History}
    (run : Run Allowed w w') (h : Settled w) : Settled w' := by
  have hsettles : Settles w w' := by
    refine run.within Settles.refl Settles.trans ?_ ?_ ?_
    · exact fun modulePath => Settles.note fun c => .asked modulePath c .nil
    · exact fun className => Settles.note fun c => .lookedUp className c .nil
    · exact fun q _ v _ hwithin => Settles.call hwithin q v
  exact hsettles.2 h

end TypeResolution
