import TypeResolution.Proofs.Layout

/-!
Normalized forms among the spellings of a type. All type strings with one package and one
class share their normalized form, it is a type string with that package and class itself,
and wherever the type is placed its symbol path has the same form
(`TypeString.canonical_of_parse`). As a text it can be told by its layout: of all spellings it
is the one with two segments and one slash.
-/

namespace TypeResolution

def Layout.Plain (l : Layout) : Prop :=
  l.lead = 0 ∧ ∃ package className, l.parts = [(package, 1), (className, 0)]

theorem spread_plain (package className : String) :
    spread 0 [(package, 1), (className, 0)] = canonicalKey package className := by
  simp [spread, Text.slashes_succ, canonicalKey, String.append_assoc]

theorem exists_plain_layout {package className : String} (hp : IsSegment package)
    (hc : IsSegment className) :
    ∃ l : Layout, l.text = canonicalKey package className ∧ l.Plain := by
  have hspaced : Spaced [(package, 1), (className, 0)] := by simp [Spaced, hp, hc]
  exact ⟨⟨0, _, hspaced⟩, spread_plain package className, rfl, package, className, rfl⟩

namespace TypeString

variable {text text' : String} {t t' : TypeString}

theorem short_eq_iff :
    t'.short = t.short ↔ t'.package = t.package ∧ t'.className = t.className := by
  simp [short]

/-- Only plain texts are their own normalized forms. -/
theorem normalized_eq_self_iff (h : parse text = .ok t) :
    t.normalized = text ↔ ∃ l : Layout, l.text = text ∧ l.Plain := by
  constructor
  · rintro rfl
    exact exists_plain_layout (isSegment_package h) (isSegment_className h)
  · rintro ⟨l, rfl, hlead, package, className, hparts⟩
    have hsegments := segments_of_parse h
    rw [l.segments_text, Layout.segments, hparts] at hsegments
    have hnames : package = t.package ∧ [className] = t.middle ++ [t.className] := by
      simpa using hsegments
    have hclass : className = t.className := by
      simpa using congrArg List.getLast? hnames.2
    rw [Layout.text, hlead, hparts, spread_plain, normalized, hnames.1, hclass]

/-- The normalized form as a key for the spellings of a type, of which `text` is one. -/
structure Canonical (text : String) (t : TypeString) : Prop where
  parsed : parse t.normalized = .ok t.short
  again : t.short.normalized = t.normalized
  inferred : ∀ kind : Kind, t.short.inferredSubpath kind = .ok kind.defaultSubpath
  shared_iff : ∀ {text' t'}, parse text' = .ok t' →
    (t'.normalized = t.normalized ↔ t'.package = t.package ∧ t'.className = t.className)
  placed : ∀ subpath, (t.withSubpath subpath).normalized = t.normalized
  self_iff : t.normalized = text ↔ ∃ l : Layout, l.text = text ∧ l.Plain

theorem canonical_of_parse (h : parse text = .ok t) : Canonical text t where
  parsed := parse_normalized h
  again := normalized_short t
  inferred := inferredSubpath_short t
  shared_iff h' := by rw [normalized_eq_iff h' h, short_eq_iff]
  placed := normalized_withSubpath t
  self_iff := normalized_eq_self_iff h

/-- A spelling with slashes around it, which is not its own normalized form. -/
theorem canonical_of_parse_slashes :
    parse "/p//C/" = .ok ⟨"p", [], "C"⟩ ∧ Canonical "/p//C/" ⟨"p", [], "C"⟩ ∧
      ¬∃ l : Layout, l.text = "/p//C/" ∧ l.Plain := by
  have hparse : parse "/p//C/" = .ok ⟨"p", [], "C"⟩ := rfl
  have hcanonical := canonical_of_parse hparse
  refine ⟨hparse, hcanonical, ?_⟩
  rw [← hcanonical.self_iff]
  decide

end TypeString

end TypeResolution
