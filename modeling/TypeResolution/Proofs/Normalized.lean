import TypeResolution.TypeString

/-!
The normalized form as a key. Every spelling of a type has the same normalized
form, which is a spelling itself, and types of different packages or classes
never share one. What the caches rely on is stated at the end: a normalized form
can be read, stands for its own package and class, and always has a subpath.
-/

namespace TypeResolution

/-- What can stand between two slashes of a type string. -/
def IsSegment (s : String) : Prop := s ≠ "" ∧ '/' ∉ s.toList

namespace Text

theorem pieces_of_notMem {sep : Char} {cs : List Char} (h : sep ∉ cs) : pieces sep cs = [cs] := by
  induction cs with
  | nil => rfl
  | cons c cs ih =>
      simp only [List.mem_cons, not_or] at h
      rw [pieces, if_neg (Ne.symm h.1), ih h.2]

/-- A separator cuts off what precedes it. -/
theorem pieces_append_sep {sep : Char} {front : List Char} (h : sep ∉ front) (back : List Char) :
    pieces sep (front ++ sep :: back) = front :: pieces sep back := by
  induction front with
  | nil => simp
  | cons c cs ih =>
      simp only [List.mem_cons, not_or] at h
      rw [List.cons_append, pieces, if_neg (Ne.symm h.1), ih h.2]

theorem isSegment_of_mem_segments {text s : String} (h : s ∈ segments text) : IsSegment s := by
  obtain ⟨piece, hpiece, rfl⟩ := List.mem_map.1 h
  obtain ⟨hmem, hne⟩ := List.mem_filter.1 hpiece
  refine ⟨fun hempty => ?_, ?_⟩
  · exact of_decide_eq_true hne (String.ofList_eq_empty_iff.1 hempty)
  · rw [String.toList_ofList]
    exact sep_notMem_of_mem_pieces hmem

theorem segments_canonicalKey {package className : String} (hp : IsSegment package)
    (hc : IsSegment className) : segments (canonicalKey package className) = [package, className] := by
  have htext : (canonicalKey package className).toList =
      package.toList ++ '/' :: className.toList := by
    simp [canonicalKey, String.toList_append]
  have hp' : package.toList ≠ [] := fun h => hp.1 (String.toList_eq_nil_iff.1 h)
  have hc' : className.toList ≠ [] := fun h => hc.1 (String.toList_eq_nil_iff.1 h)
  rw [segments, htext, pieces_append_sep hp.2, pieces_of_notMem hc.2]
  simp [hp', hc']

end Text

theorem canonicalKey_inj {p c p' c' : String} (hp : IsSegment p) (hc : IsSegment c)
    (hp' : IsSegment p') (hc' : IsSegment c') :
    canonicalKey p c = canonicalKey p' c' ↔ p = p' ∧ c = c' := by
  constructor
  · intro h
    have hsegments := congrArg Text.segments h
    rw [Text.segments_canonicalKey hp hc, Text.segments_canonicalKey hp' hc'] at hsegments
    simpa using hsegments
  · rintro ⟨rfl, rfl⟩
    rfl

namespace TypeString

theorem segments_of_parse {text : String} {t : TypeString} (h : parse text = .ok t) :
    Text.segments text = t.package :: t.middle ++ [t.className] := by
  unfold parse at h
  split at h
  · rename_i hsegments
    cases h
    simpa using hsegments
  · rename_i hsegments
    cases h
    simpa using hsegments
  · rename_i hsegments
    split at h
    · cases h
      simpa using hsegments
    · cases h
  · cases h

theorem isSegment_package {text : String} {t : TypeString} (h : parse text = .ok t) :
    IsSegment t.package := by
  have hmem : t.package ∈ Text.segments text := by simp [segments_of_parse h]
  exact Text.isSegment_of_mem_segments hmem

theorem isSegment_className {text : String} {t : TypeString} (h : parse text = .ok t) :
    IsSegment t.className := by
  have hmem : t.className ∈ Text.segments text := by simp [segments_of_parse h]
  exact Text.isSegment_of_mem_segments hmem

/-- The type string with the same package and class that names no subpath. -/
def short (t : TypeString) : TypeString := ⟨t.package, [], t.className⟩

@[simp] theorem normalized_short (t : TypeString) : t.short.normalized = t.normalized := rfl

@[simp] theorem withSubpath_short (t : TypeString) (subpath : String) :
    t.short.withSubpath subpath = t.withSubpath subpath := rfl

@[simp] theorem inferredSubpath_short (t : TypeString) (kind : Kind) :
    t.short.inferredSubpath kind = .ok kind.defaultSubpath := rfl

theorem parse_normalized {text : String} {t : TypeString} (h : parse text = .ok t) :
    parse t.normalized = .ok t.short := by
  have hsegments := Text.segments_canonicalKey (isSegment_package h) (isSegment_className h)
  rw [parse, normalized, hsegments]
  rfl

/-- Two type strings share their normalized form just if they agree in their
packages and classes. -/
theorem normalized_eq_iff {text text' : String} {t t' : TypeString} (h : parse text = .ok t)
    (h' : parse text' = .ok t') : t.normalized = t'.normalized ↔ t.short = t'.short := by
  rw [normalized, normalized, canonicalKey_inj (isSegment_package h) (isSegment_className h)
    (isSegment_package h') (isSegment_className h')]
  simp [short]

end TypeString

end TypeResolution
