import TypeResolution.Proofs.Normalized

/-!
The subpaths that type strings lead to. Whatever its shape, a type string has its
package, its subpath and its class from segments, and neither joining segments by dots
nor the snake case of an action's name brings in a slash; so every inferred subpath could
stand between slashes itself (`TypeString.isSegment_of_inferredSubpath`). Services are
never looked for in `action` itself
(`TypeString.ne_action_of_inferredSubpath`).
-/

namespace TypeResolution

namespace Text

/-! ### Lowercasing brings in no other characters than letters -/

theorem toNat_eq_of_ofNat_eq {n : Nat} {x : Char} (h : Char.ofNat n = x) (hx : 0 < x.toNat) :
    x.toNat = n := by
  by_cases hn : n.isValidChar
  · rw [Char.ofNat, dif_pos hn] at h
    subst h
    rfl
  · rw [Char.ofNat, dif_neg hn] at h
    subst h
    exact absurd hx (by decide)

/-- All lowercase forms in the table lie above the capitals of ASCII. -/
theorem le_target_of_mem_lowercaseRanges : ∀ r ∈ lowercaseRanges, 0x61 ≤ r.target := by
  decide +kernel

theorem le_of_findSome?_lower? {n lowered : Nat}
    (h : lowercaseRanges.findSome? (·.lower? n) = some lowered) : 0x61 ≤ lowered := by
  obtain ⟨r, hr, hlower⟩ := List.exists_of_findSome?_eq_some h
  have htarget := le_target_of_mem_lowercaseRanges r hr
  unfold CaseRange.lower? at hlower
  split at hlower
  · have hsum := Option.some.inj hlower
    omega
  · cases hlower

variable {x : Char}

theorem eq_of_mem_lowercaseChar (h0 : 0 < x.toNat) (h : x.toNat < 0x61) {c : Char}
    (hx : x ∈ lowercaseChar c) : x = c := by
  unfold lowercaseChar at hx
  split at hx
  · simp only [List.mem_cons, List.not_mem_nil, or_false] at hx
    rcases hx with rfl | rfl
    · exact absurd h (by decide)
    · exact absurd h (by decide)
  · have heq := List.mem_singleton.1 hx
    cases hfound : lowercaseRanges.findSome? (·.lower? c.toNat) with
    | none => simpa [hfound] using heq
    | some n =>
        have hn : Char.ofNat n = x := by simpa [hfound] using heq.symm
        have hle := le_of_findSome?_lower? hfound
        have hnat := toNat_eq_of_ofNat_eq hn h0
        omega

/-- What comes before the small letters of ASCII is in a lowered text only if it was in
the text already. -/
theorem mem_of_mem_lowercase (h0 : 0 < x.toNat) (h : x.toNat < 0x61) {cs : List Char}
    (hx : x ∈ lowercase cs) : x ∈ cs := by
  unfold lowercase at hx
  generalize false = cased at hx
  induction cs generalizing cased with
  | nil => exact hx
  | cons c cs ih =>
      unfold lowercaseAfter at hx
      rcases List.mem_append.1 hx with hx | hx
      · have heq : x = c := by
          split at hx
          · split at hx
            · rw [List.mem_singleton.1 hx] at h
              exact absurd h (by decide)
            · rw [List.mem_singleton.1 hx] at h
              exact absurd h (by decide)
          · exact eq_of_mem_lowercaseChar h0 h hx
        exact heq ▸ List.mem_cons_self
      · exact List.mem_cons_of_mem _ (ih _ hx)

/-! ### Snake case -/

theorem eq_or_mem_of_mem_separateAfter {before : Char} {cs : List Char}
    (h : x ∈ separateAfter before cs) : x = '_' ∨ x ∈ cs := by
  induction cs generalizing before with
  | nil => exact .inr h
  | cons c cs ih =>
      unfold separateAfter at h
      split at h
      · simp only [List.mem_cons] at h ⊢
        rcases h with h | h | h
        · exact .inl h
        · exact .inr (.inl h)
        · exact (ih h).imp_right .inr
      · simp only [List.mem_cons] at h ⊢
        rcases h with h | h
        · exact .inr (.inl h)
        · exact (ih h).imp_right .inr

/-- Of the characters before the small letters of ASCII snake case brings in the underscore
alone. -/
theorem notMem_snakeCase (h0 : 0 < x.toNat) (hx : x.toNat < 0x61) (hne : x ≠ '_') {name : String}
    (h : x ∉ name.toList) : x ∉ (snakeCase name).toList := by
  intro hsnake
  rw [snakeCase, String.toList_ofList] at hsnake
  have hmem := mem_of_mem_lowercase h0 hx hsnake
  cases hcs : name.toList with
  | nil => simp [hcs, separateWords] at hmem
  | cons c cs =>
      rw [hcs, separateWords] at hmem
      rw [hcs] at h
      rcases List.mem_cons.1 hmem with hmem | hmem
      · exact h (hmem ▸ List.mem_cons_self)
      · rcases eq_or_mem_of_mem_separateAfter hmem with hmem | hmem
        · exact hne hmem
        · exact h (List.mem_cons_of_mem c hmem)

end Text

/-! ### Joining segments -/

theorem IsSegment.append {s : String} (h : IsSegment s) {rest : String}
    (hrest : '/' ∉ rest.toList) : IsSegment (s ++ rest) := by
  refine ⟨?_, ?_⟩
  · intro hempty
    have hs : s = "" := by
      have hnil := congrArg String.toList hempty
      simp [String.toList_append] at hnil
      exact hnil.1
    exact h.1 hs
  · simp [String.toList_append, h.2, hrest]

theorem Kind.isSegment_defaultSubpath (kind : Kind) : IsSegment kind.defaultSubpath := by
  cases kind <;> exact ⟨by decide, by decide⟩

namespace ActionService

/-- A hidden submodule is the subpath itself, or is named below it after an action whose
name starts the name of the class. -/
theorem eq_or_append_of_hiddenSubpath {subpath className hidden : String}
    (h : hiddenSubpath subpath className = .ok hidden) :
    (hiddenMarks subpath.toList = 1 ∧ hidden = subpath) ∨
      ∃ action, action.toList <+: className.toList ∧
        hidden = subpath ++ "._" ++ Text.snakeCase action := by
  unfold hiddenSubpath at h
  split at h
  · rename_i hmarks
    cases h
    exact .inl ⟨hmarks, rfl⟩
  · cases haction : actionName? className with
    | none => simp [haction] at h
    | some action =>
        rw [haction] at h
        cases h
        refine .inr ⟨action, ?_, rfl⟩
        obtain ⟨cs, hcs, rfl⟩ := Option.map_eq_some_iff.1 haction
        rw [String.toList_ofList]
        rcases Option.or_eq_some_iff.1 hcs with hcs | ⟨-, hcs⟩
        all_goals
          unfold before? at hcs
          split at hcs
          · cases hcs
            exact List.take_prefix _ _
          · cases hcs

theorem eq_invalidActionInterface_of_hiddenSubpath {subpath className : String} {e : ResolveError}
    (h : hiddenSubpath subpath className = .error e) : e = .invalidActionInterface className := by
  unfold hiddenSubpath at h
  split at h
  · cases h
  · split at h
    · cases h
    · cases h
      rfl

theorem isSegment_of_hiddenSubpath {subpath className hidden : String} (hs : IsSegment subpath)
    (hc : '/' ∉ className.toList) (h : hiddenSubpath subpath className = .ok hidden) :
    IsSegment hidden := by
  rcases eq_or_append_of_hiddenSubpath h with ⟨-, rfl⟩ | ⟨action, haction, rfl⟩
  · exact hs
  · have hslash : '/' ∉ action.toList := fun hmem => hc (haction.subset hmem)
    have hsnake := Text.notMem_snakeCase (by decide) (by decide) (by decide) hslash
    exact (hs.append (by decide)).append hsnake

end ActionService

namespace TypeString

theorem isSegment_dotted {segments : List String} (hne : segments ≠ [])
    (h : ∀ s ∈ segments, IsSegment s) : IsSegment (dotted segments) := by
  induction segments with
  | nil => exact absurd rfl hne
  | cons s rest ih =>
      obtain ⟨hs, hrest⟩ := List.forall_mem_cons.1 h
      cases rest with
      | nil => exact hs
      | cons u rest => exact (hs.append (by decide)).append (ih (by simp) hrest).2

variable {text : String} {t : TypeString} {kind : Kind} {subpath : String}

theorem isSegment_of_mem_middle (h : parse text = .ok t) {s : String} (hs : s ∈ t.middle) :
    IsSegment s := by
  have hmem : s ∈ Text.segments text := by
    rw [segments_of_parse h]
    simp [hs]
  exact Text.isSegment_of_mem_segments hmem

/-- An inferred subpath is not empty and has no slash. -/
theorem isSegment_of_inferredSubpath (h : parse text = .ok t)
    (hsubpath : t.inferredSubpath kind = .ok subpath) : IsSegment subpath := by
  unfold inferredSubpath at hsubpath
  split at hsubpath
  · cases hsubpath
    exact kind.isSegment_defaultSubpath
  · rename_i hmiddle
    have hdotted := isSegment_dotted hmiddle fun s => isSegment_of_mem_middle h
    split at hsubpath
    · exact ActionService.isSegment_of_hiddenSubpath hdotted (isSegment_className h).2 hsubpath
    · cases hsubpath
      exact hdotted

theorem eq_invalidActionInterface_of_inferredSubpath {e : ResolveError}
    (h : t.inferredSubpath kind = .error e) : e = .invalidActionInterface t.className := by
  unfold inferredSubpath at h
  split at h
  · cases h
  · split at h
    · exact ActionService.eq_invalidActionInterface_of_hiddenSubpath h
    · cases h

theorem eq_of_dotted_eq_action {segments : List String} (h : dotted segments = "action") :
    segments = ["action"] := by
  match segments with
  | [] => exact absurd h (by decide)
  | [s] => exact congrArg (fun s => [s]) h
  | s :: u :: rest =>
    have hdot : '.' ∈ (dotted (s :: u :: rest)).toList := by simp [dotted, String.toList_append]
    rw [h] at hdot
    exact absurd hdot (by decide)

/-- No service is looked for in `action` itself. -/
theorem ne_action_of_inferredSubpath (hsubpath : t.inferredSubpath .service = .ok subpath) :
    subpath ≠ "action" := by
  rintro rfl
  unfold inferredSubpath at hsubpath
  split at hsubpath
  · exact absurd (Except.ok.inj hsubpath) (by decide)
  · split at hsubpath
    · rcases ActionService.eq_or_append_of_hiddenSubpath hsubpath with ⟨hmarks, hsame⟩ | ⟨_, -, hlonger⟩
      · rw [← hsame] at hmarks
        exact absurd hmarks (by decide)
      · have hmark : '_' ∈ "action".toList := by
          rw [hlonger]
          simp [String.toList_append]
        exact absurd hmark (by decide)
    · rename_i hservice
      have hmiddle := eq_of_dotted_eq_action (Except.ok.inj hsubpath)
      exact hservice ⟨rfl, by simp [isAction, hmiddle]⟩

end TypeString

end TypeResolution
