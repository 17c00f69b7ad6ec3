import TypeResolution.Proofs.Subpath

/-!
Hidden submodules along a path. A dot before an underscore marks the entrance to a hidden
submodule, and a path with just one such mark is kept as it is. The path that is made for
a service of an action has the marks of the subpath, the one that is set before the name of
the action, and those that the snake case of the name has itself: a dot of the name may
stand before an underscore, or before a word, which snake case sets an underscore before.
Counting them tells for which paths it makes no difference whether they are hidden once
or twice (`ActionService.hiddenSubpath_again`).
-/

namespace TypeResolution

namespace ActionService

/-! ### Counting marks -/

theorem hiddenMarks_cons (c : Char) (cs : List Char) :
    hiddenMarks (c :: cs) = hiddenMarks cs + if c = '.' ∧ cs.head? = some '_' then 1 else 0 := by
  by_cases h : c = '.' ∧ cs.head? = some '_'
  · obtain ⟨rfl, hhead⟩ := h
    obtain ⟨rest, rfl⟩ := List.head?_eq_some_iff.1 hhead
    simp [hiddenMarks]
  · rw [if_neg h, hiddenMarks]
    · rfl
    · rintro rest rfl rfl
      exact h ⟨rfl, rfl⟩

/-- A mark between two texts counts once, since an underscore is not the first half of
another one. -/
theorem hiddenMarks_append_mark (front back : List Char) :
    hiddenMarks (front ++ '.' :: '_' :: back) = hiddenMarks front + 1 + hiddenMarks back := by
  induction front with
  | nil =>
      simp only [List.nil_append, hiddenMarks]
      omega
  | cons c cs ih =>
      have hhead : (cs ++ '.' :: '_' :: back).head? = some '_' ↔ cs.head? = some '_' := by
        cases cs <;> simp
      rw [List.cons_append, hiddenMarks_cons, hiddenMarks_cons c cs, ih]
      simp only [hhead]
      omega

/-- What has no dots has no marks, also not with what follows it. -/
theorem hiddenMarks_append_of_notMem {front : List Char} (h : '.' ∉ front) (back : List Char) :
    hiddenMarks (front ++ back) = hiddenMarks back := by
  induction front with
  | nil => rfl
  | cons c cs ih =>
      rw [List.mem_cons, not_or] at h
      have hdot : ¬(c = '.' ∧ (cs ++ back).head? = some '_') := fun hc => h.1 hc.1.symm
      rw [List.cons_append, hiddenMarks_cons, if_neg hdot, ih h.2]
      rfl

theorem hiddenMarks_eq_zero_iff {cs : List Char} :
    hiddenMarks cs = 0 ↔ ¬['.', '_'] <:+: cs := by
  induction cs with
  | nil => simp [hiddenMarks]
  | cons c cs ih =>
      have hprefix : ['.', '_'] <+: c :: cs ↔ c = '.' ∧ cs.head? = some '_' := by
        cases cs <;> simp [List.cons_prefix_cons, eq_comm]
      rw [hiddenMarks_cons, Nat.add_eq_zero_iff, ih, List.infix_cons_iff, hprefix, not_or,
        and_comm]
      simp

end ActionService

namespace Text

open ActionService

/-! ### Marks in lowered text -/

/-- Every character is kept or replaced by some others. Dots and underscores are kept, and
no others come in. -/
inductive KeepsMarks : List Char → List Char → Prop
  | nil : KeepsMarks [] []
  | kept {c : Char} {cs ds : List Char} (rest : KeepsMarks cs ds) : KeepsMarks (c :: cs) (c :: ds)
  | replaced {c : Char} {piece cs ds : List Char} (hc : c ≠ '.' ∧ c ≠ '_') (hne : piece ≠ [])
      (hdot : '.' ∉ piece) (hunderscore : '_' ∉ piece) (rest : KeepsMarks cs ds) :
      KeepsMarks (c :: cs) (piece ++ ds)

namespace KeepsMarks

variable {cs ds : List Char}

theorem head?_iff (h : KeepsMarks cs ds) : ds.head? = some '_' ↔ cs.head? = some '_' := by
  cases h with
  | nil => exact Iff.rfl
  | kept _ => simp
  | @replaced c piece cs ds hc hne _ hunderscore _ =>
      obtain ⟨d, rest, rfl⟩ := List.exists_cons_of_ne_nil hne
      rw [List.mem_cons, not_or] at hunderscore
      simp [hc.2, Ne.symm hunderscore.1]

theorem hiddenMarks_eq (h : KeepsMarks cs ds) : hiddenMarks ds = hiddenMarks cs := by
  induction h with
  | nil => rfl
  | kept rest ih =>
      rw [hiddenMarks_cons, hiddenMarks_cons, ih]
      simp only [rest.head?_iff]
  | replaced hc _ hdot _ _ ih =>
      rw [hiddenMarks_append_of_notMem hdot, ih, hiddenMarks_cons, if_neg fun h => hc.1 h.1]
      rfl

end KeepsMarks

theorem lowercaseChar_ne_nil (c : Char) : lowercaseChar c ≠ [] := by
  unfold lowercaseChar
  split <;> simp

theorem lowercaseChar_of_mark {c : Char} (h : c = '.' ∨ c = '_') : lowercaseChar c = [c] := by
  rcases h with rfl | rfl <;> decide +kernel

theorem keepsMarks_lowercase (cs : List Char) : KeepsMarks cs (lowercase cs) := by
  unfold lowercase
  generalize false = cased
  induction cs generalizing cased with
  | nil => exact .nil
  | cons c cs ih =>
      have hother {x : Char} (h0 : 0 < x.toNat) (h : x.toNat < 0x61) (hx : c ≠ x) :
          x ∉ lowercaseChar c := fun hmem => hx (eq_of_mem_lowercaseChar h0 h hmem).symm
      rw [lowercaseAfter]
      by_cases hmark : c = '.' ∨ c = '_'
      · have hsigma : c ≠ 'Σ' := by rcases hmark with rfl | rfl <;> decide
        rw [if_neg hsigma, lowercaseChar_of_mark hmark]
        exact .kept (ih _)
      · rw [not_or] at hmark
        split
        · split
          · exact .replaced hmark (by decide) (by decide) (by decide) (ih _)
          · exact .replaced hmark (by decide) (by decide) (by decide) (ih _)
        · exact .replaced hmark (lowercaseChar_ne_nil c) (hother (by decide) (by decide) hmark.1)
            (hother (by decide) (by decide) hmark.2) (ih _)

/-! ### Marks in snake case -/

/-- Snake case has an underscore before the text, if a dot precedes it: its own, or that of
a word that starts there. -/
def MarkedAfterDot (cs : List Char) : Prop :=
  cs.head? = some '_' ∨ ∃ u l rest, cs = u :: l :: rest ∧ u.isUpper ∧ l.isLower

def MarkFree (cs : List Char) : Prop :=
  ¬['.', '_'] <:+: cs ∧ ∀ u l, u.isUpper → l.isLower → ¬['.', u, l] <:+: cs

theorem markFree_cons_iff {c : Char} {cs : List Char} :
    MarkFree (c :: cs) ↔ MarkFree cs ∧ ¬(c = '.' ∧ MarkedAfterDot cs) := by
  have hmark : ['.', '_'] <+: c :: cs ↔ c = '.' ∧ cs.head? = some '_' := by
    cases cs <;> simp [List.cons_prefix_cons, eq_comm]
  have hword (u l : Char) :
      ['.', u, l] <+: c :: cs ↔ c = '.' ∧ ∃ rest, cs = u :: l :: rest := by
    rw [List.cons_prefix_cons, eq_comm (a := '.')]
    exact and_congr_right fun _ => exists_congr fun _ => eq_comm
  unfold MarkFree MarkedAfterDot
  simp only [List.infix_cons_iff, hmark, hword]
  constructor
  · rintro ⟨hnone, hwords⟩
    refine ⟨⟨fun h => hnone (.inr h), fun u l hu hl h => hwords u l hu hl (.inr h)⟩, ?_⟩
    rintro ⟨hc, hhead | ⟨u, l, rest, hcs, hu, hl⟩⟩
    · exact hnone (.inl ⟨hc, hhead⟩)
    · exact hwords u l hu hl (.inl ⟨hc, rest, hcs⟩)
  · rintro ⟨⟨hnone, hwords⟩, hfirst⟩
    constructor
    · rintro (⟨hc, hhead⟩ | h)
      · exact hfirst ⟨hc, .inl hhead⟩
      · exact hnone h
    · rintro u l hu hl (⟨hc, rest, hcs⟩ | h)
      · exact hfirst ⟨hc, .inr ⟨u, l, rest, hcs, hu, hl⟩⟩
      · exact hwords u l hu hl h

theorem head?_separateAfter_dot (cs : List Char) :
    (separateAfter '.' cs).head? = some '_' ↔ MarkedAfterDot cs := by
  cases cs with
  | nil => simp [separateAfter, MarkedAfterDot]
  | cons u rest =>
      have hstarts : startsWord '.' u rest.head? = true ↔
          ∃ l others, rest = l :: others ∧ u.isUpper ∧ l.isLower := by
        have hlower : Char.isLower '.' = false := by decide
        have hdigit : Char.isDigit '.' = false := by decide
        cases rest with
        | nil => simp [startsWord, hlower, hdigit]
        | cons l others => simp [startsWord, hlower, hdigit]
      have hmarked : MarkedAfterDot (u :: rest) ↔ u = '_' ∨ startsWord '.' u rest.head? = true := by
        rw [hstarts]
        constructor
        · rintro (hhead | ⟨_, l, others, hcs, hu, hl⟩)
          · exact .inl (by simpa using hhead)
          · cases hcs
            exact .inr ⟨l, others, rfl, hu, hl⟩
        · rintro (rfl | ⟨l, others, rfl, hu, hl⟩)
          · exact .inl rfl
          · exact .inr ⟨u, l, others, rfl, hu, hl⟩
      rw [hmarked, separateAfter]
      split
      · rename_i h
        simp [h]
      · rename_i h
        simp [h]

/-- Whether an underscore is set before the first character makes no difference to the marks
from there on. -/
theorem hiddenMarks_separateAfter (before : Char) (cs : List Char) :
    hiddenMarks (separateAfter before cs) = hiddenMarks (separateWords cs) := by
  cases cs with
  | nil => rfl
  | cons c cs =>
      rw [separateAfter, separateWords]
      split
      · rw [hiddenMarks_cons, if_neg (by simp), Nat.add_zero]
      · rfl

theorem hiddenMarks_separateWords_eq_zero_iff {cs : List Char} :
    hiddenMarks (separateWords cs) = 0 ↔ MarkFree cs := by
  induction cs with
  | nil => simp [separateWords, hiddenMarks, MarkFree]
  | cons c cs ih =>
      have hmark : (c = '.' ∧ (separateAfter c cs).head? = some '_') ↔
          (c = '.' ∧ MarkedAfterDot cs) := by
        refine and_congr_right fun hc => ?_
        rw [hc, head?_separateAfter_dot]
      rw [separateWords, hiddenMarks_cons, hiddenMarks_separateAfter, Nat.add_eq_zero_iff, ih,
        markFree_cons_iff, ← hmark]
      simp

theorem hiddenMarks_snakeCase_eq_zero_iff {name : String} :
    hiddenMarks (snakeCase name).toList = 0 ↔ MarkFree name.toList := by
  rw [snakeCase, String.toList_ofList, (keepsMarks_lowercase _).hiddenMarks_eq,
    hiddenMarks_separateWords_eq_zero_iff]

end Text

namespace ActionService

open Text

/-! ### Hiding a subpath once more -/

theorem before?_eq_some_iff {ending cs front : List Char} :
    before? ending cs = some front ↔ cs = front ++ ending := by
  rw [before?]
  constructor
  · intro h
    split at h
    · rename_i hsuffix
      obtain ⟨whole, rfl⟩ := hsuffix
      simpa using h
    · cases h
  · rintro rfl
    simp

/-- The class is one of the services that are generated for the action. -/
def GeneratedFor (className action : String) : Prop :=
  className = action ++ "_SendGoal" ∨ className = action ++ "_GetResult"

theorem actionName?_eq_some_iff {className action : String} :
    actionName? className = some action ↔ GeneratedFor className action := by
  have hnamed (front : List Char) (ending : String) :
      before? ending.toList className.toList = some front ↔
        className = String.ofList front ++ ending := by
    rw [before?_eq_some_iff, ← String.toList_inj, String.toList_append, String.toList_ofList]
  -- no class has both endings, so it does not matter which is looked for first
  have hone : className = action ++ "_GetResult" →
      before? "_SendGoal".toList className.toList = none := by
    intro hresult
    rw [Option.eq_none_iff_forall_ne_some]
    intro front hgoal
    have hchars := congrArg String.toList (((hnamed _ _).1 hgoal).symm.trans hresult)
    have hlast := congrArg List.getLast? hchars
    simp [String.toList_append] at hlast
  rw [actionName?, Option.map_eq_some_iff, GeneratedFor]
  constructor
  · rintro ⟨front, hfront, rfl⟩
    rw [← hnamed, ← hnamed]
    rcases Option.or_eq_some_iff.1 hfront with hgoal | ⟨-, hresult⟩
    · exact .inl hgoal
    · exact .inr hresult
  · intro hends
    refine ⟨action.toList, ?_, String.ofList_toList⟩
    rw [Option.or_eq_some_iff, hnamed, hnamed, String.ofList_toList]
    rcases hends with hgoal | hresult
    · exact .inl hgoal
    · exact .inr ⟨hone hresult, hresult⟩

theorem hiddenMarks_append_snakeCase (subpath action : String) :
    hiddenMarks (subpath ++ "._" ++ snakeCase action).toList =
      hiddenMarks subpath.toList + 1 + hiddenMarks (snakeCase action).toList := by
  have hchars : (subpath ++ "._" ++ snakeCase action).toList =
      subpath.toList ++ '.' :: '_' :: (snakeCase action).toList := by
    simp [String.toList_append]
  rw [hchars, hiddenMarks_append_mark]

theorem hiddenSubpath_of_one {subpath : String} (h : hiddenMarks subpath.toList = 1)
    (className : String) : hiddenSubpath subpath className = .ok subpath := by
  rw [hiddenSubpath, if_pos h]

theorem hiddenSubpath_of_generatedFor {subpath className action : String}
    (hmarks : hiddenMarks subpath.toList ≠ 1) (h : GeneratedFor className action) :
    hiddenSubpath subpath className = .ok (subpath ++ "._" ++ snakeCase action) := by
  rw [hiddenSubpath, if_neg hmarks, actionName?_eq_some_iff.2 h]

theorem length_lt_append_mark (subpath snake : String) :
    subpath.length < (subpath ++ "._" ++ snake).length := by
  simp only [String.length_append]
  have hmark : "._".length = 2 := by decide
  omega

/-- The hidden submodule is entered once: by the subpath, or where the name of the action is
set below it. -/
def EnteredOnce (subpath className : String) : Prop :=
  hiddenMarks subpath.toList = 1 ∨
    (¬['.', '_'] <:+: subpath.toList ∧
      ∃ action, GeneratedFor className action ∧ MarkFree action.toList)

theorem GeneratedFor.unique {className action other : String} (h : GeneratedFor className action)
    (h' : GeneratedFor className other) : other = action := by
  rw [← actionName?_eq_some_iff] at h h'
  exact Option.some.inj (h'.symm.trans h)

/-- If the subpath is not kept, one submodule has been entered just if there is one mark once
the name of the action is set below it. -/
theorem enteredOnce_iff {subpath className action : String}
    (hmarks : hiddenMarks subpath.toList ≠ 1) (h : GeneratedFor className action) :
    EnteredOnce subpath className ↔
      hiddenMarks (subpath ++ "._" ++ snakeCase action).toList = 1 := by
  have hfree : (∃ other, GeneratedFor className other ∧ MarkFree other.toList) ↔
      hiddenMarks (snakeCase action).toList = 0 := by
    rw [hiddenMarks_snakeCase_eq_zero_iff]
    constructor
    · rintro ⟨other, hother, hfree⟩
      exact h.unique hother ▸ hfree
    · exact fun hfree => ⟨action, h, hfree⟩
  rw [EnteredOnce, ← hiddenMarks_eq_zero_iff, hfree, hiddenMarks_append_snakeCase]
  omega

/-- To hide a hidden subpath changes nothing just if one submodule has been entered. If it is
another number the submodule of the action is appended again, and the path gets longer. -/
theorem hiddenSubpath_again {subpath className hidden : String}
    (h : hiddenSubpath subpath className = .ok hidden) :
    (hiddenSubpath hidden className = .ok hidden ↔ EnteredOnce subpath className) ∧
      (¬EnteredOnce subpath className →
        ∃ action, GeneratedFor className action ∧
          hiddenSubpath hidden className = .ok (hidden ++ "._" ++ snakeCase action) ∧
            hidden.length < (hidden ++ "._" ++ snakeCase action).length) := by
  by_cases hone : hiddenMarks subpath.toList = 1
  · have hsame := (hiddenSubpath_of_one hone className).symm.trans h
    cases hsame
    exact ⟨⟨fun _ => .inl hone, fun _ => h⟩, fun hnot => absurd (.inl hone) hnot⟩
  · obtain ⟨action, hgenerated⟩ : ∃ action, GeneratedFor className action := by
      rw [hiddenSubpath, if_neg hone] at h
      split at h
      · exact ⟨_, actionName?_eq_some_iff.1 ‹_›⟩
      · cases h
    have hhidden := (hiddenSubpath_of_generatedFor hone hgenerated).symm.trans h
    cases hhidden
    rw [enteredOnce_iff hone hgenerated]
    constructor
    · constructor
      · intro hsame
        refine Decidable.byContradiction fun hnot => ?_
        rw [hiddenSubpath_of_generatedFor hnot hgenerated] at hsame
        have hlength :=
          length_lt_append_mark (subpath ++ "._" ++ snakeCase action) (snakeCase action)
        rw [Except.ok.inj hsame] at hlength
        omega
      · exact fun hmark => hiddenSubpath_of_one hmark className
    · intro hnot
      exact ⟨action, hgenerated, hiddenSubpath_of_generatedFor hnot hgenerated,
        length_lt_append_mark _ _⟩

/-- Snake case enters a submodule at the dot of such a name. -/
theorem hiddenSubpath_again_dotted :
    hiddenSubpath "action" "Go.To_SendGoal" = .ok "action._go._to" ∧
      ¬EnteredOnce "action" "Go.To_SendGoal" ∧
        ∃ action, GeneratedFor "Go.To_SendGoal" action ∧
          hiddenSubpath "action._go._to" "Go.To_SendGoal" =
              .ok ("action._go._to" ++ "._" ++ snakeCase action) ∧
            "action._go._to".length < ("action._go._to" ++ "._" ++ snakeCase action).length := by
  have hsnake : snakeCase "Go.To" = "go._to" := by decide +kernel
  have hgenerated : GeneratedFor "Go.To_SendGoal" "Go.To" := .inl (by decide)
  have hhidden : hiddenSubpath "action" "Go.To_SendGoal" = .ok "action._go._to" := by
    rw [hiddenSubpath_of_generatedFor (by decide) hgenerated, hsnake]
    rfl
  have hnot : ¬EnteredOnce "action" "Go.To_SendGoal" := by
    rw [← (hiddenSubpath_again hhidden).1, hiddenSubpath_of_generatedFor (by decide) hgenerated,
      hsnake, Except.ok.injEq]
    decide
  exact ⟨hhidden, hnot, (hiddenSubpath_again hhidden).2 hnot⟩

end ActionService

end TypeResolution
