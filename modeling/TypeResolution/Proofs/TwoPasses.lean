import Mathlib.Data.List.Permutation
import Mathlib.Data.List.TakeWhile
import Mathlib.Tactic.Tauto
import TypeResolution.Text.SnakeCase

/-!
Snake case in two passes. The generators of interfaces name their modules by rewriting a
camel-case name twice: first each capitalized word is set off from the character before it,
and then each capital that still follows a small letter or a digit. The first pass goes on
behind the word that it has set off, so of two words that stand side by side it finds only
one; the second pass finds the other, and leaves alone what the first has done. Together they
set the underscores that a single look at the neighbours of each capital sets
(`snakeCase_twoPasses`).
-/

namespace TypeResolution.Text

/-- The first pass. From left to right, an underscore is set into each occurrence of a
character, a capital and a run of small letters, as long as it goes and not empty. The search
for the next one starts behind the run. -/
def setOffWords : List Char → List Char
  | before :: capital :: cs =>
    if capital.isUpper ∧ cs.takeWhile Char.isLower ≠ [] then
      before :: '_' :: capital ::
        (cs.takeWhile Char.isLower ++ setOffWords (cs.dropWhile Char.isLower))
    else before :: setOffWords (capital :: cs)
  | cs => cs
termination_by cs => cs.length
decreasing_by
  · have := List.length_dropWhile_le Char.isLower cs
    simp only [List.length_cons]
    omega
  · simp

/-- The second pass. An underscore is set between a small letter or a digit and a capital
that follows it. -/
def setOffCapitals : List Char → List Char
  | before :: c :: cs =>
    if (before.isLower || before.isDigit) && c.isUpper then
      before :: '_' :: setOffCapitals (c :: cs)
    else before :: setOffCapitals (c :: cs)
  | cs => cs

variable {before c : Char} {cs : List Char}

/-! ### The first pass -/

theorem exists_setOffWords_cons (c : Char) (cs : List Char) :
    ∃ rest, setOffWords (c :: cs) = c :: rest := by
  cases cs with
  | nil => exact ⟨[], by simp [setOffWords]⟩
  | cons d ds =>
      rw [setOffWords]
      split
      · exact ⟨_, rfl⟩
      · exact ⟨_, rfl⟩

/-! ### The second pass -/

theorem isUpper_eq_false_of_isLower (h : c.isLower = true) : c.isUpper = false := by
  have hleast : 'a'.val ≤ c.val := of_decide_eq_true (Bool.and_eq_true_iff.1 h).1
  have hbeyond : 'Z'.val < c.val := UInt32.lt_of_lt_of_le (by decide) hleast
  exact decide_eq_false fun hupper => UInt32.not_le.2 hbeyond hupper.2

theorem setOffCapitals_of_not_isUpper (h : c.isUpper = false) :
    setOffCapitals (before :: c :: cs) = before :: setOffCapitals (c :: cs) := by
  rw [setOffCapitals]
  simp [h]

theorem setOffCapitals_underscore (cs : List Char) :
    setOffCapitals ('_' :: cs) = '_' :: setOffCapitals cs := by
  cases cs with
  | nil => rfl
  | cons c cs =>
      rw [setOffCapitals]
      simp

/-! ### One pass after the other -/

/-- A word starts where the first pass can find one, or where the second pass sets off the
capital. -/
theorem startsWord_iff :
    startsWord before c cs.head? = true ↔
      (c.isUpper ∧ cs.takeWhile Char.isLower ≠ []) ∨
        ((before.isLower || before.isDigit) && c.isUpper) = true := by
  have hrun : cs.head?.any Char.isLower = true ↔ cs.takeWhile Char.isLower ≠ [] := by
    cases cs with
    | nil => simp
    | cons d ds =>
        rw [List.takeWhile_cons, List.head?_cons, Option.any_some]
        cases d.isLower <;> simp
  rw [startsWord, Bool.and_eq_true, Bool.or_eq_true, hrun, Bool.and_eq_true]
  tauto

theorem separateAfter_of_not_isUpper (h : c.isUpper = false) :
    separateAfter before (c :: cs) = c :: separateAfter c cs := by
  rw [separateAfter]
  simp [startsWord, h]

/-- Behind a run of small letters a word starts with every capital. The first pass has the
search start there anew, but the second pass still has a small letter before it. -/
theorem setOffCapitals_run {run rest : List Char} (hrun : ∀ l ∈ run, l.isLower)
    (hrest : setOffCapitals (setOffWords rest) = separateWords rest)
    (hc : run = [] → c.isLower) :
    setOffCapitals (c :: (run ++ setOffWords rest)) = c :: separateAfter c (run ++ rest) := by
  induction run generalizing c with
  | nil =>
      have hlower := hc rfl
      cases rest with
      | nil => simp [setOffWords, setOffCapitals, separateAfter]
      | cons d ds =>
          obtain ⟨out, hout⟩ := exists_setOffWords_cons d ds
          rw [hout] at hrest
          have hstarts : startsWord c d ds.head? = d.isUpper := by simp [startsWord, hlower]
          rw [List.nil_append, List.nil_append, hout, setOffCapitals, hrest, separateWords,
            separateAfter, hstarts, hlower, Bool.true_or, Bool.true_and]
          split
          · rfl
          · rfl
  | cons l run ih =>
      rw [List.forall_mem_cons] at hrun
      have hl := isUpper_eq_false_of_isLower hrun.1
      have hbehind := ih hrun.2 fun _ => hrun.1
      rw [List.cons_append, List.cons_append, setOffCapitals_of_not_isUpper hl, hbehind,
        separateAfter_of_not_isUpper hl]

theorem setOffCapitals_setOffWords (cs : List Char) :
    setOffCapitals (setOffWords cs) = separateWords cs := by
  fun_induction setOffWords cs with
  | case1 before capital cs hword ih =>
      have hrun : ∀ l ∈ cs.takeWhile Char.isLower, l.isLower := fun l => List.mem_takeWhile_imp
      have hbehind : setOffCapitals (capital :: (cs.takeWhile Char.isLower ++
          setOffWords (cs.dropWhile Char.isLower))) = capital :: separateAfter capital cs := by
        rw [setOffCapitals_run hrun ih fun hnil => absurd hnil hword.2,
          List.takeWhile_append_dropWhile]
      have hunderscore : ('_' : Char).isUpper = false := by decide
      rw [setOffCapitals_of_not_isUpper hunderscore, setOffCapitals_underscore, hbehind,
        separateWords, separateAfter, if_pos (startsWord_iff.2 (.inl hword))]
  | case2 before capital cs hword ih =>
      obtain ⟨out, hout⟩ := exists_setOffWords_cons capital cs
      rw [hout] at ih ⊢
      rw [setOffCapitals, ih, separateWords, separateWords, separateAfter]
      simp only [startsWord_iff, or_iff_right hword]
      split
      · rfl
      · rfl
  | case3 cs hshort =>
      cases cs with
      | nil => rfl
      | cons c cs =>
          cases cs with
          | nil => rfl
          | cons d ds => exact absurd rfl (hshort c d ds)

/-- Snake case is what the two passes make of a name, lowered in the same way. -/
theorem snakeCase_twoPasses (name : String) :
    snakeCase name = String.ofList (lowercase (setOffCapitals (setOffWords name.toList))) := by
  rw [setOffCapitals_setOffWords, snakeCase]

/-- The first pass alone leaves the second of two words that stand side by side. -/
example : setOffWords "goToServer".toList = "go_ToServer".toList := by cbv

end TypeResolution.Text
