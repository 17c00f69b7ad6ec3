import Mathlib.Data.Nat.Count
import TypeResolution.Text.SnakeCase

/-!
Where snake case sets its underscores. Whether a word starts at a position can be told from
the name alone, by the characters there, before and after (`WordStartsAt`), and an underscore
is set before each of these positions and nowhere else (`separateWords_eq_underscored`). So
no letters are lost and none come in. An ASCII name is lowered character by character, and
all of its snake case can be read off the positions (`snakeCased_snakeCase`).
-/

namespace TypeResolution.Text

/-! ### Underscores at given places -/

/-- The text with an underscore before each character whose position is one of the places. -/
def underscored (places : Nat → Prop) [DecidablePred places] : List Char → List Char
  | [] => []
  | c :: cs =>
    (if places 0 then ['_', c] else [c]) ++ underscored (fun i => places (i + 1)) cs

section Underscored

variable {places : Nat → Prop} [DecidablePred places] {c : Char} {cs : List Char}

theorem underscored_of_none (h : ∀ i, ¬places i) (cs : List Char) :
    underscored places cs = cs := by
  induction cs generalizing places with
  | nil => rfl
  | cons c cs ih =>
      rw [underscored, if_neg (h 0), ih fun i => h (i + 1)]
      rfl

theorem eq_or_mem_of_mem_underscored (h : c ∈ underscored places cs) : c = '_' ∨ c ∈ cs := by
  induction cs generalizing places with
  | nil => exact .inr h
  | cons d cs ih =>
      rw [underscored, List.mem_append] at h
      rcases h with hhere | hbehind
      · split at hhere
        · simp only [List.mem_cons, List.not_mem_nil, or_false] at hhere
          exact hhere.imp_right fun hsame => by simp [hsame]
        · exact .inr (List.mem_singleton.1 hhere ▸ List.mem_cons_self)
      · exact (ih hbehind).imp_right (List.mem_cons_of_mem d)

/-- Without the underscores, those of the text included, nothing has changed. -/
theorem filter_underscored (places : Nat → Prop) [DecidablePred places] (cs : List Char) :
    (underscored places cs).filter (· ≠ '_') = cs.filter (· ≠ '_') := by
  induction cs generalizing places with
  | nil => rfl
  | cons c cs ih =>
      have hhere : (if places 0 then ['_', c] else [c]).filter (· ≠ '_') =
          [c].filter (· ≠ '_') := by
        split
        · rw [List.filter_cons_of_neg (by simp)]
        · rfl
      rw [underscored, List.filter_append, ih, hhere, ← List.filter_append]
      rfl

theorem length_underscored (places : Nat → Prop) [DecidablePred places] (cs : List Char) :
    (underscored places cs).length = cs.length + Nat.count places cs.length := by
  induction cs generalizing places with
  | nil => rfl
  | cons c cs ih =>
      have hhere : (if places 0 then ['_', c] else [c]).length =
          1 + if places 0 then 1 else 0 := by
        split
        · rfl
        · rfl
      rw [underscored, List.length_append, ih, List.length_cons, Nat.count_succ', hhere]
      omega

theorem map_underscored {f : Char → Char} (h : f '_' = '_') (places : Nat → Prop)
    [DecidablePred places] (cs : List Char) :
    (underscored places cs).map f = underscored places (cs.map f) := by
  induction cs generalizing places with
  | nil => rfl
  | cons c cs ih =>
      rw [List.map_cons, underscored, underscored, List.map_append, ih]
      split
      · simp [h]
      · simp

theorem head?_underscored (h : ¬places 0) (cs : List Char) :
    (underscored places cs).head? = cs.head? := by
  cases cs with
  | nil => rfl
  | cons c cs => rw [underscored, if_neg h]; rfl

/-- Underscores are set before characters, so none is the last but where the text has one. -/
theorem getLast?_underscored (places : Nat → Prop) [DecidablePred places] (cs : List Char) :
    (underscored places cs).getLast? = cs.getLast? := by
  induction cs generalizing places with
  | nil => rfl
  | cons c cs ih =>
      have hhere : (if places 0 then ['_', c] else [c]).getLast? = some c := by
        split
        · rfl
        · rfl
      rw [underscored, List.getLast?_append, ih, hhere, List.getLast?_cons]
      cases cs.getLast? <;> rfl

end Underscored

/-! ### The places where words start -/

/-- A word starts at the position `i` of the text: a capital stands there and is not the
first character, and a small letter or a digit stands before it or a small letter after it. -/
def WordStartsAt (cs : List Char) (i : Nat) : Prop :=
  0 < i ∧ cs[i]?.any Char.isUpper ∧
    (cs[i - 1]?.any (fun c => c.isLower || c.isDigit) ∨ cs[i + 1]?.any Char.isLower)

instance (cs : List Char) : DecidablePred (WordStartsAt cs) := fun i =>
  inferInstanceAs (Decidable (0 < i ∧ cs[i]?.any Char.isUpper ∧
    (cs[i - 1]?.any (fun c => c.isLower || c.isDigit) ∨ cs[i + 1]?.any Char.isLower)))

theorem not_wordStartsAt_zero (cs : List Char) : ¬WordStartsAt cs 0 :=
  fun h => Nat.lt_irrefl 0 h.1

theorem wordStartsAt_one {before c : Char} {cs : List Char} :
    WordStartsAt (before :: c :: cs) 1 ↔ startsWord before c cs.head? = true := by
  simp [WordStartsAt, startsWord, List.head?_eq_getElem?, or_assoc]

theorem wordStartsAt_add_two {c : Char} {cs : List Char} {i : Nat} :
    WordStartsAt (c :: cs) (i + 2) ↔ WordStartsAt cs (i + 1) := by
  simp [WordStartsAt]

theorem WordStartsAt.lt_length {cs : List Char} {i : Nat} (h : WordStartsAt cs i) :
    i < cs.length := by
  by_contra hge
  have hnone : cs[i]? = none := List.getElem?_eq_none (by omega)
  simp [WordStartsAt, hnone] at h

theorem separateAfter_eq_underscored (before : Char) (cs : List Char) :
    separateAfter before cs = underscored (fun i => WordStartsAt (before :: cs) (i + 1)) cs := by
  induction cs generalizing before with
  | nil => rfl
  | cons c cs ih =>
      have hbehind : underscored (fun i => WordStartsAt (before :: c :: cs) (i + 1 + 1)) cs =
          separateAfter c cs := by
        simp only [ih, wordStartsAt_add_two]
      rw [separateAfter, underscored, hbehind]
      simp only [Nat.zero_add, wordStartsAt_one]
      split
      · rfl
      · rfl

/-- Underscores are set where words start, and nowhere else. -/
theorem separateWords_eq_underscored (cs : List Char) :
    separateWords cs = underscored (WordStartsAt cs) cs := by
  cases cs with
  | nil => rfl
  | cons c cs =>
      rw [separateWords, separateAfter_eq_underscored, underscored,
        if_neg (not_wordStartsAt_zero _)]
      rfl

/-! ### ASCII names -/

theorem ascii_induction {P : Char → Prop} (h : ∀ n < 128, P (Char.ofNat n)) {c : Char}
    (hc : c.toNat < 128) : P c := by
  have hn := h c.toNat hc
  rwa [Char.ofNat_toNat] at hn

/-- Of the ranges that have a lowercase form only the capital letters are ASCII. -/
theorem findSome?_lower?_of_ascii {n : Nat} (h : n < 128) :
    lowercaseRanges.findSome? (·.lower? n) = CaseRange.lower? ⟨0x41, 0x5A, 1, 0x61⟩ n := by
  have hbeyond : ∀ r ∈ lowercaseRanges.tail, 128 ≤ r.first := by decide +kernel
  have hnone : lowercaseRanges.tail.findSome? (·.lower? n) = none := by
    rw [List.findSome?_eq_none_iff]
    intro r hr
    have hfirst := hbeyond r hr
    rw [CaseRange.lower?, if_neg (by omega)]
  have hcapitals : lowercaseRanges = ⟨0x41, 0x5A, 1, 0x61⟩ :: lowercaseRanges.tail := rfl
  rw [hcapitals, List.findSome?_cons, hnone]
  cases CaseRange.lower? ⟨0x41, 0x5A, 1, 0x61⟩ n <;> rfl

theorem lowercaseChar_of_ascii {c : Char} (h : c.toNat < 128) :
    lowercaseChar c = [c.toLower] := by
  have hdotted : c ≠ 'İ' := by
    rintro rfl
    exact absurd h (by decide)
  rw [lowercaseChar, if_neg hdotted, findSome?_lower?_of_ascii h]
  exact ascii_induction (P := fun c =>
    [((CaseRange.lower? ⟨0x41, 0x5A, 1, 0x61⟩ c.toNat).map Char.ofNat).getD c] = [c.toLower])
    (by decide +kernel) h

theorem toLower_lt_of_ascii {c : Char} (h : c.toNat < 128) : c.toLower.toNat < 128 :=
  ascii_induction (P := fun c => c.toLower.toNat < 128) (by decide +kernel) h

theorem isUpper_toLower_of_ascii {c : Char} (h : c.toNat < 128) : c.toLower.isUpper = false :=
  ascii_induction (P := fun c => c.toLower.isUpper = false) (by decide +kernel) h

theorem toLower_of_not_isUpper {c : Char} (h : c.isUpper = false) : c.toLower = c :=
  dif_neg (of_decide_eq_false h)

theorem lowercase_of_ascii {cs : List Char} (h : ∀ c ∈ cs, c.toNat < 128) :
    lowercase cs = cs.map Char.toLower := by
  unfold lowercase
  generalize false = cased
  induction cs generalizing cased with
  | nil => rfl
  | cons c cs ih =>
      rw [List.forall_mem_cons] at h
      have hsigma : c ≠ 'Σ' := by
        rintro rfl
        exact absurd h.1 (by decide)
      rw [lowercaseAfter, if_neg hsigma, lowercaseChar_of_ascii h.1, ih h.2]
      rfl

theorem toList_snakeCase_of_ascii {name : String} (h : ∀ c ∈ name.toList, c.toNat < 128) :
    (snakeCase name).toList =
      underscored (WordStartsAt name.toList) (name.toList.map Char.toLower) := by
  have hascii : ∀ c ∈ underscored (WordStartsAt name.toList) name.toList, c.toNat < 128 := by
    intro c hc
    rcases eq_or_mem_of_mem_underscored hc with rfl | hmem
    · decide
    · exact h c hmem
  rw [snakeCase, String.toList_ofList, separateWords_eq_underscored, lowercase_of_ascii hascii,
    map_underscored (by decide)]

theorem snakeCase_eq_self {name : String}
    (h : ∀ c ∈ name.toList, c.toNat < 128 ∧ c.isUpper = false) : snakeCase name = name := by
  have hnone (i : Nat) : ¬WordStartsAt name.toList i := by
    rintro ⟨-, hcapital, -⟩
    obtain ⟨c, hc, hupper⟩ := (Option.any_eq_true _ _).1 hcapital
    rw [(h c (List.mem_of_getElem? hc)).2] at hupper
    cases hupper
  have hlower : name.toList.map Char.toLower = name.toList.map id :=
    List.map_congr_left fun c hc => toLower_of_not_isUpper (h c hc).2
  rw [← String.toList_inj, toList_snakeCase_of_ascii fun c hc => (h c hc).1,
    underscored_of_none hnone, hlower, List.map_id]

/-- How the snake case of an ASCII name is made from the name. -/
structure SnakeCased (name snake : String) : Prop where
  /-- No letters are lost and none come in. -/
  letters : snake.toList.filter (· ≠ '_') = (name.toList.map Char.toLower).filter (· ≠ '_')
  again : snakeCase snake = snake
  lowered : ∀ c ∈ snake.toList, c.toNat < 128 ∧ c.isUpper = false
  length_eq : snake.length = name.length + Nat.count (WordStartsAt name.toList) name.length
  /-- One underscore is added where a word starts, none anywhere else. -/
  added : snake.toList = underscored (WordStartsAt name.toList) (name.toList.map Char.toLower)
  inside : ∀ i, WordStartsAt name.toList i → 0 < i ∧ i < name.length
  first : snake.toList.head? = name.toList.head?.map Char.toLower
  last : snake.toList.getLast? = name.toList.getLast?.map Char.toLower

theorem snakeCased_snakeCase {name : String} (h : ∀ c ∈ name.toList, c.toNat < 128) :
    SnakeCased name (snakeCase name) := by
  have htext := toList_snakeCase_of_ascii h
  have hlowered : ∀ c ∈ (snakeCase name).toList, c.toNat < 128 ∧ c.isUpper = false := by
    intro c hc
    rw [htext] at hc
    rcases eq_or_mem_of_mem_underscored hc with rfl | hmem
    · decide
    · obtain ⟨d, hd, rfl⟩ := List.mem_map.1 hmem
      exact ⟨toLower_lt_of_ascii (h d hd), isUpper_toLower_of_ascii (h d hd)⟩
  exact {
    letters := by rw [htext, filter_underscored]
    again := snakeCase_eq_self hlowered
    lowered := hlowered
    length_eq := by
      rw [← String.length_toList, htext, length_underscored, List.length_map,
        String.length_toList]
    added := htext
    inside := fun i hi => ⟨hi.1, String.length_toList ▸ hi.lt_length⟩
    first := by
      rw [htext, head?_underscored (not_wordStartsAt_zero _), List.head?_map]
    last := by rw [htext, getLast?_underscored, List.getLast?_map]
  }

/-- A word of capitals, a digit, and an underscore that the name has already. -/
theorem snakeCased_snakeCase_http :
    (∀ c ∈ "HTTPServer2_Go".toList, c.toNat < 128) ∧
      SnakeCased "HTTPServer2_Go" "http_server2__go" := by
  have hascii : ∀ c ∈ "HTTPServer2_Go".toList, c.toNat < 128 := by simp
  have hsnake : snakeCase "HTTPServer2_Go" = "http_server2__go" := by decide +kernel
  exact ⟨hascii, hsnake ▸ snakeCased_snakeCase hascii⟩

end TypeResolution.Text
