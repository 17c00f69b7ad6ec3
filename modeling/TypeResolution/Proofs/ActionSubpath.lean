import TypeResolution.Proofs.HiddenMarks
import TypeResolution.Proofs.Protocol

/-!
The subpaths that are inferred for services of actions. A type string for which none can be
inferred has `action` as its first middle segment, a class that is generated for no action,
and no second middle segment that enters one hidden submodule below `action`. In all other
cases there is a subpath, and for a service of an action it leads into a hidden submodule
(`TypeString.inference_of_parse`). For messages actions make no difference.
-/

namespace TypeResolution

namespace ActionService

variable {subpath className hidden : String}

theorem hiddenSubpath_error_iff :
    (∃ e, hiddenSubpath subpath className = .error e) ↔
      hiddenMarks subpath.toList ≠ 1 ∧ ∀ action, ¬GeneratedFor className action := by
  constructor
  · rintro ⟨e, he⟩
    refine ⟨fun hone => ?_, fun action hgenerated => ?_⟩
    · rw [hiddenSubpath_of_one hone] at he
      cases he
    · by_cases hone : hiddenMarks subpath.toList = 1
      · rw [hiddenSubpath_of_one hone] at he
        cases he
      · rw [hiddenSubpath_of_generatedFor hone hgenerated] at he
        cases he
  · rintro ⟨hmarks, hplain⟩
    have hnone : actionName? className = none := by
      rw [Option.eq_none_iff_forall_ne_some]
      exact fun action haction => hplain action (actionName?_eq_some_iff.1 haction)
    exact ⟨.invalidActionInterface className, by rw [hiddenSubpath, if_neg hmarks, hnone]⟩

theorem prefix_of_hiddenSubpath (h : hiddenSubpath subpath className = .ok hidden) :
    subpath.toList <+: hidden.toList := by
  rcases eq_or_append_of_hiddenSubpath h with ⟨-, rfl⟩ | ⟨action, -, rfl⟩
  · exact List.prefix_rfl
  · simp [String.toList_append]

theorem mark_infix_iff {cs : List Char} : ['.', '_'] <:+: cs ↔ hiddenMarks cs ≠ 0 := by
  rw [Ne, hiddenMarks_eq_zero_iff, not_not]

theorem mark_infix_of_hiddenSubpath (h : hiddenSubpath subpath className = .ok hidden) :
    ['.', '_'] <:+: hidden.toList := by
  rw [mark_infix_iff]
  rcases eq_or_append_of_hiddenSubpath h with ⟨hone, rfl⟩ | ⟨action, -, rfl⟩
  · omega
  · rw [hiddenMarks_append_snakeCase]
    omega

/-- Below `action` a segment enters the hidden submodules that it enters itself, and one more
if it begins with an underscore. -/
theorem hiddenMarks_below_action (group : String) :
    hiddenMarks ("action." ++ group).toList =
      hiddenMarks group.toList + if group.toList.head? = some '_' then 1 else 0 := by
  have hchars : ("action." ++ group).toList = "action".toList ++ '.' :: group.toList := by
    simp [String.toList_append]
  rw [hchars, hiddenMarks_append_of_notMem (by decide), hiddenMarks_cons]
  simp only [true_and]

theorem hiddenMarks_below_action_ne_one_iff {group : String} :
    hiddenMarks ("action." ++ group).toList ≠ 1 ↔
      (group.toList.head? = some '_' ∧ ['.', '_'] <:+: group.toList) ∨
        (group.toList.head? ≠ some '_' ∧ hiddenMarks group.toList ≠ 1) := by
  rw [hiddenMarks_below_action, mark_infix_iff]
  by_cases hhead : group.toList.head? = some '_'
  · simp [hhead]
  · simp [hhead]

end ActionService

namespace TypeString

open ActionService

variable {text subpath : String} {t : TypeString}

theorem dotted_eq_intercalate (segments : List String) :
    dotted segments = ".".intercalate segments := by
  induction segments with
  | nil => rfl
  | cons s rest ih =>
      cases rest with
      | nil => simp [dotted]
      | cons u rest => rw [dotted, ih, String.intercalate_cons_cons]; simp

theorem middle_of_action (h : parse text = .ok t) (haction : t.middle.head? = some "action") :
    t.middle = ["action"] ∨ ∃ group, t.middle = ["action", group] := by
  obtain ⟨⟨hlength, -⟩, -⟩ := parse_eq_ok_iff.1 h
  match hmiddle : t.middle with
  | [] => simp [hmiddle] at haction
  | [root] => simp_all
  | [root, group] => simp_all
  | _ :: _ :: _ :: _ => simp [hmiddle] at hlength

/-- For a service of an action the subpath is looked for among the hidden submodules. -/
theorem inferredSubpath_action (haction : t.middle.head? = some "action") :
    t.inferredSubpath .service = hiddenSubpath (dotted t.middle) t.className := by
  have hmiddle : t.middle ≠ [] := by
    rintro hnil
    simp [hnil] at haction
  simp [inferredSubpath, hmiddle, isAction, haction]

theorem inferredSubpath_of_not_action {kind : Kind}
    (h : ¬(kind = .service ∧ t.middle.head? = some "action")) :
    t.inferredSubpath kind =
      .ok (if t.middle = [] then kind.defaultSubpath else ".".intercalate t.middle) := by
  have hplain : ¬(kind = .service ∧ t.isAction = true) := by simpa [isAction] using h
  rw [inferredSubpath, if_neg hplain, dotted_eq_intercalate]
  split
  · rfl
  · rfl

theorem dotted_action (group : String) : dotted ["action", group] = "action." ++ group := by
  have hseam : "action." = "action" ++ "." := by decide
  rw [hseam]
  rfl

/-- The type string stands for a service of an action, but nothing in it tells a hidden
submodule. -/
structure Unhidden (t : TypeString) : Prop where
  action : t.middle.head? = some "action"
  plain : ∀ action, ¬GeneratedFor t.className action
  group : ∀ group, t.middle[1]? = some group → hiddenMarks ("action." ++ group).toList ≠ 1

theorem inferredSubpath_error_iff (h : parse text = .ok t) :
    (∃ e, t.inferredSubpath .service = .error e) ↔ t.Unhidden := by
  by_cases haction : t.middle.head? = some "action"
  · rw [inferredSubpath_action haction, hiddenSubpath_error_iff]
    obtain hmiddle | ⟨group, hmiddle⟩ := middle_of_action h haction
    · constructor
      · rintro ⟨-, hplain⟩
        exact ⟨haction, hplain, by simp [hmiddle]⟩
      · rintro ⟨-, hplain, -⟩
        exact ⟨by rw [hmiddle]; decide, hplain⟩
    · rw [hmiddle, dotted_action]
      constructor
      · rintro ⟨hmarks, hplain⟩
        exact ⟨haction, hplain, by simpa [hmiddle] using hmarks⟩
      · rintro ⟨-, hplain, hgroup⟩
        exact ⟨hgroup group (by simp [hmiddle]), hplain⟩
  · rw [inferredSubpath_of_not_action fun hboth => haction hboth.2]
    constructor
    · rintro ⟨e, he⟩
      cases he
    · exact fun hunhidden => absurd hunhidden.action haction

/-- A hidden submodule lies below `action`, also where it is inferred from the class alone. -/
theorem action_prefix_of_inferredSubpath (h : parse text = .ok t)
    (haction : t.middle.head? = some "action")
    (hsubpath : t.inferredSubpath .service = .ok subpath) :
    "action.".toList <+: subpath.toList := by
  rw [inferredSubpath_action haction] at hsubpath
  obtain hmiddle | ⟨group, hmiddle⟩ := middle_of_action h haction
  · rw [hmiddle] at hsubpath
    rcases eq_or_append_of_hiddenSubpath hsubpath with ⟨hone, -⟩ | ⟨action, -, rfl⟩
    · exact absurd hone (by decide)
    · simp [dotted, String.toList_append]
  · have hbelow := prefix_of_hiddenSubpath hsubpath
    rw [hmiddle, dotted_action, String.toList_append] at hbelow
    exact (List.prefix_append _ _).trans hbelow

theorem modulePath_action : (t.withSubpath subpath).modulePath = t.package ++ ".action" ↔
    subpath = "action" := by
  rw [SymbolPath.modulePath, withSubpath, ← String.toList_inj, ← String.toList_inj]
  simp [String.toList_append]

/-- What is inferred from a type string that `text` is read as. For a service of an action that
is a hidden submodule or nothing at all, and then the name of the class is reported. A message
is looked for where the middle segments say. -/
structure Inference (text : String) (t : TypeString) : Prop where
  refused_iff : (∃ e, t.inferredSubpath .service = .error e) ↔ t.Unhidden
  refused : ∀ e, t.inferredSubpath .service = .error e →
    e = .invalidActionInterface t.className
  /-- How the second middle segment contributes to the marks below `action`. -/
  group_iff : ∀ group, t.middle[1]? = some group →
    (hiddenMarks ("action." ++ group).toList ≠ 1 ↔
      (group.toList.head? = some '_' ∧ "._".toList <:+: group.toList) ∨
        (group.toList.head? ≠ some '_' ∧ hiddenMarks group.toList ≠ 1))
  hidden : t.middle.head? = some "action" → ∀ subpath, t.inferredSubpath .service = .ok subpath →
    "action.".toList <+: subpath.toList ∧ "._".toList <:+: subpath.toList
  first : ∀ {σ : Type} (provider : Provider σ) (w : World σ),
    (Resolver.asked provider ⟨.service, text⟩ w)[0]? ≠ some (t.package ++ ".action")
  message : t.inferredSubpath .message =
    .ok (if t.middle = [] then "msg" else ".".intercalate t.middle)
  segment : ∀ kind subpath, t.inferredSubpath kind = .ok subpath → IsSegment subpath

theorem inference_of_parse (h : parse text = .ok t) : Inference text t where
  refused_iff := inferredSubpath_error_iff h
  refused _ := eq_invalidActionInterface_of_inferredSubpath
  group_iff _ _ := hiddenMarks_below_action_ne_one_iff
  hidden haction subpath hsubpath := by
    refine ⟨action_prefix_of_inferredSubpath h haction hsubpath, ?_⟩
    rw [inferredSubpath_action haction] at hsubpath
    exact mark_infix_of_hiddenSubpath hsubpath
  first provider w hpath := by
    obtain ⟨u, subpath, hread, hmodule⟩ := Resolver.read_of_asked hpath
    obtain ⟨hparse, hsubpath⟩ := read_eq_ok_iff.1 hread
    obtain rfl : u = t := Except.ok.inj (hparse.symm.trans h)
    exact ne_action_of_inferredSubpath hsubpath (modulePath_action.1 hmodule.symm)
  message := inferredSubpath_of_not_action (by simp)
  segment _ _ := isSegment_of_inferredSubpath h

/-- The second middle segment begins with an underscore but enters another submodule too. -/
theorem inference_of_parse_twice :
    parse "p/action/_go._to/Go_Feedback" = .ok ⟨"p", ["action", "_go._to"], "Go_Feedback"⟩ ∧
      Inference "p/action/_go._to/Go_Feedback" ⟨"p", ["action", "_go._to"], "Go_Feedback"⟩ ∧
      Unhidden ⟨"p", ["action", "_go._to"], "Go_Feedback"⟩ := by
  have hparse : parse "p/action/_go._to/Go_Feedback" =
      .ok ⟨"p", ["action", "_go._to"], "Go_Feedback"⟩ := rfl
  have hinference := inference_of_parse hparse
  have hrefused : inferredSubpath ⟨"p", ["action", "_go._to"], "Go_Feedback"⟩ .service =
      .error (.invalidActionInterface "Go_Feedback") := by decide
  exact ⟨hparse, hinference, hinference.refused_iff.1 ⟨_, hrefused⟩⟩

end TypeString

end TypeResolution
