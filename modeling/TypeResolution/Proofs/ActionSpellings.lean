import TypeResolution.Proofs.FirstSpelling
import TypeResolution.Proofs.HiddenMarks
import TypeResolution.Proofs.Reachability

/-!
The two spellings of a service of an action. The hidden submodule that holds it may be
written out or left to be inferred from the name of the class, which makes no difference
where the action has no dot in its name (`spellings_of_action`). That snake case brings in no
further mark is what it comes to: the path that is written out has just one then, and is
taken as it stands.

Whether the two are served alike does not depend on actions. Spellings of one class for which
the same subpath is inferred are alike to a resolver (`ServedAlike.of_read`).
-/

namespace TypeResolution

/-! ### Spellings for which the same subpath is inferred -/

/-- Requests for the two texts cannot be told apart: the texts are type strings with one
normalized form and one inferred subpath, after any requests over a registry they get the same
result, and a new resolver puts the same questions to the registry for them. -/
structure ServedAlike (kind : Kind) (subpath text text' : String) : Prop where
  parsed : ∃ t t', TypeString.parse text = .ok t ∧ TypeString.parse text' = .ok t' ∧
    t.normalized = t'.normalized ∧ t.inferredSubpath kind = .ok subpath ∧
      t'.inferredSubpath kind = .ok subpath
  result_eq : ∀ (r : Registry) (qs : List Request),
    (Resolver.serve r.provider ⟨kind, text⟩ (Resolver.after r.provider qs (.new ()))).1 =
      (Resolver.serve r.provider ⟨kind, text'⟩ (Resolver.after r.provider qs (.new ()))).1
  inquiries_eq : ∀ r : Registry,
    (Resolver.trace r.source ⟨kind, text⟩ (.new ())).1.inquiries =
      (Resolver.trace r.source ⟨kind, text'⟩ (.new ())).1.inquiries

variable {σ : Type} {kind : Kind} {subpath text text' : String} {t t' : TypeString}

theorem TypeString.normalized_eq_of_short_eq (h : t.short = t'.short) :
    t.normalized = t'.normalized := by
  rw [← normalized_short t, h, normalized_short]

theorem MemoTable.resolve_eq_of_short_eq (source : Source σ) (m : MemoTable σ)
    (hread : TypeString.read kind text = .ok (t, subpath))
    (hread' : TypeString.read kind text' = .ok (t', subpath)) (h : t.short = t'.short) :
    m.resolve source ⟨kind, text⟩ = m.resolve source ⟨kind, text'⟩ := by
  have hfetch (m : MemoTable σ) (place : String) :
      m.fetch source kind t place = m.fetch source kind t' place := by
    -- the middle segments are not looked at any more
    change m.fetch source kind t.short place = m.fetch source kind t'.short place
    rw [h]
  rw [resolve_of_read (q := ⟨kind, text⟩) hread, resolve_of_read (q := ⟨kind, text'⟩) hread']
  simp only [TypeString.normalized_eq_of_short_eq h, hfetch]

theorem Resolver.inquiries_trace_new (source : Source σ) (s : σ)
    (hread : TypeString.read kind text = .ok (t, subpath)) :
    (trace source ⟨kind, text⟩ (.new s)).1.inquiries = source.searchInquiries kind t subpath s := by
  rw [trace_of_unfamiliar (q := ⟨kind, text⟩) (World.cached?_new s _ _) hread
    (World.cached?_new s _ _)]
  rfl

theorem ServedAlike.of_read (hread : TypeString.read kind text = .ok (t, subpath))
    (hread' : TypeString.read kind text' = .ok (t', subpath)) (h : t.short = t'.short) :
    ServedAlike kind subpath text text' where
  parsed := by
    obtain ⟨hparse, hsubpath⟩ := TypeString.read_eq_ok_iff.1 hread
    obtain ⟨hparse', hsubpath'⟩ := TypeString.read_eq_ok_iff.1 hread'
    exact ⟨t, t', hparse, hparse', TypeString.normalized_eq_of_short_eq h, hsubpath, hsubpath'⟩
  result_eq r qs := by
    have hrefines := (MemoTable.refines_new ()).after r.source qs
    rw [Registry.provider, (hrefines.resolve r.source ⟨kind, text⟩).1,
      (hrefines.resolve r.source ⟨kind, text'⟩).1,
      MemoTable.resolve_eq_of_short_eq r.source _ hread hread' h]
  inquiries_eq r := by
    rw [Resolver.inquiries_trace_new r.source () hread,
      Resolver.inquiries_trace_new r.source () hread']
    change r.source.searchInquiries kind t.short subpath () =
      r.source.searchInquiries kind t'.short subpath ()
    rw [h]

/-! ### Hidden submodules that are written out -/

/-- The services of an action can stand between slashes, also those of one with no name. -/
theorem ActionService.GeneratedFor.isSegment {className action : String}
    (h : GeneratedFor className action) (hslash : '/' ∉ action.toList) : IsSegment className := by
  have hends {ending : String} (hending : IsSegment ending) : IsSegment (action ++ ending) := by
    constructor
    · simp [hending.1]
    · simp [String.toList_append, hslash, hending.2]
  rcases h with rfl | rfl
  · exact hends ⟨by decide, by decide⟩
  · exact hends ⟨by decide, by decide⟩

namespace TypeString

open ActionService

variable {package action className : String}

/-- A dot, an underscore and what has no dot make just one mark after `action`. -/
theorem hiddenMarks_action (hdot : '.' ∉ action.toList) :
    hiddenMarks ("action._" ++ Text.snakeCase action).toList = 1 := by
  have hsnake : '.' ∉ (Text.snakeCase action).toList :=
    Text.notMem_snakeCase (by decide) (by decide) (by decide) hdot
  have hnone := hiddenMarks_append_of_notMem hsnake []
  rw [List.append_nil] at hnone
  have hmarks := hiddenMarks_append_snakeCase "action" action
  rw [hnone] at hmarks
  exact hmarks

theorem read_inferred (hp : IsSegment package) (hc : IsSegment className)
    (h : GeneratedFor className action) :
    read .service (package ++ "/action/" ++ className) =
      .ok (⟨package, ["action"], className⟩, "action._" ++ Text.snakeCase action) := by
  have haction : IsSegment "action" := ⟨by decide, by decide⟩
  have htext : package ++ "/action/" ++ className =
      package ++ "/" ++ "action" ++ "/" ++ className := by
    simp [String.append_assoc]
  have hunmarked : hiddenMarks "action".toList ≠ 1 := by decide
  have hhidden := hiddenSubpath_of_generatedFor hunmarked h
  refine read_eq_ok_iff.2 ⟨?_, ?_⟩
  · rw [htext]
    exact parse_spelledOut hp haction hc
  · simp [inferredSubpath, isAction, dotted, hhidden]

theorem read_writtenOut (hp : IsSegment package) (hc : IsSegment className)
    (hslash : '/' ∉ action.toList) (hdot : '.' ∉ action.toList) :
    read .service (package ++ "/action/_" ++ Text.snakeCase action ++ "/" ++ className) =
      .ok (⟨package, ["action", "_" ++ Text.snakeCase action], className⟩,
        "action._" ++ Text.snakeCase action) := by
  have haction : IsSegment "action" := ⟨by decide, by decide⟩
  have hhidden : IsSegment ("_" ++ Text.snakeCase action) := by
    refine ⟨by simp, ?_⟩
    rw [String.toList_append, List.mem_append, not_or]
    exact ⟨by decide, Text.notMem_snakeCase (by decide) (by decide) (by decide) hslash⟩
  have htext : package ++ "/action/_" ++ Text.snakeCase action ++ "/" ++ className =
      package ++ "/" ++ "action" ++ "/" ++ ("_" ++ Text.snakeCase action) ++ "/" ++ className := by
    have hseam : "/action/_" = "/" ++ ("action" ++ ("/" ++ "_")) := by decide
    simp only [hseam, String.append_assoc]
  have hdotted : dotted ["action", "_" ++ Text.snakeCase action] =
      "action._" ++ Text.snakeCase action := by
    have hseam : "action._" = "action" ++ ("." ++ "_") := by decide
    simp only [dotted, hseam, String.append_assoc]
  refine read_eq_ok_iff.2 ⟨?_, ?_⟩
  · rw [htext, parse_eq_ok_iff]
    refine ⟨by simp [Shaped], ?_⟩
    rw [Text.segments_append_slash, Text.segments_append_slash, Text.segments_append_slash,
      Text.segments_of_isSegment hp, Text.segments_of_isSegment haction,
      Text.segments_of_isSegment hhidden, Text.segments_of_isSegment hc]
    rfl
  · have hkept := hiddenSubpath_of_one (hiddenMarks_action hdot) className
    simp [inferredSubpath, isAction, hdotted, hkept]

end TypeString

open ActionService

/-- A service of an action without a dot in its name is served alike whether its hidden
submodule is inferred or written out. Where it is looked for depends on the action only. -/
theorem spellings_of_action {package action className : String} (hp : IsSegment package)
    (hslash : '/' ∉ action.toList) (hdot : '.' ∉ action.toList)
    (h : GeneratedFor className action) :
    ServedAlike .service ("action._" ++ Text.snakeCase action) (package ++ "/action/" ++ className)
      (package ++ "/action/_" ++ Text.snakeCase action ++ "/" ++ className) := by
  have hc : IsSegment className := h.isSegment hslash
  have hinferred := TypeString.read_inferred hp hc h
  have hwritten := TypeString.read_writtenOut hp hc hslash hdot
  exact .of_read hinferred hwritten rfl

/-- Snake case doubles the underscore before the first word. -/
theorem spellings_of_action_underscores :
    ServedAlike .service "action.___go_to_" "p/action/_GoTo__SendGoal"
      "p/action/___go_to_/_GoTo__SendGoal" := by
  have hp : IsSegment "p" := ⟨by decide, by decide⟩
  have hgenerated : GeneratedFor "_GoTo__SendGoal" "_GoTo_" := .inl (by decide)
  have hsnake : Text.snakeCase "_GoTo_" = "__go_to_" := by decide +kernel
  have halike := spellings_of_action hp (by decide) (by decide) hgenerated
  rw [hsnake] at halike
  exact halike

end TypeResolution
