import TypeResolution.Proofs.Inquiries
import TypeResolution.Proofs.Layout
import TypeResolution.Proofs.Subpath

/-!
Which entries of a registry can be reached by type strings. A type string leads to a
module whose path is a package and a subpath joined by a dot, neither of them empty nor
with a slash in it, and to no other; and where the path of a module can be split so, the
type string that spells the split out leads there. Services are not looked for at the
subpath `action`, so for them the split must be another one (`reaches_entry_iff`).
-/

namespace TypeResolution

variable {σ : Type}

/-! ### Where a type has been loaded from -/

theorem Source.mem_inquiries_iff (source : Source σ) (path : SymbolPath) (s : σ)
    {modulePath className : String} :
    ⟨.lookUp modulePath className, true⟩ ∈ source.inquiries path s ↔
      (modulePath = path.modulePath ∧ className = path.className) ∧
        ∃ handle, (source.load path s).1 = .ok handle := by
  unfold load inquiries
  rcases source path.modulePath s with ⟨e | lookup, s₁⟩
  · simp
  · rcases hfound : lookup path.className s₁ with ⟨e | handle, s₂⟩ <;>
      simp [Except.isOk, Except.toBool, hfound]

namespace Registry

variable {r : Registry} {q : Request} {modulePath className : String} {handle : TypeHandle}

theorem Binds.unique {held : TypeHandle} (h : r.Binds modulePath className handle)
    (h' : r.Binds modulePath className held) : held = handle := by
  obtain ⟨m, hopen, hlookup⟩ := h
  obtain ⟨m', hopen', hlookup'⟩ := h'
  rw [hopen] at hopen'
  cases hopen'
  rw [hlookup] at hlookup'
  cases hlookup'
  rfl

/-- A new resolver over the registry resolves the request, and has loaded the class from
the module to do so. -/
def Reaches (r : Registry) (q : Request) (modulePath className : String) : Prop :=
  (∃ handle, (Resolver.trace r.source q (.new ())).1.result = .ok handle) ∧
    ⟨.lookUp modulePath className, true⟩ ∈ (Resolver.trace r.source q (.new ())).1.inquiries

/-- A search in the registry ends with the load at the last path. -/
theorem search_source (r : Registry) (q : Request) (t : TypeString) (subpath : String) (s : σ) :
    r.source.search q.kind t subpath s = (r.load (r.lastPath q t subpath), s) := by
  simp only [Source.search, load_source, lastPath]
  cases hload : r.load (t.withSubpath subpath) with
  | ok handle => simp [hload]
  | error e => rfl

/-- Of the inquiries of a search only that at the last path can have brought a type. -/
theorem mem_searchInquiries_iff (r : Registry) (q : Request) (t : TypeString) (subpath : String)
    (s : σ) :
    ⟨.lookUp modulePath className, true⟩ ∈ r.source.searchInquiries q.kind t subpath s ↔
      (modulePath = (r.lastPath q t subpath).modulePath ∧ className = t.className) ∧
        ∃ handle, r.load (r.lastPath q t subpath) = .ok handle := by
  rw [Source.searchInquiries, List.mem_append, Source.mem_inquiries_iff]
  simp only [load_source, lastPath]
  cases hload : r.load (t.withSubpath subpath) with
  | ok handle =>
      simp only [hload, List.not_mem_nil, or_false]
      exact Iff.rfl
  | error e =>
      have hfailed : ¬∃ handle, Except.error e = (Except.ok handle : Except ResolveError TypeHandle) := by
        simp
      simp only [Source.mem_inquiries_iff, load_source, hfailed, and_false, false_or]
      exact Iff.rfl

theorem reaches_iff :
    r.Reaches q modulePath className ↔
      ∃ t subpath, TypeString.read q.kind q.text = .ok (t, subpath) ∧
        modulePath = (r.lastPath q t subpath).modulePath ∧ className = t.className ∧
          ∃ handle, r.load (r.lastPath q t subpath) = .ok handle := by
  have hnew (key : String) : (World.new ()).cached? q.kind key = none := World.cached?_new () _ _
  unfold Reaches
  cases hread : TypeString.read q.kind q.text with
  | error e => simp [Resolver.trace_of_refused (hnew _) hread]
  | ok found =>
      obtain ⟨t, subpath⟩ := found
      rw [Resolver.trace_of_unfamiliar (hnew _) hread (hnew _)]
      simp only [search_source, mem_searchInquiries_iff]
      constructor
      · rintro ⟨hfound, ⟨hmodule, hclass⟩, -⟩
        exact ⟨t, subpath, rfl, hmodule, hclass, hfound⟩
      · rintro ⟨u, place, hsame, hmodule, hclass, hfound⟩
        cases hsame
        exact ⟨hfound, ⟨hmodule, hclass⟩, hfound⟩

theorem resolveNew_of_reaches (hbinds : r.Binds modulePath className handle)
    (h : r.Reaches q modulePath className) : r.resolveNew q = .ok handle := by
  obtain ⟨t, subpath, hread, rfl, rfl, found, hload⟩ := reaches_iff.1 h
  rw [resolveNew_eq_load hread, hload]
  have hfound : r.Binds (r.lastPath q t subpath).modulePath t.className found := by
    have hbound := load_eq_ok_iff.1 hload
    rwa [className_lastPath] at hbound
  rw [hbinds.unique hfound]

theorem Reaches.unique {modulePath' className' : String} (h : r.Reaches q modulePath className)
    (h' : r.Reaches q modulePath' className') :
    modulePath' = modulePath ∧ className' = className := by
  obtain ⟨t, subpath, hread, rfl, rfl, -⟩ := reaches_iff.1 h
  obtain ⟨t', subpath', hread', rfl, rfl, -⟩ := reaches_iff.1 h'
  rw [hread] at hread'
  cases hread'
  exact ⟨rfl, rfl⟩

/-- A type that a new resolver finds is that of the entry where the request leads. -/
theorem exists_reaches_of_resolveNew (h : r.resolveNew q = .ok handle) :
    ∃ modulePath className, r.Reaches q modulePath className ∧
      r.Binds modulePath className handle := by
  obtain ⟨t, subpath, hread⟩ := read_of_resolveNew h
  rw [resolveNew_eq_load hread] at h
  have hbinds := load_eq_ok_iff.1 h
  rw [className_lastPath] at hbinds
  exact ⟨_, _, reaches_iff.2 ⟨t, subpath, hread, rfl, rfl, handle, h⟩, hbinds⟩

end Registry

/-! ### Splitting the path of a module -/

/-- The path of a module is made up of a package and a subpath at which types of the kind
are looked for. -/
structure Kind.Splits (kind : Kind) (modulePath package subpath : String) : Prop where
  joined : modulePath = package ++ "." ++ subpath
  package_ne : package ≠ ""
  subpath_ne : subpath ≠ ""
  visible : kind = .service → subpath ≠ "action"

theorem Kind.splits_of_read {kind : Kind} {text : String} {t : TypeString} {subpath : String}
    (hread : TypeString.read kind text = .ok (t, subpath)) :
    kind.Splits (t.withSubpath subpath).modulePath t.package subpath := by
  obtain ⟨hparse, hsubpath⟩ := TypeString.read_eq_ok_iff.1 hread
  refine ⟨rfl, (TypeString.isSegment_package hparse).1,
    (TypeString.isSegment_of_inferredSubpath hparse hsubpath).1, ?_⟩
  rintro rfl
  exact TypeString.ne_action_of_inferredSubpath hsubpath

namespace TypeString

theorem error_of_read {kind : Kind} {text : String} {e : ResolveError}
    (h : read kind text = .error e) :
    e = .invalidTypeString text ∨ ∃ className, e = .invalidActionInterface className := by
  unfold read at h
  split at h
  · rename_i hparse
    cases h
    exact .inl (eq_invalidTypeString_of_parse hparse)
  · split at h
    · rename_i hsubpath
      cases h
      exact .inr ⟨_, eq_invalidActionInterface_of_inferredSubpath hsubpath⟩
    · cases h

/-- The type string that spells out a package, a subpath and a class. -/
theorem parse_spelledOut {package subpath className : String} (hp : IsSegment package)
    (hs : IsSegment subpath) (hc : IsSegment className) :
    parse (package ++ "/" ++ subpath ++ "/" ++ className) =
      .ok ⟨package, [subpath], className⟩ := by
  refine parse_eq_ok_iff.2 ⟨by simp [Shaped], ?_⟩
  rw [Text.segments_append_slash, Text.segments_append_slash, Text.segments_of_isSegment hp,
    Text.segments_of_isSegment hs, Text.segments_of_isSegment hc]
  rfl

theorem inferredSubpath_single {package subpath className : String} {kind : Kind}
    (h : kind = .service → subpath ≠ "action") :
    inferredSubpath ⟨package, [subpath], className⟩ kind = .ok subpath := by
  have hplain : ¬(kind = .service ∧ isAction ⟨package, [subpath], className⟩ = true) := by
    rintro ⟨hkind, haction⟩
    exact h hkind (by simpa [isAction] using haction)
  simp only [inferredSubpath, List.cons_ne_nil, if_false, if_neg hplain]
  rfl

end TypeString

namespace Registry

variable {r : Registry} {kind : Kind} {modulePath className : String} {handle : TypeHandle}

/-- What is reached has a class and a module that a type string can spell. -/
theorem Reaches.splits {text : String} (h : r.Reaches ⟨kind, text⟩ modulePath className) :
    IsSegment className ∧ '/' ∉ modulePath.toList ∧
      ∃ package subpath, kind.Splits modulePath package subpath := by
  obtain ⟨t, subpath, hread, rfl, rfl, -⟩ := reaches_iff.1 h
  obtain ⟨hparse, hsubpath⟩ := TypeString.read_eq_ok_iff.1 hread
  have hpackage := TypeString.isSegment_package hparse
  have hslash {place : String} (hplace : IsSegment place) :
      '/' ∉ (t.withSubpath place).modulePath.toList := by
    simp [SymbolPath.modulePath, TypeString.withSubpath, String.toList_append, hpackage.2, hplace.2]
  refine ⟨TypeString.isSegment_className hparse, ?_⟩
  unfold lastPath
  split
  · exact ⟨hslash (TypeString.isSegment_of_inferredSubpath hparse hsubpath), _, _,
      Kind.splits_of_read hread⟩
  · -- the default path is the one inferred from the normalized form
    have hsplits := Kind.splits_of_read (TypeString.read_normalized hparse kind)
    exact ⟨hslash kind.isSegment_defaultSubpath, _, _, hsplits⟩

/-- The type string that spells out a split reaches the entry. -/
theorem Splits.reaches (hbinds : r.Binds modulePath className handle)
    (hclass : IsSegment className) (hmodule : '/' ∉ modulePath.toList) {package subpath : String}
    (h : kind.Splits modulePath package subpath) :
    r.Reaches ⟨kind, package ++ "/" ++ subpath ++ "/" ++ className⟩ modulePath className := by
  obtain ⟨rfl, hp, hs, hvisible⟩ := h
  simp only [String.toList_append, List.mem_append, not_or] at hmodule
  have hread : TypeString.read kind (package ++ "/" ++ subpath ++ "/" ++ className) =
      .ok (⟨package, [subpath], className⟩, subpath) :=
    TypeString.read_eq_ok_iff.2 ⟨TypeString.parse_spelledOut ⟨hp, hmodule.1.1⟩ ⟨hs, hmodule.2⟩ hclass,
      TypeString.inferredSubpath_single hvisible⟩
  have hload : r.load ⟨package, subpath, className⟩ = .ok handle := load_eq_ok_iff.2 hbinds
  have hlast : r.lastPath ⟨kind, package ++ "/" ++ subpath ++ "/" ++ className⟩
      ⟨package, [subpath], className⟩ subpath = ⟨package, subpath, className⟩ := by
    simp only [lastPath, TypeString.withSubpath, hload]
  exact reaches_iff.2 ⟨_, _, hread, by rw [hlast]; rfl, rfl, handle, by rw [hlast, hload]⟩

end Registry

/-- An entry of a registry is reached by a type string just if its class could stand
between slashes, its module has no slash, and the path of the module can be split in a
package and a subpath, which for services is another than `action`. Every such split
spells out a type string that reaches the entry, and whatever reaches it gets its type. -/
theorem reaches_entry_iff (r : Registry) (kind : Kind) {modulePath className : String}
    {handle : TypeHandle} (hbinds : r.Binds modulePath className handle) :
    ((∃ text, r.Reaches ⟨kind, text⟩ modulePath className) ↔
        IsSegment className ∧ '/' ∉ modulePath.toList ∧
          ∃ package subpath, kind.Splits modulePath package subpath) ∧
      (IsSegment className → '/' ∉ modulePath.toList →
        ∀ package subpath, kind.Splits modulePath package subpath →
          r.Reaches ⟨kind, package ++ "/" ++ subpath ++ "/" ++ className⟩ modulePath className) ∧
      ∀ text, r.Reaches ⟨kind, text⟩ modulePath className →
        r.resolveNew ⟨kind, text⟩ = .ok handle := by
  refine ⟨⟨?_, ?_⟩, ?_, ?_⟩
  · rintro ⟨text, hreaches⟩
    exact hreaches.splits
  · rintro ⟨hclass, hmodule, package, subpath, hsplits⟩
    exact ⟨_, Registry.Splits.reaches hbinds hclass hmodule hsplits⟩
  · intro hclass hmodule package subpath hsplits
    exact Registry.Splits.reaches hbinds hclass hmodule hsplits
  · intro text hreaches
    exact Registry.resolveNew_of_reaches hbinds hreaches

/-- A service in the module that actions have, but not in a hidden submodule of it. -/
def secluded : Registry := .build [.service "p.action" "C" .integer .boolean]

/-- The only way to split the path leads to `action`. -/
theorem not_splits_secluded (package subpath : String) :
    ¬Kind.service.Splits "p.action" package subpath := by
  rintro ⟨hjoined, hpackage, -, hvisible⟩
  have hchars : "p.action".toList = package.toList ++ '.' :: subpath.toList := by
    rw [hjoined]
    simp [String.toList_append]
  have hnonempty : package.toList ≠ [] := fun hnil => hpackage (String.toList_eq_nil_iff.1 hnil)
  match hcs : package.toList with
  | [] => exact hnonempty hcs
  | [c] =>
    rw [hcs] at hchars
    have hsubpath : subpath.toList = "action".toList := (List.cons.inj (List.cons.inj hchars).2).2.symm
    exact hvisible rfl (String.toList_inj.1 hsubpath)
  | c :: d :: ds =>
    rw [hcs] at hchars
    have hrest : "action".toList = ds ++ '.' :: subpath.toList :=
      (List.cons.inj (List.cons.inj hchars).2).2
    have hdot : '.' ∈ "action".toList := by
      rw [hrest]
      simp
    exact absurd hdot (by decide)

theorem reaches_entry_iff_secluded :
    (∃ handle, secluded.Binds "p.action" "C" handle) ∧
      (¬∃ text, secluded.Reaches ⟨.service, text⟩ "p.action" "C") ∧
        secluded.Reaches ⟨.message, "p/action/C"⟩ "p.action" "C" := by
  have hbinds : secluded.Binds "p.action" "C" (.serviceOf "p.action.C" .integer .boolean) :=
    ⟨_, rfl, rfl⟩
  refine ⟨⟨_, hbinds⟩, ?_, ?_⟩
  · intro hreached
    obtain ⟨-, -, package, subpath, hsplits⟩ := (reaches_entry_iff secluded .service hbinds).1.1 hreached
    exact not_splits_secluded package subpath hsplits
  · have hclass : IsSegment "C" := ⟨by decide, by decide⟩
    have hsplits : Kind.message.Splits "p.action" "p" "action" :=
      ⟨by decide, by decide, by decide, by simp⟩
    exact (reaches_entry_iff secluded .message hbinds).2.1 hclass (by decide) "p" "action" hsplits

end TypeResolution
