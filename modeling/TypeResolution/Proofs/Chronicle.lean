import Mathlib.Data.List.Induction
import Mathlib.Logic.Function.Basic
import TypeResolution.Registry

/-!
Registries answer by their history. In a workspace registries are built, registered
in and cloned, and modules of theirs are opened and kept. Its chronicle only notes
the registrations: for every registry the list of those that made it, and for every
kept module the list that its registry had when the module was opened. All that can
be read off the workspace is determined by the chronicle (`Workspace.notedIn_run`,
`Workspace.NotedIn.answersBy`), so nothing that is registered later shows in a kept
module, and nothing that is registered in one registry shows in another.
-/

namespace TypeResolution

abbrev Registrations := List Registration

namespace Registrations

def Mentions (history : Registrations) (modulePath : String) : Prop :=
  ∃ b ∈ history, b.modulePath = modulePath

instance (history : Registrations) (modulePath : String) : Decidable (history.Mentions modulePath) :=
  inferInstanceAs (Decidable (∃ b ∈ history, b.modulePath = modulePath))

/-- The type that the last registration for the class in the module binds. -/
def last? (history : Registrations) (modulePath className : String) : Option TypeHandle :=
  (history.reverse.find? fun b => b.modulePath = modulePath ∧ b.className = className).map
    (·.handle)

theorem mentions_append_singleton (history : Registrations) (b : Registration) (modulePath : String) :
    Mentions (history ++ [b]) modulePath ↔
      b.modulePath = modulePath ∨ history.Mentions modulePath := by
  simp [Mentions, or_comm, or_and_right, exists_or]

theorem eq_nil_iff_not_mentions (history : Registrations) :
    history = [] ↔ ∀ modulePath, ¬history.Mentions modulePath := by
  simp [Mentions, List.eq_nil_iff_forall_not_mem]

theorem last?_append (history later : Registrations) (modulePath className : String) :
    last? (history ++ later) modulePath className =
      (later.last? modulePath className).or (history.last? modulePath className) := by
  rw [last?, List.reverse_append, List.find?_append, Option.map_or]
  rfl

theorem last?_append_singleton (history : Registrations) (b : Registration)
    (modulePath className : String) :
    last? (history ++ [b]) modulePath className =
      if b.modulePath = modulePath ∧ b.className = className then some b.handle
      else history.last? modulePath className := by
  rw [last?_append]
  by_cases h : b.modulePath = modulePath ∧ b.className = className <;> simp [last?, h]

theorem isSome_last? (history : Registrations) (modulePath className : String) :
    (history.last? modulePath className).isSome ↔
      ∃ b ∈ history, b.modulePath = modulePath ∧ b.className = className := by
  simp [last?, List.find?_isSome]

end Registrations

def Module.assign (m : Module) (className : String) (handle : TypeHandle) : Module :=
  { m with classes := m.classes.insert className handle }

namespace Registry

def module? (r : Registry) (modulePath : String) : Option Module :=
  (r.classes.get? modulePath).map (Module.mk modulePath)

theorem openModule_eq (r : Registry) (modulePath : String) :
    r.openModule modulePath =
      match r.module? modulePath with
      | some m => .ok m
      | none => .error (.moduleNotFound modulePath) := by
  unfold openModule module?
  cases r.classes.get? modulePath <;> rfl

theorem path_of_module? {r : Registry} {modulePath : String} {m : Module}
    (h : r.module? modulePath = some m) : m.path = modulePath := by
  obtain ⟨classes, -, rfl⟩ := Option.map_eq_some_iff.1 h
  rfl

theorem mem_modulePaths_iff (r : Registry) (modulePath : String) :
    modulePath ∈ r.modulePaths ↔ (r.module? modulePath).isSome := by
  unfold modulePaths module?
  rw [Table.mem_keys_iff, Option.isSome_map]

theorem classNames?_eq (r : Registry) (modulePath : String) :
    r.classNames? modulePath = (r.module? modulePath).map Module.classNames := by
  unfold classNames? module?
  rw [Option.map_map]
  rfl

/-- A registration puts its class into its module, which is a new one if the
registry had none, and leaves the other modules alone. -/
theorem module?_register (r : Registry) (b : Registration) (modulePath : String) :
    (r.register b.modulePath b.className b.handle).module? modulePath =
      if b.modulePath = modulePath then
        some (((r.module? modulePath).getD ⟨modulePath, .empty⟩).assign b.className b.handle)
      else r.module? modulePath := by
  unfold register module?
  rw [Table.get?_insert]
  by_cases h : b.modulePath = modulePath
  · subst h
    cases hold : r.classes.get? b.modulePath <;> simp [Module.assign]
  · simp [h, Ne.symm h]

theorem build_append_singleton (history : Registrations) (b : Registration) :
    build (history ++ [b]) = (build history).register b.modulePath b.className b.handle := by
  simp [build]

theorem isSome_module?_build (history : Registrations) (modulePath : String) :
    ((build history).module? modulePath).isSome ↔ history.Mentions modulePath := by
  induction history using List.reverseRecOn with
  | nil => simp [build, empty, module?, Registrations.Mentions]
  | append_singleton history b ih =>
      rw [build_append_singleton, module?_register, Registrations.mentions_append_singleton]
      by_cases h : b.modulePath = modulePath
      · simp [h]
      · simp [h, ih]

/-- In a registry that has been built a class is bound as the last registration for
it says; a module that is missing counts as one without classes. -/
theorem get?_module?_build (history : Registrations) (modulePath className : String) :
    (((build history).module? modulePath).getD ⟨modulePath, .empty⟩).classes.get? className =
      history.last? modulePath className := by
  induction history using List.reverseRecOn with
  | nil => simp [build, empty, module?, Registrations.last?]
  | append_singleton history b ih =>
      rw [build_append_singleton, module?_register, Registrations.last?_append_singleton]
      by_cases hmodule : b.modulePath = modulePath
      · simp [hmodule, Module.assign, ih, eq_comm]
      · simp [hmodule, ih]

end Registry

/-! ### What can be read off a registry -/

@[ext] structure Registry.View where
  openModule : String → Except ProviderError Module
  modulePaths : List String
  classNames? : String → Option (List String)
  isEmpty : Bool

def Registry.view (r : Registry) : View :=
  ⟨r.openModule, r.modulePaths, r.classNames?, r.isEmpty⟩

/-- The module was opened under the path when the registry had this history: each
class has the type of the last registration for it. -/
structure Module.OpenedFrom (m : Module) (history : Registrations) (modulePath : String) :
    Prop where
  path_eq : m.path = modulePath
  lookup_eq : ∀ className, m.lookup className =
    match history.last? modulePath className with
    | some handle => .ok handle
    | none => .error (.symbolNotFound modulePath className)

/-- The answers are those of a registry with this history. -/
structure Registry.View.AnswersBy (v : View) (history : Registrations) : Prop where
  opened : ∀ modulePath, history.Mentions modulePath →
    ∃ m, v.openModule modulePath = .ok m ∧ m.OpenedFrom history modulePath
  notFound : ∀ modulePath, ¬history.Mentions modulePath →
    v.openModule modulePath = .error (.moduleNotFound modulePath)
  ascending_modulePaths : v.modulePaths.Pairwise (· < ·)
  mem_modulePaths : ∀ modulePath,
    modulePath ∈ v.modulePaths ↔ history.Mentions modulePath
  classNames? : ∀ modulePath, history.Mentions modulePath →
    ∃ names, v.classNames? modulePath = some names ∧ names.Pairwise (· < ·) ∧
      ∀ className, className ∈ names ↔
        ∃ b ∈ history, b.modulePath = modulePath ∧ b.className = className
  classNames?_none : ∀ modulePath, ¬history.Mentions modulePath →
    v.classNames? modulePath = none
  isEmpty : v.isEmpty ↔ history = []

namespace Registry

theorem openedFrom_of_module?_build {history : Registrations} {modulePath : String}
    {m : Module} (h : (build history).module? modulePath = some m) :
    m.OpenedFrom history modulePath := by
  have hpath := path_of_module? h
  refine ⟨hpath, fun className => ?_⟩
  have hclass := get?_module?_build history modulePath className
  rw [h, Option.getD_some] at hclass
  cases hlast : history.last? modulePath className <;> simp [Module.lookup, hclass, hlast, hpath]

theorem answersBy_build (history : Registrations) : (build history).view.AnswersBy history := by
  have hmentions := isSome_module?_build history
  refine ⟨?opened, ?notFound, Table.keys_ascending _, ?paths, ?names, ?unknown, ?isEmpty⟩
  case opened =>
    intro modulePath h
    obtain ⟨m, hm⟩ := Option.isSome_iff_exists.1 ((hmentions modulePath).2 h)
    have hopen := openModule_eq (build history) modulePath
    rw [hm] at hopen
    exact ⟨m, hopen, openedFrom_of_module?_build hm⟩
  case notFound =>
    intro modulePath h
    have hnone := Option.not_isSome_iff_eq_none.1 (mt (hmentions modulePath).1 h)
    have hopen := openModule_eq (build history) modulePath
    rwa [hnone] at hopen
  case paths =>
    intro modulePath
    exact (mem_modulePaths_iff _ _).trans (hmentions modulePath)
  case names =>
    intro modulePath h
    obtain ⟨m, hm⟩ := Option.isSome_iff_exists.1 ((hmentions modulePath).2 h)
    have hnames := classNames?_eq (build history) modulePath
    rw [hm] at hnames
    refine ⟨m.classNames, hnames, Table.keys_ascending _, fun className => ?_⟩
    have hclass := get?_module?_build history modulePath className
    rw [hm, Option.getD_some] at hclass
    rw [← Registrations.isSome_last?, ← hclass]
    exact Table.mem_keys_iff _ _
  case unknown =>
    intro modulePath h
    have hnone := Option.not_isSome_iff_eq_none.1 (mt (hmentions modulePath).1 h)
    have hnames := classNames?_eq (build history) modulePath
    rwa [hnone] at hnames
  case isEmpty =>
    calc (build history).isEmpty = true
      _ ↔ (build history).modulePaths = [] := Table.isEmpty_iff _
      _ ↔ ∀ modulePath, modulePath ∉ (build history).modulePaths :=
          List.eq_nil_iff_forall_not_mem
      _ ↔ ∀ modulePath, ¬history.Mentions modulePath := by
          simp only [mem_modulePaths_iff, hmentions]
      _ ↔ history = [] := (history.eq_nil_iff_not_mentions).symm

end Registry

/-! ### Workspaces and chronicles -/

/-- A number of registries and of modules that have been opened and kept, each under
a name. A registry that has not been made yet is a new one. -/
structure Workspace where
  registries : String → Registry
  kept : String → Option Module

namespace Workspace

inductive Step
  | build (name : String) (registrations : List Registration)
  | register (name : String) (b : Registration)
  | clone (source target : String)
  | keep (name modulePath slot : String)

def new : Workspace := ⟨fun _ => .empty, fun _ => none⟩

def setRegistry (w : Workspace) (name : String) (r : Registry) : Workspace :=
  { w with registries := Function.update w.registries name r }

/-- A module that cannot be opened leaves what was kept before. -/
def step (w : Workspace) : Step → Workspace
  | .build name registrations => w.setRegistry name (.build registrations)
  | .register name b =>
    w.setRegistry name ((w.registries name).register b.modulePath b.className b.handle)
  | .clone source target => w.setRegistry target (w.registries source)
  | .keep name modulePath slot =>
    match (w.registries name).openModule modulePath with
    | .ok m => { w with kept := Function.update w.kept slot (some m) }
    | .error _ => w

def run (steps : List Step) : Workspace := steps.foldl step new

end Workspace

structure Opening where
  history : Registrations
  modulePath : String

structure Chronicle where
  history : String → Registrations
  kept : String → Option Opening

namespace Chronicle

def new : Chronicle := ⟨fun _ => [], fun _ => none⟩

def setHistory (c : Chronicle) (name : String) (history : Registrations) : Chronicle :=
  { c with history := Function.update c.history name history }

def step (c : Chronicle) : Workspace.Step → Chronicle
  | .build name registrations => c.setHistory name registrations
  | .register name b => c.setHistory name (c.history name ++ [b])
  | .clone source target => c.setHistory target (c.history source)
  | .keep name modulePath slot =>
    if (c.history name).Mentions modulePath then
      { c with kept := Function.update c.kept slot (some ⟨c.history name, modulePath⟩) }
    else c

def run (steps : List Workspace.Step) : Chronicle := steps.foldl step new

end Chronicle

structure Workspace.View where
  registry : String → Registry.View
  kept : String → Option Module

def Workspace.view (w : Workspace) : View := ⟨fun name => (w.registries name).view, w.kept⟩

/-- Every registry answers by its history, and every kept module by the history at
the time when it was opened. -/
structure Workspace.View.AnswersBy (v : View) (c : Chronicle) : Prop where
  registry : ∀ name, (v.registry name).AnswersBy (c.history name)
  kept : ∀ slot,
    Option.Rel (fun m opening => m.OpenedFrom opening.history opening.modulePath)
      (v.kept slot) (c.kept slot)

namespace Workspace

@[simp] theorem registries_setRegistry (w : Workspace) (name : String) (r : Registry) :
    (w.setRegistry name r).registries name = r := by
  simp [setRegistry]

@[simp] theorem setRegistry_setRegistry (w : Workspace) (name : String) (r r' : Registry) :
    (w.setRegistry name r).setRegistry name r' = w.setRegistry name r' := by
  simp [setRegistry]

structure NotedIn (w : Workspace) (c : Chronicle) : Prop where
  registries : ∀ name, w.registries name = .build (c.history name)
  kept : ∀ slot,
    Option.Rel (fun m opening => m.OpenedFrom opening.history opening.modulePath)
      (w.kept slot) (c.kept slot)

theorem notedIn_new : new.NotedIn .new := ⟨fun _ => rfl, fun _ => .none⟩

theorem NotedIn.setRegistry {w : Workspace} {c : Chronicle} (h : w.NotedIn c) (name : String)
    (history : Registrations) :
    (w.setRegistry name (.build history)).NotedIn (c.setHistory name history) := by
  refine ⟨fun other => ?_, h.kept⟩
  by_cases hname : other = name
  · subst hname
    simp [Workspace.setRegistry, Chronicle.setHistory]
  · simp [Workspace.setRegistry, Chronicle.setHistory, hname, h.registries]

theorem NotedIn.step {w : Workspace} {c : Chronicle} (h : w.NotedIn c) (a : Step) :
    (w.step a).NotedIn (c.step a) := by
  cases a with
  | build name registrations => exact h.setRegistry name registrations
  | register name b =>
      have hset := h.setRegistry name (c.history name ++ [b])
      rwa [Registry.build_append_singleton, ← h.registries] at hset
  | clone source target =>
      have hset := h.setRegistry target (c.history source)
      rwa [← h.registries] at hset
  | keep name modulePath slot =>
      have hopen := Registry.openModule_eq (w.registries name) modulePath
      have hmentions := Registry.isSome_module?_build (c.history name) modulePath
      rw [h.registries] at hopen
      cases hm : (Registry.build (c.history name)).module? modulePath with
      | none =>
          simp only [hm, Option.isSome_none, Bool.false_eq_true, false_iff] at hopen hmentions
          simpa only [Workspace.step, Chronicle.step, h.registries, hopen, if_neg hmentions] using h
      | some m =>
          simp only [hm, Option.isSome_some, true_iff] at hopen hmentions
          simp only [Workspace.step, Chronicle.step, h.registries, hopen, if_pos hmentions]
          refine ⟨h.registries, fun other => ?_⟩
          by_cases hslot : other = slot
          · subst hslot
            simpa using Option.Rel.some (Registry.openedFrom_of_module?_build hm)
          · simpa [hslot] using h.kept other

theorem notedIn_run (steps : List Step) : (run steps).NotedIn (.run steps) := by
  induction steps using List.reverseRecOn with
  | nil => exact notedIn_new
  | append_singleton steps a ih =>
      simpa [run, Chronicle.run] using ih.step a

theorem NotedIn.answersBy {w : Workspace} {c : Chronicle} (h : w.NotedIn c) :
    w.view.AnswersBy c := by
  refine ⟨fun name => ?_, h.kept⟩
  have hanswers := Registry.answersBy_build (c.history name)
  rwa [← h.registries] at hanswers

end Workspace

end TypeResolution
