import Mathlib.Data.List.Sort
import TypeResolution.Proofs.Chronicle

/-!
Modules that are shared and copied only when they are written. A registry does not
hold its modules themselves but references to them, and so does whoever has opened
one; cloning a registry or opening a module only makes another reference. The one
operation that writes a module is a registration. It writes the module in place if
the registry alone holds it, and otherwise writes a copy, which the registry holds
from then on. A workspace that works in this way cannot be told from one in which
every registry has modules of its own, so it answers by its chronicle as well
(`view_run_answersBy`).

The invariant is `Sharing.Depicts`: every holder sees the module that it would have
without sharing. It is kept because a place is written only when it has one holder
(`Sharing.module?_write`) or none (`Sharing.module?_allocate`).
-/

namespace TypeResolution

/-- Who holds a module: a registry holds one under each of its module paths, a slot
the one that is kept there. -/
inductive Holder
  | registry (name modulePath : String)
  | slot (name : String)
  deriving DecidableEq

/-- A workspace in which modules are held by reference. -/
structure Sharing where
  memory : Nat → Module
  registries : Table (Table Nat)
  kept : Table Nat

namespace Sharing

def new : Sharing := ⟨fun _ => ⟨"", .empty⟩, .empty, .empty⟩

def references (s : Sharing) (name : String) : Table Nat := (s.registries.get? name).getD .empty

def place? (s : Sharing) : Holder → Option Nat
  | .registry name modulePath => (s.references name).get? modulePath
  | .slot name => s.kept.get? name

def module? (s : Sharing) (h : Holder) : Option Module := (s.place? h).map s.memory

def holdings (s : Sharing) : List (Holder × Nat) :=
  s.registries.entries.flatMap (fun (name, references) =>
      references.entries.map fun (modulePath, place) => (.registry name modulePath, place))
    ++ s.kept.entries.map fun (name, place) => (.slot name, place)

def count (s : Sharing) (place : Nat) : Nat := s.holdings.countP (·.2 = place)

def free (s : Sharing) : Nat := (s.holdings.map Prod.snd).max?.getD 0 + 1

def setReferences (s : Sharing) (name : String) (references : Table Nat) : Sharing :=
  { s with registries := s.registries.insert name references }

/-- The holder gives up what it holds and holds the module of the place. -/
def hold (s : Sharing) (place : Nat) : Holder → Sharing
  | .registry name modulePath => s.setReferences name ((s.references name).insert modulePath place)
  | .slot name => { s with kept := s.kept.insert name place }

/-- Puts a module at a place, where all who refer to it will find it. -/
def put (s : Sharing) (place : Nat) (m : Module) : Sharing :=
  { s with memory := Function.update s.memory place m }

def allocate (s : Sharing) (h : Holder) (m : Module) : Sharing := (s.put s.free m).hold s.free h

/-- Changes the module of a holder, in place if nobody else holds it. -/
def write (s : Sharing) (h : Holder) (f : Module → Module) : Sharing :=
  match s.place? h with
  | none => s
  | some place =>
    if s.count place = 1 then s.put place (f (s.memory place))
    else s.allocate h (f (s.memory place))

def reserve (s : Sharing) (h : Holder) (modulePath : String) : Sharing :=
  match s.place? h with
  | none => s.allocate h ⟨modulePath, .empty⟩
  | some _ => s

def register (s : Sharing) (name : String) (b : Registration) : Sharing :=
  (s.reserve (.registry name b.modulePath) b.modulePath).write (.registry name b.modulePath)
    fun m => m.assign b.className b.handle

def step (s : Sharing) : Workspace.Step → Sharing
  | .build name registrations =>
    registrations.foldl (fun s b => s.register name b) (s.setReferences name .empty)
  | .register name b => s.register name b
  | .clone source target => s.setReferences target (s.references source)
  | .keep name modulePath slot =>
    match s.place? (.registry name modulePath) with
    | some place => s.hold place (.slot slot)
    | none => s

def run (steps : List Workspace.Step) : Sharing := steps.foldl step new

/-! ### References -/

theorem references_setReferences (s : Sharing) (name other : String) (references : Table Nat) :
    (s.setReferences name references).references other =
      if other = name then references else s.references other := by
  unfold Sharing.references setReferences
  rw [Table.get?_insert]
  split <;> rfl

theorem place?_hold (s : Sharing) (place : Nat) (h k : Holder) :
    (s.hold place h).place? k = if k = h then some place else s.place? k := by
  cases h with
  | registry name modulePath =>
      cases k with
      | registry other path =>
          simp only [hold, place?, references_setReferences]
          by_cases hname : other = name
          · subst hname
            simp
          · simp [hname]
      | slot other => rfl
  | slot name =>
      cases k with
      | registry other path => rfl
      | slot other => simp [hold, place?]

theorem mem_holdings {s : Sharing} {h : Holder} {place : Nat} (hplace : s.place? h = some place) :
    (h, place) ∈ s.holdings := by
  cases h with
  | registry name modulePath =>
      rw [place?, references] at hplace
      cases hname : s.registries.get? name with
      | none => simp [hname] at hplace
      | some references =>
          rw [hname, Option.getD_some] at hplace
          have hentry := Table.mem_entries_of_get? hplace
          have hreferences := Table.mem_entries_of_get? hname
          refine List.mem_append_left _ (List.mem_flatMap.2 ⟨_, hreferences, ?_⟩)
          exact List.mem_map.2 ⟨_, hentry, rfl⟩
  | slot name =>
      have hentry := Table.mem_entries_of_get? hplace
      exact List.mem_append_right _ (List.mem_map.2 ⟨_, hentry, rfl⟩)

/-- A place with one reference to it has one holder. -/
theorem eq_of_count_eq_one {s : Sharing} {place : Nat} (hcount : s.count place = 1)
    {h k : Holder} (hh : s.place? h = some place) (hk : s.place? k = some place) : h = k := by
  rw [count, List.countP_eq_length_filter] at hcount
  obtain ⟨holding, hfilter⟩ := List.length_eq_one_iff.1 hcount
  have hsole : ∀ {holder}, s.place? holder = some place → (holder, place) = holding := by
    intro holder hplace
    have hmem : (holder, place) ∈ s.holdings.filter (·.2 = place) := by
      simp [mem_holdings hplace]
    rwa [hfilter, List.mem_singleton] at hmem
  exact congrArg Prod.fst ((hsole hh).trans (hsole hk).symm)

theorem lt_free {s : Sharing} {h : Holder} {place : Nat} (hplace : s.place? h = some place) :
    place < s.free := by
  have hmem : place ∈ s.holdings.map Prod.snd := List.mem_map.2 ⟨_, mem_holdings hplace, rfl⟩
  have hle := List.le_max?_getD_of_mem (k := 0) hmem
  unfold free
  omega

/-! ### What each holder sees -/

theorem module?_of_place?_eq_none {s : Sharing} {h : Holder} (hplace : s.place? h = none) :
    s.module? h = none := by
  rw [module?, hplace, Option.map_none]

theorem module?_of_place? {s : Sharing} {h : Holder} {place : Nat}
    (hplace : s.place? h = some place) : s.module? h = some (s.memory place) := by
  rw [module?, hplace, Option.map_some]

theorem module?_hold (s : Sharing) (place : Nat) (h k : Holder) :
    (s.hold place h).module? k = if k = h then some (s.memory place) else s.module? k := by
  have hmemory : (s.hold place h).memory = s.memory := by cases h <;> rfl
  rw [module?, place?_hold, hmemory]
  split <;> rfl

theorem module?_setReferences (s : Sharing) (name : String) (references : Table Nat) (k : Holder) :
    (s.setReferences name references).module? k =
      match k with
      | .registry other modulePath =>
        if other = name then (references.get? modulePath).map s.memory else s.module? k
      | .slot _ => s.module? k := by
  cases k with
  | registry other modulePath =>
      simp only [module?, place?, references_setReferences]
      split <;> rfl
  | slot other => rfl

theorem module?_put (s : Sharing) (place : Nat) (m : Module) (k : Holder) :
    (s.put place m).module? k = if s.place? k = some place then some m else s.module? k := by
  have hplace : (s.put place m).place? k = s.place? k := by cases k <;> rfl
  rw [module?, hplace, module?]
  cases s.place? k with
  | none => rfl
  | some other => by_cases hother : other = place <;> simp [put, hother]

/-- A new module is seen by the one it is allocated for and by nobody else, since the
place that it is put at is free. -/
theorem module?_allocate (s : Sharing) (h : Holder) (m : Module) (k : Holder) :
    (s.allocate h m).module? k = if k = h then some m else s.module? k := by
  have hfree : s.place? k ≠ some s.free := fun hplace => (lt_free hplace).ne rfl
  rw [allocate, module?_hold, module?_put, if_neg hfree]
  simp [put]

/-- What one holder writes no other holder sees. -/
theorem module?_write (s : Sharing) (h : Holder) (f : Module → Module) (k : Holder) :
    (s.write h f).module? k = if k = h then (s.module? h).map f else s.module? k := by
  rw [write]
  cases hplace : s.place? h with
  | none =>
      have hnone := module?_of_place?_eq_none hplace
      by_cases hk : k = h <;> simp [hk, hnone]
  | some place =>
      have hmodule := module?_of_place? hplace
      by_cases hcount : s.count place = 1
      · have hsole : s.place? k = some place ↔ k = h := by
          constructor
          · exact fun hk => eq_of_count_eq_one hcount hk hplace
          · rintro rfl
            exact hplace
        simp [hcount, module?_put, hsole, hmodule]
      · simp [hcount, module?_allocate, hmodule]

theorem module?_reserve (s : Sharing) (h : Holder) (modulePath : String) (k : Holder) :
    (s.reserve h modulePath).module? k =
      if k = h then some ((s.module? h).getD ⟨modulePath, .empty⟩) else s.module? k := by
  rw [reserve]
  cases hplace : s.place? h with
  | none =>
      have hnone := module?_of_place?_eq_none hplace
      simp [module?_allocate, hnone]
  | some place =>
      have hmodule := module?_of_place? hplace
      by_cases hk : k = h <;> simp [hk, hmodule]

/-- A registration is seen in the one registry that it is made in, as a registration
in a module that nobody else holds. -/
theorem module?_register (s : Sharing) (name : String) (b : Registration) (k : Holder) :
    (s.register name b).module? k =
      if k = .registry name b.modulePath then
        some (((s.module? k).getD ⟨b.modulePath, .empty⟩).assign b.className b.handle)
      else s.module? k := by
  rw [register, module?_write, module?_reserve, module?_reserve]
  by_cases hk : k = .registry name b.modulePath <;> simp [hk]

end Sharing

/-! ### What is seen in the workspace -/

def Workspace.module? (w : Workspace) : Holder → Option Module
  | .registry name modulePath => (w.registries name).module? modulePath
  | .slot name => w.kept name

namespace Workspace

theorem module?_setRegistry (w : Workspace) (name : String) (r : Registry) (k : Holder) :
    (w.setRegistry name r).module? k =
      match k with
      | .registry other modulePath =>
        if other = name then r.module? modulePath else w.module? k
      | .slot _ => w.module? k := by
  cases k with
  | registry other modulePath => by_cases hname : other = name <;> simp [module?, setRegistry, hname]
  | slot other => rfl

end Workspace

namespace Sharing

/-- Every holder sees the module that it holds in the workspace. -/
def Depicts (s : Sharing) (w : Workspace) : Prop := ∀ h, s.module? h = w.module? h

theorem depicts_new : new.Depicts .new := by
  intro h
  cases h <;> rfl

theorem Depicts.setReferences {s : Sharing} {w : Workspace} (h : s.Depicts w) (name : String)
    {references : Table Nat} {r : Registry}
    (hmodules : ∀ modulePath, (references.get? modulePath).map s.memory = r.module? modulePath) :
    (s.setReferences name references).Depicts (w.setRegistry name r) := by
  intro k
  rw [module?_setReferences, Workspace.module?_setRegistry]
  cases k with
  | registry other modulePath => simp only [hmodules, h (.registry other modulePath)]
  | slot other => exact h (.slot other)

theorem Depicts.register {s : Sharing} {w : Workspace} (h : s.Depicts w) (name : String)
    (b : Registration) : (s.register name b).Depicts (w.step (.register name b)) := by
  intro k
  rw [module?_register, h k, Workspace.step, Workspace.module?_setRegistry]
  cases k with
  | registry other modulePath =>
      by_cases hname : other = name
      · subst hname
        by_cases hmodule : b.modulePath = modulePath
        · subst hmodule
          simp [Workspace.module?, Registry.module?_register]
        · simp [Workspace.module?, Registry.module?_register, hmodule, Ne.symm hmodule]
      · simp [hname]
  | slot other => simp

theorem Depicts.registerAll {s : Sharing} {w : Workspace} {name : String} {r : Registry}
    (h : s.Depicts (w.setRegistry name r)) (registrations : List Registration) :
    (registrations.foldl (fun s b => s.register name b) s).Depicts
      (w.setRegistry name
        (registrations.foldl (fun r b => r.register b.modulePath b.className b.handle) r)) := by
  induction registrations generalizing s r with
  | nil => exact h
  | cons b registrations ih =>
      have hregister := h.register name b
      rw [Workspace.step, Workspace.setRegistry_setRegistry, Workspace.registries_setRegistry]
        at hregister
      exact ih hregister

theorem Depicts.step {s : Sharing} {w : Workspace} (h : s.Depicts w) (a : Workspace.Step) :
    (s.step a).Depicts (w.step a) := by
  cases a with
  | build name registrations =>
      exact (h.setReferences name fun _ => rfl).registerAll registrations
  | register name b => exact h.register name b
  | clone source target =>
      exact h.setReferences target fun modulePath => h (.registry source modulePath)
  | keep name modulePath slot =>
      have hmodule : s.module? (.registry name modulePath) = (w.registries name).module? modulePath :=
        h (.registry name modulePath)
      have hopen := Registry.openModule_eq (w.registries name) modulePath
      rw [← hmodule] at hopen
      cases hplace : s.place? (.registry name modulePath) with
      | none =>
          rw [module?_of_place?_eq_none hplace] at hopen
          simpa only [Sharing.step, Workspace.step, hplace, hopen] using h
      | some place =>
          rw [module?_of_place? hplace] at hopen
          simp only [Sharing.step, Workspace.step, hplace, hopen]
          intro k
          rw [module?_hold, h k]
          cases k with
          | registry other path => rfl
          | slot other => by_cases hslot : other = slot <;> simp [Workspace.module?, hslot]

theorem depicts_run (steps : List Workspace.Step) : (run steps).Depicts (.run steps) := by
  induction steps using List.reverseRecOn with
  | nil => exact depicts_new
  | append_singleton steps a ih => simpa [run, Workspace.run] using ih.step a

/-! ### What can be read off -/

def registryView (s : Sharing) (name : String) : Registry.View where
  openModule modulePath :=
    match s.module? (.registry name modulePath) with
    | some m => .ok m
    | none => .error (.moduleNotFound modulePath)
  modulePaths := (s.references name).keys
  classNames? modulePath := (s.module? (.registry name modulePath)).map Module.classNames
  isEmpty := (s.references name).isEmpty

def view (s : Sharing) : Workspace.View := ⟨s.registryView, fun slot => s.module? (.slot slot)⟩

theorem Depicts.registryView_eq {s : Sharing} {w : Workspace} (h : s.Depicts w) (name : String) :
    s.registryView name = (w.registries name).view := by
  have hmodule : ∀ modulePath,
      s.module? (.registry name modulePath) = (w.registries name).module? modulePath :=
    fun modulePath => h (.registry name modulePath)
  have hopen : (s.registryView name).openModule = (w.registries name).openModule := by
    funext modulePath
    rw [Registry.openModule_eq, ← hmodule]
    rfl
  have hkeys : (s.references name).keys = (w.registries name).modulePaths := by
    refine List.Pairwise.eq_of_mem_iff (Table.keys_ascending _) (Table.keys_ascending _) ?_
    intro modulePath
    rw [Table.mem_keys_iff, Registry.mem_modulePaths_iff, ← hmodule, module?, Option.isSome_map]
    rfl
  have hnames : (s.registryView name).classNames? = (w.registries name).classNames? := by
    funext modulePath
    rw [Registry.classNames?_eq, ← hmodule]
    rfl
  have hempty : (s.references name).isEmpty = (w.registries name).isEmpty := by
    rw [Bool.eq_iff_iff, Table.isEmpty_iff, hkeys]
    exact (Table.isEmpty_iff _).symm
  exact Registry.View.ext hopen hkeys hnames hempty

theorem Depicts.view_eq {s : Sharing} {w : Workspace} (h : s.Depicts w) : s.view = w.view := by
  have hkept : (fun slot => s.module? (.slot slot)) = w.kept := funext fun slot => h (.slot slot)
  rw [view, hkept, funext h.registryView_eq]
  rfl

end Sharing

/-- Registries that share their modules and copy them only when they write them cannot
be told from registries with modules of their own. After any steps each of them
answers by its history, and each module that has been opened and kept answers by the
history that its registry had at that time. -/
theorem view_run_answersBy (steps : List Workspace.Step) :
    (Sharing.run steps).view = (Workspace.run steps).view ∧
      (Workspace.run steps).view.AnswersBy (Chronicle.run steps) :=
  ⟨(Sharing.depicts_run steps).view_eq, (Workspace.notedIn_run steps).answersBy⟩

end TypeResolution
