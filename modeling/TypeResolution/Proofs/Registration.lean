import Mathlib.Data.List.Induction
import TypeResolution.Manifest
import TypeResolution.Proofs.Resolution

/-!
Where the types of a registry come from. Each is the type of one of the
registrations for its class and module (`Registry.mem_of_binds_build`). The
registrations that make up the name of their type themselves, in code or from a
manifest, all name it after its place, so in a registry of such registrations a
type can be told by its name (`Registry.Regular.qualifiedName_of_binds`).
-/

namespace TypeResolution

/-- The registration makes up the name of its type itself. -/
inductive Registration.Regular : Registration → Prop
  | message (modulePath className : String) (type : NativeType) :
      (Registration.message modulePath className type).Regular
  | service (modulePath className : String) (request response : NativeType) :
      (Registration.service modulePath className request response).Regular
  | declaredMessage (modulePath : String) (d : MessageDeclaration) :
      (d.registration modulePath).Regular
  | declaredService (modulePath : String) (d : ServiceDeclaration) :
      (d.registration modulePath).Regular

theorem Registration.Regular.qualifiedName {b : Registration} (h : b.Regular) :
    b.handle.qualifiedName = b.modulePath ++ "." ++ b.className := by
  cases h <;> rfl

theorem ModuleDeclaration.regular_of_mem {modulePath : String} {d : ModuleDeclaration}
    {b : Registration} (h : b ∈ d.registrations modulePath) : b.Regular := by
  rcases List.mem_append.1 h with h | h
  · obtain ⟨message, -, rfl⟩ := List.mem_map.1 h
    exact .declaredMessage modulePath message
  · obtain ⟨service, -, rfl⟩ := List.mem_map.1 h
    exact .declaredService modulePath service

namespace Registry

def Regular (r : Registry) : Prop :=
  ∃ registrations : List Registration, (∀ b ∈ registrations, b.Regular) ∧ r = .build registrations

theorem regular_toRegistry (m : Manifest) : m.toRegistry.Regular := by
  refine ⟨m.registrations, ?_, rfl⟩
  intro b hb
  obtain ⟨entry, -, hentry⟩ := List.mem_flatMap.1 hb
  exact ModuleDeclaration.regular_of_mem hentry

theorem binds_iff {r : Registry} {modulePath className : String} {handle : TypeHandle} :
    r.Binds modulePath className handle ↔
      ∃ classes, r.classes.get? modulePath = some classes ∧ classes.get? className = some handle := by
  unfold Binds openModule
  cases r.classes.get? modulePath with
  | none => simp
  | some classes =>
      cases hclass : classes.get? className with
      | none => simp [Module.lookup, hclass]
      | some found => simp [Module.lookup, hclass]

theorem not_binds_empty (modulePath className : String) (handle : TypeHandle) :
    ¬Registry.empty.Binds modulePath className handle := by
  simp [binds_iff, empty]

/-- What is bound after one more registration is what it binds, or was bound
before. -/
theorem of_binds_register {r : Registry} {b : Registration} {modulePath className : String}
    {handle : TypeHandle}
    (h : (r.register b.modulePath b.className b.handle).Binds modulePath className handle) :
    b = ⟨modulePath, className, handle⟩ ∨ r.Binds modulePath className handle := by
  obtain ⟨classes, hmodule, hclass⟩ := binds_iff.1 h
  rw [register, Table.get?_insert] at hmodule
  split at hmodule
  · -- the module has been bound anew, with the classes that it had before
    rename_i heq
    subst heq
    cases hmodule
    rw [Table.get?_insert] at hclass
    split at hclass
    · rename_i heq
      subst heq
      cases hclass
      exact .inl rfl
    · cases hold : r.classes.get? b.modulePath with
      | none => simp [hold] at hclass
      | some old =>
          rw [hold] at hclass
          exact .inr (binds_iff.2 ⟨old, hold, hclass⟩)
  · exact .inr (binds_iff.2 ⟨classes, hmodule, hclass⟩)

theorem mem_of_binds_build {registrations : List Registration} {modulePath className : String}
    {handle : TypeHandle} (h : (build registrations).Binds modulePath className handle) :
    ⟨modulePath, className, handle⟩ ∈ registrations := by
  induction registrations using List.reverseRecOn with
  | nil => exact absurd h (not_binds_empty modulePath className handle)
  | append_singleton bs b ih =>
      rw [build, List.foldl_append] at h
      rcases of_binds_register h with rfl | h
      · simp
      · exact List.mem_append_left _ (ih h)

/-- In a regular registry every type is named after its place. -/
theorem Regular.qualifiedName_of_binds {r : Registry} (hr : r.Regular)
    {modulePath className : String} {handle : TypeHandle}
    (h : r.Binds modulePath className handle) :
    handle.qualifiedName = modulePath ++ "." ++ className := by
  obtain ⟨registrations, hregular, rfl⟩ := hr
  exact (hregular _ (mem_of_binds_build h)).qualifiedName

end Registry

end TypeResolution
