import TypeResolution.Manifest
import TypeResolution.Proofs.Chronicle
import TypeResolution.Proofs.LastNamed

/-!
The registry of a manifest. All declarations are registered in one table, module by
module and in each module the messages before the services, so a name that is declared
more than once stands for the last service with it, and for the last message only if
there is no service (`Manifest.lookup_toRegistry_of_service`,
`Manifest.lookup_toRegistry_of_message`). `Manifest.holds_toRegistry` says what
the registry gives for every name of every module.
-/

namespace TypeResolution

def Registry.lookup (r : Registry) (modulePath className : String) :
    Except ProviderError TypeHandle := do
  let m ← r.openModule modulePath
  m.lookup className

theorem Registry.lookup_build (history : Registrations) (modulePath className : String) :
    (build history).lookup modulePath className =
      match history.last? modulePath className with
      | some handle => .ok handle
      | none =>
        .error (if history.Mentions modulePath then .symbolNotFound modulePath className
          else .moduleNotFound modulePath) := by
  have hanswers := answersBy_build history
  by_cases hmentions : history.Mentions modulePath
  · obtain ⟨m, hopen, hopened⟩ := hanswers.opened modulePath hmentions
    have hopen' : (build history).openModule modulePath = .ok m := hopen
    rw [lookup, hopen', if_pos hmentions]
    exact hopened.lookup_eq className
  · have hopen' : (build history).openModule modulePath = .error (.moduleNotFound modulePath) :=
      hanswers.notFound modulePath hmentions
    have hlast : history.last? modulePath className = none := by
      rw [← Option.not_isSome_iff_eq_none, Registrations.isSome_last?]
      rintro ⟨b, hb, hmodule, -⟩
      exact hmentions ⟨b, hb, hmodule⟩
    rw [lookup, hopen', hlast, if_neg hmentions]
    rfl

/-! ### What a module declares -/

namespace ModuleDeclaration

def service? (d : ModuleDeclaration) (name : String) : Option ServiceDeclaration :=
  lastNamed? ServiceDeclaration.name name d.services

def message? (d : ModuleDeclaration) (name : String) : Option MessageDeclaration :=
  lastNamed? MessageDeclaration.name name d.messages

theorem modulePath_of_mem_registrations {d : ModuleDeclaration} {modulePath : String}
    {b : Registration} (h : b ∈ d.registrations modulePath) : b.modulePath = modulePath := by
  rcases List.mem_append.1 h with h | h
  · obtain ⟨message, -, rfl⟩ := List.mem_map.1 h
    rfl
  · obtain ⟨service, -, rfl⟩ := List.mem_map.1 h
    rfl

end ModuleDeclaration

/-- Among registrations that are all made in one module only the name counts. -/
theorem Registrations.last?_map {α : Type} {modulePath : String} (nameOf : α → String)
    (f : α → Registration) (hmodule : ∀ x, (f x).modulePath = modulePath)
    (hname : ∀ x, (f x).className = nameOf x) (items : List α) (name : String) :
    last? (items.map f) modulePath name =
      (lastNamed? nameOf name items).map fun x => (f x).handle := by
  rw [last?, lastNamed?, ← List.map_reverse, List.find?_map, Option.map_map]
  simp only [Function.comp_def, hmodule, hname, true_and]

namespace ModuleDeclaration

theorem last?_registrations (d : ModuleDeclaration) (modulePath name : String) :
    Registrations.last? (d.registrations modulePath) modulePath name =
      ((d.service? name).map fun s => (s.registration modulePath).handle).or
        ((d.message? name).map fun m => (m.registration modulePath).handle) := by
  have hservices := Registrations.last?_map ServiceDeclaration.name
    (ServiceDeclaration.registration modulePath) (fun _ => rfl) (fun _ => rfl) d.services name
  have hmessages := Registrations.last?_map MessageDeclaration.name
    (MessageDeclaration.registration modulePath) (fun _ => rfl) (fun _ => rfl) d.messages name
  rw [registrations, Registrations.last?_append, hservices, hmessages]
  rfl

theorem last?_registrations_of_ne (d : ModuleDeclaration) {modulePath other : String}
    (h : modulePath ≠ other) (name : String) :
    Registrations.last? (d.registrations modulePath) other name = none := by
  rw [← Option.not_isSome_iff_eq_none, Registrations.isSome_last?]
  rintro ⟨b, hb, hmodule, -⟩
  exact h ((modulePath_of_mem_registrations hb).symm.trans hmodule)

theorem registrations_ne_nil_iff (d : ModuleDeclaration) (modulePath : String) :
    d.registrations modulePath ≠ [] ↔ d.messages ≠ [] ∨ d.services ≠ [] := by
  simp [registrations, imp_iff_not_or]

end ModuleDeclaration

/-! ### What a manifest declares -/

namespace Manifest

def Declares (m : Manifest) (modulePath : String) : Prop :=
  ∃ d, m.modules.get? modulePath = some d ∧ (d.messages ≠ [] ∨ d.services ≠ [])

def service? (m : Manifest) (modulePath name : String) : Option ServiceDeclaration :=
  (m.modules.get? modulePath).bind (·.service? name)

def message? (m : Manifest) (modulePath name : String) : Option MessageDeclaration :=
  (m.modules.get? modulePath).bind (·.message? name)

theorem mentions_registrations_iff (m : Manifest) (modulePath : String) :
    Registrations.Mentions m.registrations modulePath ↔ m.Declares modulePath := by
  constructor
  · rintro ⟨b, hb, rfl⟩
    obtain ⟨⟨modulePath, d⟩, hentry, hb⟩ := List.mem_flatMap.1 hb
    refine ⟨d, ?_, (d.registrations_ne_nil_iff modulePath).1 (List.ne_nil_of_mem hb)⟩
    rw [ModuleDeclaration.modulePath_of_mem_registrations hb]
    exact Table.get?_of_mem_entries hentry
  · rintro ⟨d, hmodule, hdeclared⟩
    have hne := (d.registrations_ne_nil_iff modulePath).2 hdeclared
    obtain ⟨b, hb⟩ := List.exists_mem_of_ne_nil _ hne
    exact ⟨b, List.mem_flatMap.2 ⟨_, Table.mem_entries_of_get? hmodule, hb⟩,
      ModuleDeclaration.modulePath_of_mem_registrations hb⟩

/-- Each module has one entry, so a name stands for what is registered last for it in
that entry. -/
theorem last?_flatMap_registrations {entries : List (String × ModuleDeclaration)}
    (h : entries.Pairwise (·.1 < ·.1)) (modulePath name : String) :
    Registrations.last? (entries.flatMap fun e => e.2.registrations e.1) modulePath name =
      (findEntry modulePath entries).bind fun d =>
        Registrations.last? (d.registrations modulePath) modulePath name := by
  induction entries with
  | nil => rfl
  | cons entry rest ih =>
      obtain ⟨hentry, hrest⟩ := List.pairwise_cons.1 h
      rw [List.flatMap_cons, Registrations.last?_append, ih hrest, findEntry]
      by_cases hkey : modulePath = entry.1
      · subst hkey
        rw [findEntry_eq_none hentry, if_pos rfl]
        rfl
      · rw [if_neg hkey, ModuleDeclaration.last?_registrations_of_ne _ (Ne.symm hkey),
          Option.or_none]

theorem last?_registrations (m : Manifest) (modulePath name : String) :
    Registrations.last? m.registrations modulePath name =
      ((m.service? modulePath name).map fun s => (s.registration modulePath).handle).or
        ((m.message? modulePath name).map fun d => (d.registration modulePath).handle) := by
  rw [registrations, last?_flatMap_registrations m.modules.ascending, ← Table.get?, service?,
    message?]
  cases m.modules.get? modulePath with
  | none => rfl
  | some d => exact d.last?_registrations modulePath name

end Manifest

/-! ### The types of declarations -/

def ServiceDeclaration.fields (d : ServiceDeclaration) : ServiceMember → Table Json
  | .request => d.request
  | .response => d.response

namespace TypeHandle

/-- The type is declared by its fields: an instance is an object with them, and it has
no halves. -/
structure IsMessage (handle : TypeHandle) (name : String) (fields : Table Json) : Prop where
  qualifiedName_eq : handle.qualifiedName = name
  fields?_eq : handle.fields? = some fields
  instantiate_eq : handle.instantiate = .json (.ofTable fields)
  member?_eq : ∀ half, handle.member? half = none

/-- The type is a service whose halves are declared by their fields and named after
it. -/
structure IsService (handle : TypeHandle) (name : String) (fields : ServiceMember → Table Json) :
    Prop where
  qualifiedName_eq : handle.qualifiedName = name
  service : ∃ request response, handle = .service name request response
  member? : ∀ half, ∃ type, handle.member? half = some type ∧
    type.IsMessage (memberName name half) (fields half)
  instantiate_eq : handle.instantiate =
    .pair (.json (.ofTable (fields .request))) (.json (.ofTable (fields .response)))

theorem isMessage_json (name : String) (fields : Table Json) :
    (json name fields).IsMessage name fields where
  qualifiedName_eq := rfl
  fields?_eq := rfl
  instantiate_eq := rfl
  member?_eq half := by cases half <;> rfl

end TypeHandle

theorem MessageDeclaration.isMessage_registration (d : MessageDeclaration) (modulePath : String) :
    (d.registration modulePath).handle.IsMessage (modulePath ++ "." ++ d.name) d.fields :=
  TypeHandle.isMessage_json _ _

theorem ServiceDeclaration.isService_registration (d : ServiceDeclaration) (modulePath : String) :
    (d.registration modulePath).handle.IsService (modulePath ++ "." ++ d.name) d.fields where
  qualifiedName_eq := rfl
  service := ⟨_, _, rfl⟩
  member? half := by cases half <;> exact ⟨_, rfl, TypeHandle.isMessage_json _ _⟩
  instantiate_eq := rfl

/-! ### The registry -/

/-- The registry gives exactly the types that the manifest declares. -/
structure Registry.Holds (r : Registry) (m : Manifest) : Prop where
  service : ∀ {modulePath name d}, m.service? modulePath name = some d →
    ∃ handle, r.lookup modulePath name = .ok handle ∧
      handle.IsService (modulePath ++ "." ++ name) d.fields
  message : ∀ {modulePath name d}, m.service? modulePath name = none →
    m.message? modulePath name = some d →
      ∃ handle, r.lookup modulePath name = .ok handle ∧
        handle.IsMessage (modulePath ++ "." ++ name) d.fields
  undeclaredName : ∀ {modulePath name}, m.service? modulePath name = none →
    m.message? modulePath name = none → m.Declares modulePath →
      r.lookup modulePath name = .error (.symbolNotFound modulePath name)
  undeclaredModule : ∀ {modulePath name}, ¬m.Declares modulePath →
    r.lookup modulePath name = .error (.moduleNotFound modulePath)
  ascending_modulePaths : r.modulePaths.Pairwise (· < ·)
  mem_modulePaths : ∀ modulePath, modulePath ∈ r.modulePaths ↔ m.Declares modulePath

namespace Manifest

variable {m : Manifest} {modulePath name : String}

theorem name_of_service? {d : ServiceDeclaration} (h : m.service? modulePath name = some d) :
    d.name = name := by
  obtain ⟨module, -, hlast⟩ := Option.bind_eq_some_iff.1 h
  exact name_of_lastNamed? hlast

theorem name_of_message? {d : MessageDeclaration} (h : m.message? modulePath name = some d) :
    d.name = name := by
  obtain ⟨module, -, hlast⟩ := Option.bind_eq_some_iff.1 h
  exact name_of_lastNamed? hlast

theorem lookup_toRegistry_of_service {d : ServiceDeclaration}
    (h : m.service? modulePath name = some d) :
    ∃ handle, m.toRegistry.lookup modulePath name = .ok handle ∧
      handle.IsService (modulePath ++ "." ++ name) d.fields := by
  refine ⟨(d.registration modulePath).handle, ?_, ?_⟩
  · rw [toRegistry, Registry.lookup_build, last?_registrations, h]
    rfl
  · rw [← name_of_service? h]
    exact d.isService_registration modulePath

theorem lookup_toRegistry_of_message {d : MessageDeclaration}
    (hservice : m.service? modulePath name = none) (h : m.message? modulePath name = some d) :
    ∃ handle, m.toRegistry.lookup modulePath name = .ok handle ∧
      handle.IsMessage (modulePath ++ "." ++ name) d.fields := by
  refine ⟨(d.registration modulePath).handle, ?_, ?_⟩
  · rw [toRegistry, Registry.lookup_build, last?_registrations, hservice, h]
    rfl
  · rw [← name_of_message? h]
    exact d.isMessage_registration modulePath

theorem lookup_toRegistry_of_undeclared (hservice : m.service? modulePath name = none)
    (hmessage : m.message? modulePath name = none) :
    (m.Declares modulePath →
        m.toRegistry.lookup modulePath name = .error (.symbolNotFound modulePath name)) ∧
      (¬m.Declares modulePath →
        m.toRegistry.lookup modulePath name = .error (.moduleNotFound modulePath)) := by
  rw [toRegistry, Registry.lookup_build, last?_registrations, hservice, hmessage,
    ← mentions_registrations_iff]
  constructor
  · intro hdeclared
    simp [hdeclared]
  · intro hundeclared
    simp [hundeclared]

theorem eq_none_of_not_declares (h : ¬m.Declares modulePath) (name : String) :
    m.service? modulePath name = none ∧ m.message? modulePath name = none := by
  rw [Declares] at h
  rw [service?, message?]
  cases hmodule : m.modules.get? modulePath with
  | none => exact ⟨rfl, rfl⟩
  | some d =>
      simp only [hmodule, Option.some.injEq, exists_eq_left', not_or, not_not] at h
      simp [ModuleDeclaration.service?, ModuleDeclaration.message?, h.1, h.2]

end Manifest

/-- The registry of a manifest has the declared types and no others, and its modules
are those in which a type is declared. -/
theorem Manifest.holds_toRegistry (m : Manifest) : m.toRegistry.Holds m := by
  have hanswers := Registry.answersBy_build m.registrations
  refine ⟨?service, ?message, ?name, ?module, hanswers.ascending_modulePaths, ?paths⟩
  case service =>
    intro modulePath name d h
    exact lookup_toRegistry_of_service h
  case message =>
    intro modulePath name d hservice h
    exact lookup_toRegistry_of_message hservice h
  case name =>
    intro modulePath name hservice hmessage
    exact (lookup_toRegistry_of_undeclared hservice hmessage).1
  case module =>
    intro modulePath name h
    obtain ⟨hservice, hmessage⟩ := eq_none_of_not_declares h name
    exact (lookup_toRegistry_of_undeclared hservice hmessage).2 h
  case paths =>
    intro modulePath
    exact (hanswers.mem_modulePaths modulePath).trans (m.mentions_registrations_iff modulePath)

end TypeResolution
