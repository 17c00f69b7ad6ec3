import TypeResolution.Proofs.Declarations
import TypeResolution.Proofs.Json.Canonical

/-!
The default values that a manifest can declare. A manifest has five containers around the
fields of a declaration, in whichever of the ways it is written, so what has been read is at
most as deep as the reader allows less these five. And the fields are canonical: written out
and read again they are the same (`Manifest.writable_of_message?`,
`Manifest.writable_of_service?`).
-/

namespace TypeResolution

/-- How deep the fields of a declaration can be nested: five containers of the manifest are
open around them. -/
def fieldsRoom : Nat := 122

/-- The fields can be written out as an object, which can stand in a manifest in place of
fields, and are had back from it. -/
structure Json.Writable (fields : Table Json) : Prop where
  fits : (Json.ofTable fields).Fits Number.InRange fieldsRoom
  canonical : Json.membersTable fields.entries = fields

namespace Json

variable {sort : Number → Prop} {n : Nat}

theorem Fits.members {j : Json} (h : j.Fits sort (n + 1)) : ∀ e ∈ j.members, e.2.Fits sort n := by
  cases h with
  | scalar _ => nofun
  | array _ => nofun
  | object h => exact h

theorem Fits.elements {j : Json} (h : j.Fits sort (n + 1)) :
    ∀ element ∈ j.elements, element.Fits sort n := by
  cases h with
  | scalar _ => nofun
  | array h => exact h
  | object _ => nofun

theorem Fits.fieldsOf {j : Json} (h : j.Fits sort (n + 1)) (names : List String) :
    ∀ e ∈ j.fieldsOf names, e.2.Fits sort n := by
  cases h with
  | scalar _ => nofun
  | array h => exact fun e he => h e.2 (List.of_mem_zip he).2
  | object h => exact h

theorem fits_of_mem_elementsNamed {members : List (String × Json)}
    (h : ∀ e ∈ members, e.2.Fits sort (n + 1)) (name : String) :
    ∀ element ∈ elementsNamed name members, element.Fits sort n := by
  rw [elementsNamed]
  cases hmember : member? name members with
  | none => simp
  | some value =>
      obtain ⟨e, he, rfl⟩ := mem_of_member? hmember
      exact (h e he).elements

theorem Fits.moduleMembers {j : Json} (h : j.Fits sort (n + 2)) :
    ∀ e ∈ j.moduleMembers, e.2.Fits sort n := by
  rw [Json.moduleMembers]
  cases hmember : member? "modules" (j.fieldsOf ["modules"]) with
  | none => simp
  | some value =>
      obtain ⟨e, he, rfl⟩ := mem_of_member? hmember
      exact (h.fieldsOf _ e he).members

theorem writable_empty : Writable .empty := ⟨.object nofun, rfl⟩

/-- The fields of a declaration are one of its members, or there are none. -/
theorem writable_tableNamed {members : List (String × Json)}
    (h : ∀ e ∈ members, e.2.Fits Number.InRange fieldsRoom) (part : String) :
    Writable (tableNamed part members) := by
  rw [tableNamed]
  split
  · rename_i fields hmember
    obtain ⟨e, he, hvalue⟩ := mem_of_member? hmember
    have hfields := h e he
    rw [hvalue] at hfields
    exact ⟨hfields.canonical, membersTable_entries fields⟩
  · exact writable_empty

theorem Fits.writable_messageDeclaration {j : Json} (h : j.Fits Number.InRange (fieldsRoom + 1)) :
    Writable j.messageDeclaration.fields := by
  cases h with
  | @scalar _ value _ => cases value <;> exact writable_empty
  | array _ => exact writable_empty
  | object h => exact writable_tableNamed h "fields"

theorem Fits.writable_serviceDeclaration {j : Json} (h : j.Fits Number.InRange (fieldsRoom + 1))
    (half : ServiceMember) : Writable (j.serviceDeclaration.fields half) := by
  cases h with
  | @scalar _ value _ => cases value <;> cases half <;> exact writable_empty
  | array _ => cases half <;> exact writable_empty
  | object h =>
      cases half with
      | request => exact writable_tableNamed h "request"
      | response => exact writable_tableNamed h "response"

theorem exists_of_lastNamed?_map {α : Type} {nameOf : α → String} {name : String} {d : α}
    {declared : Json → α} {elements : List Json}
    (h : lastNamed? nameOf name (elements.map declared) = some d) :
    ∃ element ∈ elements, declared element = d :=
  List.mem_map.1 (mem_of_lastNamed? h)

end Json

namespace Manifest

open Json

/-- The values of a module in a text that has been read have room for the fields of its
declarations. -/
theorem fits_of_module {text : String} {m : Manifest} (h : parse text = .ok m)
    {modulePath : String} {d : ModuleDeclaration} (hmodule : m.modules.get? modulePath = some d) :
    ∃ j : Json, j.moduleDeclaration = d ∧ ∀ name : String,
      ∀ element ∈ elementsNamed name (j.fieldsOf ["messages", "services"]),
        element.Fits Number.InRange (fieldsRoom + 1) := by
  obtain ⟨tree, hparse, -, rfl⟩ := parse_eq_ok_iff.1 h
  rw [get?_modules_manifest, Option.map_eq_some_iff] at hmodule
  obtain ⟨j, hmember, rfl⟩ := hmodule
  obtain ⟨e, he, rfl⟩ := mem_of_member? hmember
  have hmodule : e.2.Fits Number.InRange (fieldsRoom + 3) :=
    (fits_of_parse hparse).moduleMembers e he
  exact ⟨e.2, rfl, fits_of_mem_elementsNamed (hmodule.fieldsOf _)⟩

theorem writable_of_message? {text : String} {m : Manifest} (h : parse text = .ok m)
    {modulePath name : String} {d : MessageDeclaration}
    (hmessage : m.message? modulePath name = some d) : Writable d.fields := by
  obtain ⟨module, hmodule, hlast⟩ := Option.bind_eq_some_iff.1 hmessage
  obtain ⟨j, rfl, hfits⟩ := fits_of_module h hmodule
  obtain ⟨element, helement, rfl⟩ := exists_of_lastNamed?_map hlast
  exact (hfits _ element helement).writable_messageDeclaration

theorem writable_of_service? {text : String} {m : Manifest} (h : parse text = .ok m)
    {modulePath name : String} {d : ServiceDeclaration}
    (hservice : m.service? modulePath name = some d) (half : ServiceMember) :
    Writable (d.fields half) := by
  obtain ⟨module, hmodule, hlast⟩ := Option.bind_eq_some_iff.1 hservice
  obtain ⟨j, rfl, hfits⟩ := fits_of_module h hmodule
  obtain ⟨element, helement, rfl⟩ := exists_of_lastNamed?_map hlast
  exact (hfits _ element helement).writable_serviceDeclaration half

end Manifest

end TypeResolution
