import TypeResolution.Proofs.Json.Limits

/-!
Canonical values. What is canonical already stays as it is, so a table of members that has been
written out is the same table when it is read (`Json.membersTable_entries`). A value gets no
deeper and no other numbers by being made canonical.
-/

namespace TypeResolution.Json

theorem exists_of_mem_membersTable {members : List (String × Json)} {e : String × Json}
    (h : e ∈ (membersTable members).entries) : ∃ m ∈ members, (m.1, m.2.canonical) = e := by
  have hmem := Table.mem_of_mem_ofList h
  rw [canonicalMembers_eq_map] at hmem
  exact List.mem_map.1 hmem

theorem Fits.canonical {sort : Number → Prop} {n : Nat} {j : Json} (h : j.Fits sort n) :
    j.canonical.Fits sort n := by
  induction h with
  | scalar h => exact .scalar h
  | array _ ih =>
      rw [canonical_array]
      refine .array fun value hvalue => ?_
      obtain ⟨element, helement, rfl⟩ := List.mem_map.1 hvalue
      exact ih element helement
  | object _ ih =>
      rw [canonical_object]
      refine .object fun e he => ?_
      obtain ⟨member, hmember, rfl⟩ := exists_of_mem_membersTable he
      exact ih member hmember

theorem membersTable_entries_of_canonical {members : List (String × Json)}
    (h : ∀ e ∈ members, e.2.canonical.canonical = e.2.canonical) :
    membersTable (membersTable members).entries = membersTable members := by
  have hvalues : ∀ e ∈ (membersTable members).entries, (e.1, e.2.canonical) = id e := by
    intro e he
    obtain ⟨member, hmember, rfl⟩ := exists_of_mem_membersTable he
    exact Prod.ext rfl (h member hmember)
  have hmap := List.map_congr_left hvalues
  rw [membersTable, canonicalMembers_eq_map, hmap, List.map_id, Table.ofList_entries]

theorem canonical_canonical (j : Json) : j.canonical.canonical = j.canonical := by
  induction j using induct with
  | scalar value => rfl
  | array elements ih =>
      have hmap : (elements.map canonical).map canonical = elements.map canonical := by
        rw [List.map_map]
        exact List.map_congr_left ih
      rw [canonical_array, canonical_array, hmap]
  | object members ih =>
      rw [canonical_object, ofTable, canonical_object, membersTable_entries_of_canonical ih, ofTable]

/-- The table of an object's members can be written out as an object and is had back from it. -/
theorem membersTable_entries (members : List (String × Json)) :
    membersTable (membersTable members).entries = membersTable members :=
  membersTable_entries_of_canonical fun e _ => canonical_canonical e.2

end TypeResolution.Json
