import TypeResolution.Table

/-!
Names that are given more than once. Of several things with one name the last one
counts; a table that is made from a list of entries goes by this rule
(`Table.get?_ofList`).
-/

namespace TypeResolution

variable {α β : Type}

/-- The last of the items that has the name. -/
def lastNamed? (nameOf : α → String) (name : String) (items : List α) : Option α :=
  items.reverse.find? fun x => nameOf x = name

variable {nameOf : α → String} {name : String} {items : List α} {x : α}

@[simp] theorem lastNamed?_nil : lastNamed? nameOf name [] = none := rfl

theorem lastNamed?_append (items later : List α) :
    lastNamed? nameOf name (items ++ later) =
      (lastNamed? nameOf name later).or (lastNamed? nameOf name items) := by
  rw [lastNamed?, List.reverse_append, List.find?_append]
  rfl

theorem lastNamed?_singleton (x : α) :
    lastNamed? nameOf name [x] = if nameOf x = name then some x else none := by
  by_cases h : nameOf x = name <;> simp [lastNamed?, h]

theorem lastNamed?_cons (x : α) (items : List α) :
    lastNamed? nameOf name (x :: items) =
      (lastNamed? nameOf name items).or (if nameOf x = name then some x else none) := by
  rw [← List.singleton_append, lastNamed?_append, lastNamed?_singleton]

theorem lastNamed?_map (f : β → α) (items : List β) :
    lastNamed? nameOf name (items.map f) = (lastNamed? (nameOf ∘ f) name items).map f := by
  rw [lastNamed?, ← List.map_reverse, List.find?_map]
  rfl

theorem name_of_lastNamed? (h : lastNamed? nameOf name items = some x) : nameOf x = name := by
  rw [lastNamed?] at h
  simpa using List.find?_some h

theorem lastNamed?_eq_none_iff :
    lastNamed? nameOf name items = none ↔ ∀ x ∈ items, nameOf x ≠ name := by
  simp [lastNamed?, List.find?_eq_none]

theorem mem_of_lastNamed? (h : lastNamed? nameOf name items = some x) : x ∈ items := by
  rw [lastNamed?] at h
  exact List.mem_reverse.1 (List.mem_of_find?_eq_some h)

/-- A table of entries holds for each key what the last entry with the key gives. -/
theorem Table.get?_ofList (entries : List (String × α)) (key : String) :
    (ofList entries).get? key = (lastNamed? Prod.fst key entries).map Prod.snd := by
  suffices h : ∀ t : Table α, (entries.foldl (fun t e => t.insert e.1 e.2) t).get? key =
      ((lastNamed? Prod.fst key entries).map Prod.snd).or (t.get? key) by
    simpa [ofList] using h empty
  induction entries with
  | nil => simp
  | cons e entries ih =>
      intro t
      rw [List.foldl_cons, ih, Table.get?_insert, lastNamed?_cons]
      cases lastNamed? Prod.fst key entries with
      | some last => rfl
      | none => by_cases h : e.1 = key <;> simp [h, Ne.symm]

theorem Table.mem_of_mem_ofList {entries : List (String × α)} {e : String × α}
    (h : e ∈ (ofList entries).entries) : e ∈ entries := by
  have hget := get?_of_mem_entries (show (e.1, e.2) ∈ (ofList entries).entries from h)
  rw [get?_ofList, Option.map_eq_some_iff] at hget
  obtain ⟨last, hlast, hvalue⟩ := hget
  have heq : last = e := Prod.ext (name_of_lastNamed? hlast) hvalue
  exact heq ▸ mem_of_lastNamed? hlast

theorem Table.ofList_entries (t : Table α) : ofList t.entries = t := by
  refine ext_get? fun key => ?_
  rw [get?_ofList]
  cases hget : t.get? key with
  | none =>
      rw [Option.map_eq_none_iff, lastNamed?_eq_none_iff]
      rintro e he rfl
      rw [get?_of_mem_entries (show (e.1, e.2) ∈ t.entries from he)] at hget
      cases hget
  | some value =>
      cases hlast : lastNamed? Prod.fst key t.entries with
      | none =>
          exact absurd rfl (lastNamed?_eq_none_iff.1 hlast _ (mem_entries_of_get? hget))
      | some e =>
          have hmem : (key, e.2) ∈ t.entries := name_of_lastNamed? hlast ▸ mem_of_lastNamed? hlast
          rw [get?_of_mem_entries hmem] at hget
          exact hget

end TypeResolution
