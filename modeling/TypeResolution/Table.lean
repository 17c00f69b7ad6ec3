/-!
Finite maps with text as keys. The entries are kept in ascending order of their
keys, by code points, so two tables that answer alike are equal and the keys
come out sorted.
-/

namespace TypeResolution

variable {α : Type}

def insertEntry (key : String) (value : α) : List (String × α) → List (String × α)
  | [] => [(key, value)]
  | (k, v) :: rest =>
    if key < k then (key, value) :: (k, v) :: rest
    else if key = k then (key, value) :: rest
    else (k, v) :: insertEntry key value rest

theorem eq_or_mem_of_mem_insertEntry {key : String} {value : α} {entries : List (String × α)}
    {e : String × α} (h : e ∈ insertEntry key value entries) : e = (key, value) ∨ e ∈ entries := by
  induction entries with
  | nil => exact .inl (List.mem_singleton.1 h)
  | cons entry rest ih =>
    unfold insertEntry at h
    split at h
    · exact List.mem_cons.1 h
    · split at h
      · exact (List.mem_cons.1 h).imp_right (List.mem_cons_of_mem _)
      · rcases List.mem_cons.1 h with rfl | h
        · exact .inr List.mem_cons_self
        · exact (ih h).imp_right (List.mem_cons_of_mem _)

theorem ascending_insertEntry (key : String) (value : α) {entries : List (String × α)}
    (h : entries.Pairwise (·.1 < ·.1)) : (insertEntry key value entries).Pairwise (·.1 < ·.1) := by
  induction entries with
  | nil => simp [insertEntry]
  | cons entry rest ih =>
    obtain ⟨hentry, hrest⟩ := List.pairwise_cons.1 h
    unfold insertEntry
    split
    · rename_i hlt
      refine List.pairwise_cons.2 ⟨fun e he => ?_, h⟩
      rcases List.mem_cons.1 he with rfl | he
      · exact hlt
      · exact String.lt_trans hlt (hentry e he)
    · rename_i hlt
      split
      · rename_i heq
        exact List.pairwise_cons.2 ⟨fun e he => heq ▸ hentry e he, hrest⟩
      · rename_i hne
        refine List.pairwise_cons.2 ⟨fun e he => ?_, ih hrest⟩
        rcases eq_or_mem_of_mem_insertEntry he with rfl | he
        · exact Std.lt_of_le_of_ne (String.not_lt.1 hlt) (Ne.symm hne)
        · exact hentry e he

def findEntry (key : String) : List (String × α) → Option α
  | [] => none
  | (k, v) :: rest => if key = k then some v else findEntry key rest

theorem findEntry_insertEntry (key k : String) (value : α) (entries : List (String × α)) :
    findEntry k (insertEntry key value entries) =
      if k = key then some value else findEntry k entries := by
  induction entries with
  | nil => rfl
  | cons entry rest ih =>
    unfold insertEntry
    split
    · rfl
    · split
      · rename_i heq
        by_cases h : k = key <;> simp_all [findEntry]
      · rename_i hne
        by_cases h : k = entry.1
        · simp [findEntry, h, Ne.symm hne]
        · simp [findEntry, h, ih]

theorem findEntry_eq_none {key : String} {entries : List (String × α)}
    (h : ∀ e ∈ entries, key < e.1) : findEntry key entries = none := by
  induction entries with
  | nil => rfl
  | cons entry rest ih =>
    obtain ⟨hentry, hrest⟩ := List.forall_mem_cons.1 h
    rw [findEntry, if_neg (fun heq => String.lt_irrefl _ (heq ▸ hentry)), ih hrest]

theorem le_of_findEntry_eq_some {key k : String} {value v : α} {rest : List (String × α)}
    (h : ((key, value) :: rest).Pairwise (·.1 < ·.1))
    (hfound : findEntry k ((key, value) :: rest) = some v) : key ≤ k := by
  refine String.not_lt.1 fun hlt => ?_
  have hall : ∀ e ∈ (key, value) :: rest, k < e.1 :=
    List.forall_mem_cons.2
      ⟨hlt, fun e he => String.lt_trans hlt ((List.pairwise_cons.1 h).1 e he)⟩
  rw [findEntry_eq_none hall] at hfound
  cases hfound

theorem mem_of_findEntry_eq_some {key : String} {value : α} {entries : List (String × α)}
    (h : findEntry key entries = some value) : (key, value) ∈ entries := by
  induction entries with
  | nil => cases h
  | cons entry rest ih =>
      rw [findEntry] at h
      split at h
      · rename_i heq
        cases h
        exact heq ▸ List.mem_cons_self
      · exact List.mem_cons_of_mem _ (ih h)

theorem findEntry_of_mem {key : String} {value : α} {entries : List (String × α)}
    (h : entries.Pairwise (·.1 < ·.1)) (hmem : (key, value) ∈ entries) :
    findEntry key entries = some value := by
  induction entries with
  | nil => cases hmem
  | cons entry rest ih =>
      obtain ⟨hentry, hrest⟩ := List.pairwise_cons.1 h
      rw [findEntry]
      rcases List.mem_cons.1 hmem with rfl | hmem
      · simp
      · have hne : key ≠ entry.1 := fun heq => String.lt_irrefl _ (heq ▸ hentry _ hmem)
        rw [if_neg hne, ih hrest hmem]

/-- Entries in ascending order are determined by what is found among them. -/
theorem eq_of_findEntry_eq {entries entries' : List (String × α)}
    (h : entries.Pairwise (·.1 < ·.1)) (h' : entries'.Pairwise (·.1 < ·.1))
    (heq : ∀ key, findEntry key entries = findEntry key entries') : entries = entries' := by
  induction entries generalizing entries' with
  | nil =>
    cases entries' with
    | nil => rfl
    | cons entry' rest' => simpa [findEntry] using heq entry'.1
  | cons entry rest ih =>
    cases entries' with
    | nil => simpa [findEntry] using heq entry.1
    | cons entry' rest' =>
      obtain ⟨key, value⟩ := entry
      obtain ⟨key', value'⟩ := entry'
      have hfirst : findEntry key ((key, value) :: rest) = some value := by simp [findEntry]
      have hfirst' : findEntry key' ((key', value') :: rest') = some value' := by simp [findEntry]
      have hkey : key = key' :=
        String.le_antisymm (le_of_findEntry_eq_some h ((heq key').trans hfirst'))
          (le_of_findEntry_eq_some h' ((heq key).symm.trans hfirst))
      subst hkey
      have hvalue : value = value' := Option.some.inj (hfirst.symm.trans ((heq key).trans hfirst'))
      subst hvalue
      obtain ⟨hlt, hrest⟩ := List.pairwise_cons.1 h
      obtain ⟨hlt', hrest'⟩ := List.pairwise_cons.1 h'
      rw [ih hrest hrest' fun k => ?_]
      by_cases hk : k = key
      · rw [hk, findEntry_eq_none hlt, findEntry_eq_none hlt']
      · simpa [findEntry, hk] using heq k

structure Table (α : Type) where
  entries : List (String × α)
  ascending : entries.Pairwise (·.1 < ·.1)

namespace Table

def empty : Table α := ⟨[], .nil⟩

def insert (t : Table α) (key : String) (value : α) : Table α :=
  ⟨insertEntry key value t.entries, ascending_insertEntry key value t.ascending⟩

/-- The table of all entries; of two with the same key the later one counts. -/
def ofList (entries : List (String × α)) : Table α :=
  entries.foldl (fun t e => t.insert e.1 e.2) empty

def get? (t : Table α) (key : String) : Option α := findEntry key t.entries

def contains (t : Table α) (key : String) : Bool := (t.get? key).isSome

def keys (t : Table α) : List String := t.entries.map Prod.fst

def size (t : Table α) : Nat := t.entries.length

def isEmpty (t : Table α) : Bool := t.entries.isEmpty

@[simp] theorem get?_empty (key : String) : (empty : Table α).get? key = none := rfl

@[simp] theorem get?_insert (t : Table α) (key k : String) (value : α) :
    (t.insert key value).get? k = if k = key then some value else t.get? k :=
  findEntry_insertEntry key k value t.entries

theorem ext_get? {t t' : Table α} (h : ∀ key, t.get? key = t'.get? key) : t = t' := by
  obtain ⟨entries, ascending⟩ := t
  obtain ⟨entries', ascending'⟩ := t'
  obtain rfl := eq_of_findEntry_eq ascending ascending' h
  rfl

theorem keys_ascending (t : Table α) : t.keys.Pairwise (· < ·) :=
  List.pairwise_map.2 t.ascending

theorem mem_keys_iff (t : Table α) (key : String) : key ∈ t.keys ↔ (t.get? key).isSome := by
  unfold keys get?
  induction t.entries with
  | nil => simp [findEntry]
  | cons entry rest ih => by_cases h : key = entry.1 <;> simp_all [findEntry]

theorem isEmpty_iff (t : Table α) : t.isEmpty ↔ t.keys = [] := by
  simp [isEmpty, keys]

theorem mem_entries_of_get? {t : Table α} {key : String} {value : α}
    (h : t.get? key = some value) : (key, value) ∈ t.entries :=
  mem_of_findEntry_eq_some h

theorem get?_of_mem_entries {t : Table α} {key : String} {value : α}
    (h : (key, value) ∈ t.entries) : t.get? key = some value :=
  findEntry_of_mem t.ascending h

end Table

end TypeResolution
