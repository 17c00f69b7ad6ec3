import TypeResolution.Kind
import TypeResolution.TypeHandle

/-!
What a resolver remembers: for each kind of types the handles that it has found,
under the type strings that it was asked for and under their normalized forms.
-/

namespace TypeResolution

structure Caches where
  messages : Table TypeHandle
  services : Table TypeHandle

namespace Caches

def empty : Caches := ⟨.empty, .empty⟩

def table (c : Caches) : Kind → Table TypeHandle
  | .message => c.messages
  | .service => c.services

def get? (c : Caches) (kind : Kind) (key : String) : Option TypeHandle := (c.table kind).get? key

def keys (c : Caches) (kind : Kind) : List String := (c.table kind).keys

def insert (c : Caches) (kind : Kind) (key : String) (handle : TypeHandle) : Caches :=
  match kind with
  | .message => { c with messages := c.messages.insert key handle }
  | .service => { c with services := c.services.insert key handle }

@[simp] theorem get?_empty (kind : Kind) (key : String) : empty.get? kind key = none := by
  cases kind <;> rfl

@[simp] theorem table_insert_self (c : Caches) (kind : Kind) (key : String) (handle : TypeHandle) :
    (c.insert kind key handle).table kind = (c.table kind).insert key handle := by
  cases kind <;> rfl

theorem table_insert_of_ne (c : Caches) {kind other : Kind} (h : other ≠ kind) (key : String)
    (handle : TypeHandle) : (c.insert kind key handle).table other = c.table other := by
  cases kind <;> cases other <;> first | exact absurd rfl h | rfl

theorem get?_insert (c : Caches) (kind other : Kind) (key k : String) (handle : TypeHandle) :
    (c.insert kind key handle).get? other k =
      if other = kind ∧ k = key then some handle else c.get? other k := by
  unfold get?
  by_cases h : other = kind
  · subst h
    simp
  · rw [table_insert_of_ne c h]
    simp [h]

theorem mem_keys_iff {c : Caches} {kind : Kind} {key : String} :
    key ∈ c.keys kind ↔ ∃ handle, c.get? kind key = some handle := by
  rw [keys, Table.mem_keys_iff, Option.isSome_iff_exists, get?]

theorem mem_keys_insert {c : Caches} {kind other : Kind} {key k : String} {handle : TypeHandle} :
    k ∈ (c.insert kind key handle).keys other ↔ (other = kind ∧ k = key) ∨ k ∈ c.keys other := by
  rw [mem_keys_iff, mem_keys_iff, get?_insert]
  by_cases h : other = kind ∧ k = key
  · simp [h]
  · simp [h]

theorem ext_get? {c d : Caches} (h : ∀ kind key, c.get? kind key = d.get? kind key) : c = d := by
  have hmessages : c.messages = d.messages := Table.ext_get? (h .message)
  have hservices : c.services = d.services := Table.ext_get? (h .service)
  cases c
  cases d
  simp_all

/-- An entry is the one inserted last, or was there before. -/
theorem of_get?_insert {c : Caches} {kind other : Kind} {key k : String}
    {handle found : TypeHandle} (h : (c.insert kind key handle).get? other k = some found) :
    (other = kind ∧ k = key ∧ found = handle) ∨ c.get? other k = some found := by
  rw [get?_insert] at h
  split at h
  · rename_i hkey
    cases h
    exact .inl ⟨hkey.1, hkey.2, rfl⟩
  · exact .inr h

end Caches

end TypeResolution
