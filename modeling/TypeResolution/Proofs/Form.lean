import TypeResolution.Manifest.Decode
import TypeResolution.Proofs.LastNamed
import Mathlib.Data.List.Forall2

/-!
The form of a manifest as a JSON value, and what a value of this form declares. A record
may be written as an object that has none but its own fields, each once, or as an array
with the values of its first fields in their order. Declarations are less strict about
the members that they do not know, and the modules of a manifest may repeat a path. Within
default values the last of equal names counts at every depth (`Json.StoredAs`). All this is
said of whole values, without regard to how they are read.
-/

namespace TypeResolution

namespace Json

/-! ### Records -/

/-- The fields of a record with their values; the elements of an array are the values of
the first fields. -/
def fieldsOf (names : List String) : Json → List (String × Json)
  | .object members => members
  | .array elements => names.zip elements
  | .scalar _ => []

/-- The value is a record: an object has no other fields, and each of them at most once,
and an array has no more elements than there are fields. -/
inductive IsRecord (names : List String) : Json → Prop
  | object {members : List (String × Json)} (known : ∀ e ∈ members, e.1 ∈ names)
      (once : (members.map Prod.fst).Nodup) : IsRecord names (.object members)
  | array {elements : List Json} (few : elements.length ≤ names.length) :
      IsRecord names (.array elements)

/-! ### Members -/

def member? (name : String) (members : List (String × Json)) : Option Json :=
  (lastNamed? Prod.fst name members).map Prod.snd

def textNamed (name : String) (members : List (String × Json)) : String :=
  match member? name members with
  | some (.scalar (.string text)) => text
  | _ => ""

def tableNamed (name : String) (members : List (String × Json)) : Table Json :=
  match member? name members with
  | some (.object fields) => membersTable fields
  | _ => .empty

def elements : Json → List Json
  | .array elements => elements
  | _ => []

def elementsNamed (name : String) (members : List (String × Json)) : List Json :=
  ((member? name members).map elements).getD []

def GivesObjectAtMost (name : String) (members : List (String × Json)) : Prop :=
  membersNamed name members = [] ∨ ∃ fields, membersNamed name members = [.object fields]

/-! ### The parts of a manifest -/

/-- The value declares a type that has the given parts: it is a string, or an object with
one member `name`, a string, and each part at most once, an object. Other members may be
anything. -/
inductive IsDeclaration (parts : List String) : Json → Prop
  | bare (name : String) : IsDeclaration parts (.scalar (.string name))
  | full {members : List (String × Json)} (name : String)
      (named : membersNamed "name" members = [.scalar (.string name)])
      (given : ∀ part ∈ parts, GivesObjectAtMost part members) :
      IsDeclaration parts (.object members)

def IsDeclarations (parts : List String) (j : Json) : Prop :=
  ∃ elements, j = .array elements ∧ ∀ element ∈ elements, IsDeclaration parts element

/-- The value is a record of two lists: of messages, which have fields, and of services,
which have a request and a response. -/
structure IsModule (j : Json) : Prop where
  record : j.IsRecord ["messages", "services"]
  messages : ∀ value, ("messages", value) ∈ j.fieldsOf ["messages", "services"] →
    value.IsDeclarations ["fields"]
  services : ∀ value, ("services", value) ∈ j.fieldsOf ["messages", "services"] →
    value.IsDeclarations ["request", "response"]

def IsModules (j : Json) : Prop := ∃ members, j = .object members ∧ ∀ e ∈ members, e.2.IsModule

structure IsManifest (j : Json) : Prop where
  record : j.IsRecord ["modules"]
  modules : ∀ value, ("modules", value) ∈ j.fieldsOf ["modules"] → value.IsModules

@[simp] theorem isDeclarations_array {parts : List String} {elements : List Json} :
    (array elements).IsDeclarations parts ↔ ∀ element ∈ elements, IsDeclaration parts element := by
  simp [IsDeclarations]

@[simp] theorem isModules_object {members : List (String × Json)} :
    (object members).IsModules ↔ ∀ e ∈ members, e.2.IsModule := by
  simp [IsModules]

/-! ### What a value declares -/

def messageDeclaration : Json → MessageDeclaration
  | .object members => ⟨textNamed "name" members, tableNamed "fields" members⟩
  | .scalar (.string name) => ⟨name, .empty⟩
  | _ => ⟨"", .empty⟩

def serviceDeclaration : Json → ServiceDeclaration
  | .object members =>
    ⟨textNamed "name" members, tableNamed "request" members, tableNamed "response" members⟩
  | .scalar (.string name) => ⟨name, .empty, .empty⟩
  | _ => ⟨"", .empty, .empty⟩

def moduleDeclaration (j : Json) : ModuleDeclaration where
  messages :=
    (elementsNamed "messages" (j.fieldsOf ["messages", "services"])).map messageDeclaration
  services :=
    (elementsNamed "services" (j.fieldsOf ["messages", "services"])).map serviceDeclaration

def members : Json → List (String × Json)
  | .object members => members
  | _ => []

/-- The modules of a manifest under their paths, as they are written. -/
def moduleMembers (j : Json) : List (String × Json) :=
  ((member? "modules" (j.fieldsOf ["modules"])).map members).getD []

def moduleTable (members : List (String × Json)) : Table ModuleDeclaration :=
  .ofList (members.map fun e => (e.1, e.2.moduleDeclaration))

/-- The manifest that a value declares. -/
def manifest (j : Json) : Manifest := ⟨moduleTable j.moduleMembers⟩

/-! ### The last one counts -/

theorem mem_of_member? {name : String} {members : List (String × Json)} {value : Json}
    (h : member? name members = some value) : ∃ e ∈ members, e.2 = value := by
  rw [member?, Option.map_eq_some_iff] at h
  obtain ⟨e, he, rfl⟩ := h
  exact ⟨e, mem_of_lastNamed? he, rfl⟩

theorem get?_membersTable (members : List (String × Json)) (name : String) :
    (membersTable members).get? name = (member? name members).map canonical := by
  rw [membersTable, Table.get?_ofList, canonicalMembers_eq_map, lastNamed?_map, member?,
    Option.map_map, Option.map_map]
  rfl

theorem get?_modules_manifest (j : Json) (path : String) :
    j.manifest.modules.get? path = (member? path j.moduleMembers).map moduleDeclaration := by
  rw [manifest, moduleTable, Table.get?_ofList, lastNamed?_map, member?, Option.map_map,
    Option.map_map]
  rfl

/-! ### Values within values -/

/-- What is kept of a written value: in an object no name is repeated and the names ascend, and
each has what is kept of the last value written under it. -/
inductive StoredAs : Json → Json → Prop
  | scalar (value : Scalar) : StoredAs (.scalar value) (.scalar value)
  | array {written kept : List Json} (each : List.Forall₂ StoredAs written kept) :
      StoredAs (.array written) (.array kept)
  | object {written kept : List (String × Json)} (ascending : kept.Pairwise (·.1 < ·.1))
      (last : ∀ name, Option.Rel StoredAs (member? name written) (member? name kept)) :
      StoredAs (.object written) (.object kept)

theorem get?_eq_member? (t : Table Json) (name : String) :
    t.get? name = member? name t.entries := by
  rw [member?, ← Table.get?_ofList, Table.ofList_entries]

theorem forall₂_iff_eq_map {elements kept : List Json}
    (h : ∀ element ∈ elements, ∀ {value}, element.StoredAs value ↔ value = element.canonical) :
    List.Forall₂ StoredAs elements kept ↔ kept = elements.map canonical := by
  induction elements generalizing kept with
  | nil => simp
  | cons element elements ih =>
      obtain ⟨helement, helements⟩ := List.forall_mem_cons.1 h
      simp [List.forall₂_cons_left_iff, helement, ih helements]

theorem rel_iff_eq_map {member kept : Option Json}
    (h : ∀ element ∈ member, ∀ {value}, element.StoredAs value ↔ value = element.canonical) :
    Option.Rel StoredAs member kept ↔ kept = member.map canonical := by
  cases member with
  | none => cases kept <;> simp
  | some element => cases kept <;> simp [h]

/-- A value is kept in its canonical form, and in no other. -/
theorem storedAs_iff {written value : Json} :
    written.StoredAs value ↔ value = written.canonical := by
  induction written using induct generalizing value with
  | scalar content =>
      constructor
      · rintro ⟨⟩
        rfl
      · rintro rfl
        exact .scalar content
  | array elements ih =>
      rw [canonical_array]
      constructor
      · rintro (_ | each | _)
        rw [(forall₂_iff_eq_map ih).1 each]
      · rintro rfl
        exact .array ((forall₂_iff_eq_map ih).2 rfl)
  | object members ih =>
      have hmember (name : String) (kept : Option Json) :
          Option.Rel StoredAs (member? name members) kept ↔
            kept = (member? name members).map canonical := by
        refine rel_iff_eq_map fun element helement => ?_
        obtain ⟨e, he, rfl⟩ := mem_of_member? helement
        exact ih e he
      have hlast (t : Table Json) :
          (∀ name, Option.Rel StoredAs (member? name members) (member? name t.entries)) ↔
            t = membersTable members := by
        simp only [← get?_eq_member?, hmember, ← get?_membersTable]
        exact ⟨Table.ext_get?, fun h name => h ▸ rfl⟩
      rw [canonical_object]
      constructor
      · rintro (_ | _ | ⟨ascending, last⟩)
        rw [← (hlast ⟨_, ascending⟩).1 last]
        rfl
      · rintro rfl
        exact .object (membersTable members).ascending ((hlast _).2 rfl)

/-! ### Members that are given once -/

theorem member?_eq_getLast? (name : String) (members : List (String × Json)) :
    member? name members = (membersNamed name members).getLast? := by
  rw [member?, lastNamed?, membersNamed, List.getLast?_map, List.getLast?_eq_head?_reverse,
    ← List.filter_reverse, List.head?_filter]

theorem member?_cons_of_ne {name other : String} (h : other ≠ name) (value : Json)
    (members : List (String × Json)) :
    member? name ((other, value) :: members) = member? name members := by
  simp [member?, lastNamed?_cons, h]

theorem member?_eq_none {name : String} {members : List (String × Json)}
    (h : name ∉ members.map Prod.fst) : member? name members = none := by
  rw [member?, Option.map_eq_none_iff, lastNamed?_eq_none_iff]
  intro e he heq
  exact h (heq ▸ List.mem_map_of_mem he)

theorem member?_cons_self {name : String} {members : List (String × Json)}
    (h : name ∉ members.map Prod.fst) (value : Json) :
    member? name ((name, value) :: members) = some value := by
  have hnone := member?_eq_none h
  rw [member?, Option.map_eq_none_iff] at hnone
  simp [member?, lastNamed?_cons, hnone]

theorem elementsNamed_cons_of_ne {name other : String} (h : other ≠ name) (value : Json)
    (members : List (String × Json)) :
    elementsNamed name ((other, value) :: members) = elementsNamed name members := by
  rw [elementsNamed, member?_cons_of_ne h, elementsNamed]

theorem elementsNamed_cons_self {name : String} {members : List (String × Json)}
    (h : name ∉ members.map Prod.fst) (value : Json) :
    elementsNamed name ((name, value) :: members) = value.elements := by
  rw [elementsNamed, member?_cons_self h]
  rfl

theorem textNamed_eq {name text : String} {members : List (String × Json)}
    (h : membersNamed name members = [.scalar (.string text)]) : textNamed name members = text := by
  rw [textNamed, member?_eq_getLast?, h]
  rfl

theorem tableNamed_of_nil {name : String} {members : List (String × Json)}
    (h : membersNamed name members = []) : tableNamed name members = .empty := by
  rw [tableNamed, member?_eq_getLast?, h]
  rfl

theorem tableNamed_of_singleton {name : String} {members fields : List (String × Json)}
    (h : membersNamed name members = [.object fields]) :
    tableNamed name members = membersTable fields := by
  rw [tableNamed, member?_eq_getLast?, h]
  rfl

end Json

/-! ### Declarations -/

open Json

theorem declaredName?_eq_some_iff {members : List (String × Json)} {name : String} :
    declaredName? members = some name ↔ membersNamed "name" members = [.scalar (.string name)] := by
  unfold declaredName?
  constructor
  · intro h
    split at h
    · rename_i heq
      cases h
      exact heq
    · cases h
  · intro h
    rw [h]

theorem declaredFields?_eq_some_iff {part : String} {members : List (String × Json)}
    {fields : Table Json} :
    declaredFields? part members = some fields ↔
      GivesObjectAtMost part members ∧ fields = tableNamed part members := by
  unfold declaredFields?
  constructor
  · intro h
    split at h
    · rename_i heq
      cases h
      exact ⟨.inl heq, (tableNamed_of_nil heq).symm⟩
    · rename_i heq
      cases h
      exact ⟨.inr ⟨_, heq⟩, (tableNamed_of_singleton heq).symm⟩
    · cases h
  · rintro ⟨hnone | ⟨object, hone⟩, rfl⟩
    · rw [tableNamed_of_nil hnone, hnone]
    · rw [tableNamed_of_singleton hone, hone]

theorem MessageDeclaration.ofJson?_eq_some_iff {j : Json} {d : MessageDeclaration} :
    ofJson? j = some d ↔ j.IsDeclaration ["fields"] ∧ d = j.messageDeclaration := by
  cases j with
  | scalar value =>
      cases value with
      | string name =>
          rw [ofJson?, Option.some.injEq, messageDeclaration, eq_comm]
          exact ⟨fun h => ⟨.bare name, h⟩, And.right⟩
      | _ => exact ⟨nofun, nofun⟩
  | array elements => exact ⟨nofun, nofun⟩
  | object members =>
      simp only [ofJson?, Option.bind_eq_bind, Option.bind_eq_some_iff, Option.pure_def,
        Option.some.injEq, declaredName?_eq_some_iff, declaredFields?_eq_some_iff]
      constructor
      · rintro ⟨name, hname, fields, ⟨hgiven, rfl⟩, rfl⟩
        refine ⟨.full name hname (by simpa using hgiven), ?_⟩
        rw [messageDeclaration, textNamed_eq hname]
      · rintro ⟨⟨⟩ | ⟨name, hname, hgiven⟩, rfl⟩
        refine ⟨name, hname, _, ⟨hgiven _ (by simp), rfl⟩, ?_⟩
        rw [messageDeclaration, textNamed_eq hname]

theorem ServiceDeclaration.ofJson?_eq_some_iff {j : Json} {d : ServiceDeclaration} :
    ofJson? j = some d ↔
      j.IsDeclaration ["request", "response"] ∧ d = j.serviceDeclaration := by
  cases j with
  | scalar value =>
      cases value with
      | string name =>
          rw [ofJson?, Option.some.injEq, serviceDeclaration, eq_comm]
          exact ⟨fun h => ⟨.bare name, h⟩, And.right⟩
      | _ => exact ⟨nofun, nofun⟩
  | array elements => exact ⟨nofun, nofun⟩
  | object members =>
      simp only [ofJson?, Option.bind_eq_bind, Option.bind_eq_some_iff, Option.pure_def,
        Option.some.injEq, declaredName?_eq_some_iff, declaredFields?_eq_some_iff]
      constructor
      · rintro ⟨name, hname, request, ⟨hrequest, rfl⟩, response, ⟨hresponse, rfl⟩, rfl⟩
        refine ⟨.full name hname (by simpa using ⟨hrequest, hresponse⟩), ?_⟩
        rw [serviceDeclaration, textNamed_eq hname]
      · rintro ⟨⟨⟩ | ⟨name, hname, hgiven⟩, rfl⟩
        refine ⟨name, hname, _, ⟨hgiven _ (by simp), rfl⟩, _, ⟨hgiven _ (by simp), rfl⟩, ?_⟩
        rw [serviceDeclaration, textNamed_eq hname]

end TypeResolution
