import TypeResolution.Proofs.Form

/-!
Reading a manifest decides its form. The decoder goes through a document from left to
right and takes it apart as it goes, up to the first thing that is wrong. It accepts a
text just if the text is JSON from beginning to end and the value has the form of a
manifest, and gives what the value declares (`Manifest.parse_exact`).

For each part of the document `Decodes` says so of the readings of the part. Where the
fields of a record are taken one after another, `FieldsLeft` says what the members still
to come may be.
-/

namespace TypeResolution

open Json (Reading SyntaxError Document)

variable {α β : Type}

theorem bind_eq_ok_iff {ε : Type} {x : Except ε α} {f : α → Except ε β} {b : β} :
    (x >>= f) = .ok b ↔ ∃ a, x = .ok a ∧ f a = .ok b := by
  cases x <;> simp [bind, Except.bind]

/-! ### Readings of whole values -/

namespace Json.Reading

theorem closed_eq_ok_iff {contents x : α} {ending : Option SyntaxError} :
    closed contents ending = .ok x ↔ ending = none ∧ contents = x := by
  cases ending <;> simp [closed]

theorem exists_toJson_array_iff {elements : List Reading} {ending : Option SyntaxError}
    {p : Json → Prop} :
    (∃ j, (array elements ending).toJson = .ok j ∧ p j) ↔
      ending = none ∧ ∃ values, elementsToJson elements = .ok values ∧ p (.array values) := by
  simp only [toJson, bind_eq_ok_iff, closed_eq_ok_iff]
  constructor
  · rintro ⟨-, ⟨values, hvalues, hending, rfl⟩, hp⟩
    exact ⟨hending, values, hvalues, hp⟩
  · rintro ⟨hending, values, hvalues, hp⟩
    exact ⟨_, ⟨values, hvalues, hending, rfl⟩, hp⟩

theorem exists_toJson_object_iff {members : List (String × Reading)} {ending : Option SyntaxError}
    {p : Json → Prop} :
    (∃ j, (object members ending).toJson = .ok j ∧ p j) ↔
      ending = none ∧ ∃ values, membersToJson members = .ok values ∧ p (.object values) := by
  simp only [toJson, bind_eq_ok_iff, closed_eq_ok_iff]
  constructor
  · rintro ⟨-, ⟨values, hvalues, hending, rfl⟩, hp⟩
    exact ⟨hending, values, hvalues, hp⟩
  · rintro ⟨hending, values, hvalues, hp⟩
    exact ⟨_, ⟨values, hvalues, hending, rfl⟩, hp⟩

theorem exists_elementsToJson_nil_iff {p : List Json → Prop} :
    (∃ values, elementsToJson [] = .ok values ∧ p values) ↔ p [] := by
  simp [elementsToJson]

theorem exists_elementsToJson_cons_iff {element : Reading} {elements : List Reading}
    {p : List Json → Prop} :
    (∃ values, elementsToJson (element :: elements) = .ok values ∧ p values) ↔
      ∃ value, element.toJson = .ok value ∧
        ∃ values, elementsToJson elements = .ok values ∧ p (value :: values) := by
  simp only [elementsToJson, bind_eq_ok_iff, pure, Except.pure, Except.ok.injEq]
  constructor
  · rintro ⟨-, ⟨value, hvalue, values, hvalues, rfl⟩, hp⟩
    exact ⟨value, hvalue, values, hvalues, hp⟩
  · rintro ⟨value, hvalue, values, hvalues, hp⟩
    exact ⟨_, ⟨value, hvalue, values, hvalues, rfl⟩, hp⟩

theorem exists_membersToJson_cons_iff {name : String} {r : Reading}
    {members : List (String × Reading)} {p : List (String × Json) → Prop} :
    (∃ values, membersToJson ((name, r) :: members) = .ok values ∧ p values) ↔
      ∃ value, r.toJson = .ok value ∧
        ∃ values, membersToJson members = .ok values ∧ p ((name, value) :: values) := by
  simp only [membersToJson, bind_eq_ok_iff, pure, Except.pure, Except.ok.injEq]
  constructor
  · rintro ⟨-, ⟨value, hvalue, values, hvalues, rfl⟩, hp⟩
    exact ⟨value, hvalue, values, hvalues, hp⟩
  · rintro ⟨value, hvalue, values, hvalues, hp⟩
    exact ⟨_, ⟨value, hvalue, values, hvalues, rfl⟩, hp⟩

end Json.Reading

open Json.Reading

/-- The decoder accepts just the readings of whole values of the form, and gives what
they declare. -/
def Decodes (decode : Reading → Decoded α) (form : Json → Prop) (declared : Json → α) : Prop :=
  ∀ r x, decode r = .ok x ↔ ∃ j, r.toJson = .ok j ∧ form j ∧ declared j = x

theorem Decodes.exists_iff {decode : Reading → Decoded α} {form : Json → Prop} {declared : Json → α}
    (h : Decodes decode form declared) {r : Reading} {p : α → Prop} :
    (∃ x, decode r = .ok x ∧ p x) ↔ ∃ j, r.toJson = .ok j ∧ form j ∧ p (declared j) := by
  constructor
  · rintro ⟨x, hx, hp⟩
    obtain ⟨j, hj, hform, rfl⟩ := (h r x).1 hx
    exact ⟨j, hj, hform, hp⟩
  · rintro ⟨j, hj, hform, hp⟩
    exact ⟨_, (h r _).2 ⟨j, hj, hform, rfl⟩, hp⟩

namespace Decoded

theorem ended_eq_ok_iff {contents x : α} {ending : Option SyntaxError} :
    ended contents ending = .ok x ↔ ending = none ∧ contents = x := by
  cases ending <;> simp [ended]

theorem endedFields_eq_ok_iff {contents x : α} {ending : Option SyntaxError} :
    endedFields contents ending = .ok x ↔ ending = none ∧ contents = x := by
  unfold endedFields
  split <;> simp_all

/-- A container is accepted if its contents are and it has been read to its end. -/
theorem bind_ended_eq_ok_iff {contents : Decoded α} {f : α → β} {ending : Option SyntaxError}
    {x : β} :
    (contents >>= fun a => ended (f a) ending) = .ok x ↔
      ending = none ∧ ∃ a, contents = .ok a ∧ f a = x := by
  simp only [bind_eq_ok_iff, ended_eq_ok_iff]
  constructor
  · rintro ⟨a, ha, hending, rfl⟩
    exact ⟨hending, a, ha, rfl⟩
  · rintro ⟨hending, a, ha, rfl⟩
    exact ⟨a, ha, hending, rfl⟩

/-- That nothing may follow the last field does not make a difference to what is accepted. -/
theorem bind_endedFields_eq_ok_iff {contents : Decoded α} {f : α → β}
    {ending : Option SyntaxError} {x : β} :
    (contents >>= fun a => endedFields (f a) ending) = .ok x ↔
      (contents >>= fun a => ended (f a) ending) = .ok x := by
  simp only [bind_eq_ok_iff, ended_eq_ok_iff, endedFields_eq_ok_iff]

theorem refuse_ne_ok (part : ManifestPart) (r : Reading) (x : α) : refuse part r ≠ .ok x := by
  cases r <;> simp [refuse]

end Decoded

/-! ### Lists of declarations -/

theorem decodes_declaration {sort : DeclarationSort} {ofJson? : Json → Option α}
    {form : Json → Prop} {declared : Json → α}
    (h : ∀ {j x}, ofJson? j = some x ↔ form j ∧ x = declared j) :
    Decodes (decodeDeclaration sort ofJson?) form declared := by
  intro r x
  unfold decodeDeclaration
  cases r.toJson with
  | error e => simp
  | ok j =>
      simp only [Except.ok.injEq, exists_eq_left', ← eq_comm (a := x), ← h]
      cases ofJson? j <;> simp

theorem decodeDeclarations_eq_ok_iff {sort : DeclarationSort} {ofJson? : Json → Option α}
    {form : Json → Prop} {declared : Json → α}
    (h : Decodes (decodeDeclaration sort ofJson?) form declared) {elements : List Reading}
    {declarations : List α} :
    decodeDeclarations sort ofJson? elements = .ok declarations ↔
      ∃ values, elementsToJson elements = .ok values ∧ (∀ value ∈ values, form value) ∧
        values.map declared = declarations := by
  induction elements generalizing declarations with
  | nil => simp [decodeDeclarations, elementsToJson]
  | cons element elements ih =>
      simp only [decodeDeclarations, bind_eq_ok_iff, h element, ih, exists_elementsToJson_cons_iff,
        List.forall_mem_cons, List.map_cons, pure, Except.pure, Except.ok.injEq]
      constructor
      · rintro ⟨-, ⟨value, hvalue, hform, rfl⟩, -, ⟨values, hvalues, hforms, rfl⟩, rfl⟩
        exact ⟨value, hvalue, values, hvalues, ⟨hform, hforms⟩, rfl⟩
      · rintro ⟨value, hvalue, values, hvalues, ⟨hform, hforms⟩, rfl⟩
        exact ⟨_, ⟨value, hvalue, hform, rfl⟩, _, ⟨values, hvalues, hforms, rfl⟩, rfl⟩

theorem decodes_list {sort : DeclarationSort} {ofJson? : Json → Option α} {parts : List String}
    {declared : Json → α}
    (h : ∀ {j x}, ofJson? j = some x ↔ j.IsDeclaration parts ∧ x = declared j) :
    Decodes (decodeList sort ofJson?) (·.IsDeclarations parts) fun j =>
      j.elements.map declared := by
  intro r declarations
  cases r with
  | array elements ending =>
      rw [decodeList, Decoded.bind_ended_eq_ok_iff, exists_toJson_array_iff]
      simp only [exists_eq_right, decodeDeclarations_eq_ok_iff (decodes_declaration h),
        Json.isDeclarations_array, Json.elements]
  | object members ending =>
      simp [decodeList, Decoded.refuse_ne_ok, exists_toJson_object_iff, Json.IsDeclarations]
  | broken e => simp [decodeList, Decoded.refuse_ne_ok, toJson]
  | scalar value => simp [decodeList, Decoded.refuse_ne_ok, toJson, Json.IsDeclarations]

theorem decodes_messages :
    Decodes decodeMessages (·.IsDeclarations ["fields"]) fun j =>
      j.elements.map Json.messageDeclaration :=
  decodes_list MessageDeclaration.ofJson?_eq_some_iff

theorem decodes_services :
    Decodes decodeServices (·.IsDeclarations ["request", "response"]) fun j =>
      j.elements.map Json.serviceDeclaration :=
  decodes_list ServiceDeclaration.ofJson?_eq_some_iff

/-! ### Fields one after another -/

namespace Json

/-- The members may follow when the fields `used` have been taken: each takes another
field, and its value has the form for the field. -/
def FieldsLeft (form : String → Json → Prop) : List String → List (String × Json) → Prop
  | _, [] => True
  | used, (name, value) :: members =>
    name ∉ used ∧ form name value ∧ FieldsLeft form (name :: used) members

theorem fieldsLeft_iff {form : String → Json → Prop} {used : List String}
    {members : List (String × Json)} :
    FieldsLeft form used members ↔
      (∀ e ∈ members, e.1 ∉ used ∧ form e.1 e.2) ∧ (members.map Prod.fst).Nodup := by
  induction members generalizing used with
  | nil => simp [FieldsLeft]
  | cons e members ih =>
      rw [FieldsLeft, ih, List.forall_mem_cons, List.map_cons, List.nodup_cons]
      simp only [List.mem_cons, not_or]
      constructor
      · rintro ⟨hused, hform, hmembers, hnodup⟩
        refine ⟨⟨⟨hused, hform⟩, fun e' he' => ?_⟩, ?_, hnodup⟩
        · exact ⟨(hmembers e' he').1.2, (hmembers e' he').2⟩
        · intro hmem
          obtain ⟨e', he', heq⟩ := List.mem_map.1 hmem
          exact (hmembers e' he').1.1 heq
      · rintro ⟨⟨⟨hused, hform⟩, hmembers⟩, hfresh, hnodup⟩
        refine ⟨hused, hform, fun e' he' => ?_, hnodup⟩
        obtain ⟨hused', hform'⟩ := hmembers e' he'
        exact ⟨⟨fun heq => hfresh (heq ▸ List.mem_map_of_mem he'), hused'⟩, hform'⟩

theorem FieldsLeft.notMem {form : String → Json → Prop} {used : List String}
    {members : List (String × Json)} (h : FieldsLeft form used members) {name : String}
    (hname : name ∈ used) : name ∉ members.map Prod.fst := by
  intro hmem
  obtain ⟨e, he, rfl⟩ := List.mem_map.1 hmem
  exact ((fieldsLeft_iff.1 h).1 e he).1 hname

end Json

open Json (FieldsLeft)

/-- A field is taken: its value is decoded, and the members after it do not give it
again. -/
theorem exists_field_iff {form : Json → Prop} {field : String → Json → Prop} {name : String}
    {used : List String} {r : Reading} {members : List (String × Reading)} (hused : name ∉ used)
    (hform : ∀ j, field name j ↔ form j) {p : List (String × Json) → Prop}
    {q : Json → List (String × Json) → Prop}
    (hp : ∀ j values, name ∉ values.map Prod.fst → (p ((name, j) :: values) ↔ q j values)) :
    (∃ j, r.toJson = .ok j ∧ form j ∧ ∃ values, membersToJson members = .ok values ∧
        FieldsLeft field (name :: used) values ∧ q j values) ↔
      ∃ j, r.toJson = .ok j ∧ ∃ values, membersToJson members = .ok values ∧
        FieldsLeft field used ((name, j) :: values) ∧ p ((name, j) :: values) := by
  constructor
  · rintro ⟨j, hj, hvalue, values, hvalues, hleft, hq⟩
    have hlast := hleft.notMem List.mem_cons_self
    exact ⟨j, hj, values, hvalues, ⟨hused, (hform j).2 hvalue, hleft⟩, (hp j values hlast).2 hq⟩
  · rintro ⟨j, hj, values, hvalues, ⟨-, hvalue, hleft⟩, hq⟩
    have hlast := hleft.notMem List.mem_cons_self
    exact ⟨j, hj, (hform j).1 hvalue, values, hvalues, hleft, (hp j values hlast).1 hq⟩

/-! ### Modules -/

namespace Json

def ModuleField (name : String) (value : Json) : Prop :=
  (name = "messages" ∧ value.IsDeclarations ["fields"]) ∨
    (name = "services" ∧ value.IsDeclarations ["request", "response"])

def moduleWith (messages : Option (List MessageDeclaration))
    (services : Option (List ServiceDeclaration)) (members : List (String × Json)) :
    ModuleDeclaration where
  messages := messages.getD ((elementsNamed "messages" members).map messageDeclaration)
  services := services.getD ((elementsNamed "services" members).map serviceDeclaration)

theorem moduleWith_messages {members : List (String × Json)} (j : Json)
    (services : Option (List ServiceDeclaration)) (h : "messages" ∉ members.map Prod.fst) :
    moduleWith none services (("messages", j) :: members) =
      moduleWith (some (j.elements.map messageDeclaration)) services members := by
  rw [moduleWith, elementsNamed_cons_self h, elementsNamed_cons_of_ne (by decide)]
  rfl

theorem moduleWith_services {members : List (String × Json)} (j : Json)
    (messages : Option (List MessageDeclaration)) (h : "services" ∉ members.map Prod.fst) :
    moduleWith messages none (("services", j) :: members) =
      moduleWith messages (some (j.elements.map serviceDeclaration)) members := by
  rw [moduleWith, elementsNamed_cons_self h, elementsNamed_cons_of_ne (by decide)]
  rfl

end Json

open Json (ModuleField moduleWith)

/-- The rest of the members of a module is accepted, when the fields `used` have been taken,
if they are the fields left and have their forms. -/
theorem decodeModuleMembers_eq_ok_iff {members : List (String × Reading)}
    {messages : Option (List MessageDeclaration)} {services : Option (List ServiceDeclaration)}
    {used : List String} (hmessages : "messages" ∈ used ↔ messages.isSome)
    (hservices : "services" ∈ used ↔ services.isSome) {d : ModuleDeclaration} :
    decodeModuleMembers messages services members = .ok d ↔
      ∃ values, membersToJson members = .ok values ∧ FieldsLeft ModuleField used values ∧
        moduleWith messages services values = d := by
  induction members generalizing messages services used with
  | nil =>
      simp [decodeModuleMembers, membersToJson, FieldsLeft, moduleWith, Json.elementsNamed,
        Json.member?]
  | cons member members ih =>
      obtain ⟨name, r⟩ := member
      rw [decodeModuleMembers, exists_membersToJson_cons_iff]
      split
      · rename_i hname
        subst hname
        cases messages with
        | some declared => simp [FieldsLeft, hmessages]
        | none =>
            have hrest (declared : List MessageDeclaration) :=
              ih (show "messages" ∈ "messages" :: used ↔ (some declared).isSome by simp)
                (show "services" ∈ "messages" :: used ↔ services.isSome by simpa using hservices)
            simp only [Option.isSome_none, Bool.false_eq_true, if_false, bind_eq_ok_iff,
              hrest, decodes_messages.exists_iff]
            refine exists_field_iff (p := fun values => moduleWith none services values = d)
              (by simp [hmessages]) (fun j => by simp [ModuleField]) fun j values hlast => ?_
            rw [Json.moduleWith_messages j services hlast]
      · split
        · rename_i hname
          subst hname
          cases services with
          | some declared => simp [FieldsLeft, hservices]
          | none =>
              have hrest (declared : List ServiceDeclaration) :=
                ih (show "messages" ∈ "services" :: used ↔ messages.isSome by simpa using hmessages)
                  (show "services" ∈ "services" :: used ↔ (some declared).isSome by simp)
              simp only [Option.isSome_none, Bool.false_eq_true, if_false, bind_eq_ok_iff,
                hrest, decodes_services.exists_iff]
              refine exists_field_iff (p := fun values => moduleWith messages none values = d)
                (by simp [hservices]) (fun j => by simp [ModuleField]) fun j values hlast => ?_
              rw [Json.moduleWith_services j messages hlast]
        · rename_i hmessages' hservices'
          simp [FieldsLeft, ModuleField, hmessages', hservices']

namespace Json

theorem isModule_object_iff {members : List (String × Json)} :
    (object members).IsModule ↔ FieldsLeft ModuleField [] members := by
  rw [fieldsLeft_iff]
  constructor
  · rintro ⟨⟨known, once⟩, hmessages, hservices⟩
    refine ⟨fun ⟨name, value⟩ he => ⟨List.not_mem_nil, ?_⟩, once⟩
    have hname := known _ he
    simp only [List.mem_cons, List.not_mem_nil, or_false] at hname
    rcases hname with rfl | rfl
    · exact .inl ⟨rfl, hmessages value he⟩
    · exact .inr ⟨rfl, hservices value he⟩
  · rintro ⟨hfields, once⟩
    refine ⟨.object (fun e he => ?_) once, fun value he => ?_, fun value he => ?_⟩
    · rcases (hfields e he).2 with ⟨hname, -⟩ | ⟨hname, -⟩ <;> simp [hname]
    · simpa [ModuleField] using (hfields _ he).2
    · simpa [ModuleField] using (hfields _ he).2

theorem isModule_array_iff {elements : List Json} :
    (array elements).IsModule ↔
      match elements with
      | [] => True
      | [messages] => messages.IsDeclarations ["fields"]
      | [messages, services] =>
        messages.IsDeclarations ["fields"] ∧ services.IsDeclarations ["request", "response"]
      | _ => False := by
  constructor
  · intro h
    obtain ⟨record, hmessages, hservices⟩ := h
    match elements with
    | [] => trivial
    | [messages] => exact hmessages _ (by simp [fieldsOf])
    | [messages, services] =>
      exact ⟨hmessages _ (by simp [fieldsOf]), hservices _ (by simp [fieldsOf])⟩
    | _ :: _ :: _ :: _ => cases record with | array few => simp at few
  · intro h
    match elements with
    | [] => exact ⟨.array (by simp), by simp [fieldsOf], by simp [fieldsOf]⟩
    | [messages] => exact ⟨.array (by simp), by simpa [fieldsOf] using h, by simp [fieldsOf]⟩
    | [messages, services] =>
      exact ⟨.array (by simp), by simpa [fieldsOf] using h.1, by simpa [fieldsOf] using h.2⟩

theorem moduleDeclaration_array_nil : moduleDeclaration (array []) = .empty := rfl

theorem moduleDeclaration_array_one (messages : Json) :
    moduleDeclaration (array [messages]) = ⟨messages.elements.map messageDeclaration, []⟩ := by
  simp [moduleDeclaration, fieldsOf, elementsNamed, member?, lastNamed?]

theorem moduleDeclaration_array_two (messages services : Json) :
    moduleDeclaration (array [messages, services]) =
      ⟨messages.elements.map messageDeclaration, services.elements.map serviceDeclaration⟩ := by
  simp [moduleDeclaration, fieldsOf, elementsNamed, member?, lastNamed?]

end Json

theorem decodes_module : Decodes decodeModule Json.IsModule Json.moduleDeclaration := by
  intro r d
  cases r with
  | broken e => simp [decodeModule, Decoded.refuse_ne_ok, toJson]
  | scalar value =>
      have hform : ¬(Json.scalar value).IsModule := by rintro ⟨⟨⟩, -, -⟩
      simp [decodeModule, Decoded.refuse_ne_ok, toJson, hform]
  | object members ending =>
      have hmembers (d : ModuleDeclaration) :
          decodeModuleMembers none none members = .ok d ↔
            ∃ values, membersToJson members = .ok values ∧ (Json.object values).IsModule ∧
              (Json.object values).moduleDeclaration = d := by
        simp only [Json.isModule_object_iff]
        exact decodeModuleMembers_eq_ok_iff (by simp) (by simp)
      rw [decodeModule, Decoded.bind_ended_eq_ok_iff, exists_toJson_object_iff]
      simp only [exists_eq_right, hmembers]
  | array elements ending =>
      rw [exists_toJson_array_iff]
      match elements with
      | [] =>
          simp only [decodeModule, Decoded.ended_eq_ok_iff, exists_elementsToJson_nil_iff,
            Json.isModule_array_iff, Json.moduleDeclaration_array_nil, true_and]
      | [messages] =>
          rw [decodeModule, Decoded.bind_ended_eq_ok_iff]
          simp only [decodes_messages.exists_iff, exists_elementsToJson_cons_iff,
            exists_elementsToJson_nil_iff, Json.isModule_array_iff,
            Json.moduleDeclaration_array_one]
      | [messages, services] =>
          rw [decodeModule, bind_eq_ok_iff]
          simp only [Decoded.bind_endedFields_eq_ok_iff, Decoded.bind_ended_eq_ok_iff,
            decodes_messages.exists_iff, decodes_services.exists_iff,
            exists_elementsToJson_cons_iff, exists_elementsToJson_nil_iff,
            Json.isModule_array_iff, Json.moduleDeclaration_array_two]
          constructor
          · rintro ⟨j, hj, hform, hending, j', hj', hform', rfl⟩
            exact ⟨hending, j, hj, j', hj', ⟨hform, hform'⟩, rfl⟩
          · rintro ⟨hending, j, hj, j', hj', ⟨hform, hform'⟩, rfl⟩
            exact ⟨j, hj, hform, hending, j', hj', hform', rfl⟩
      | messages :: services :: third :: rest =>
          simp [decodeModule, bind_eq_ok_iff, exists_elementsToJson_cons_iff,
            Json.isModule_array_iff]

theorem decodeModuleEntries_eq_ok_iff {members : List (String × Reading)}
    {modules : List (String × ModuleDeclaration)} :
    decodeModuleEntries members = .ok modules ↔
      ∃ values, membersToJson members = .ok values ∧ (∀ e ∈ values, e.2.IsModule) ∧
        values.map (fun e => (e.1, e.2.moduleDeclaration)) = modules := by
  induction members generalizing modules with
  | nil => simp [decodeModuleEntries, membersToJson]
  | cons member members ih =>
      obtain ⟨path, r⟩ := member
      simp only [decodeModuleEntries, bind_eq_ok_iff, decodes_module r, ih,
        exists_membersToJson_cons_iff, List.forall_mem_cons, List.map_cons, pure, Except.pure,
        Except.ok.injEq]
      constructor
      · rintro ⟨-, ⟨value, hvalue, hform, rfl⟩, -, ⟨values, hvalues, hforms, rfl⟩, rfl⟩
        exact ⟨value, hvalue, values, hvalues, ⟨hform, hforms⟩, rfl⟩
      · rintro ⟨value, hvalue, values, hvalues, ⟨hform, hforms⟩, rfl⟩
        exact ⟨_, ⟨value, hvalue, hform, rfl⟩, _, ⟨values, hvalues, hforms, rfl⟩, rfl⟩

theorem decodes_modules :
    Decodes decodeModules Json.IsModules fun j => Json.moduleTable j.members := by
  intro r modules
  cases r with
  | broken e => simp [decodeModules, Decoded.refuse_ne_ok, toJson]
  | scalar value => simp [decodeModules, Decoded.refuse_ne_ok, toJson, Json.IsModules]
  | array elements ending =>
      simp [decodeModules, Decoded.refuse_ne_ok, exists_toJson_array_iff, Json.IsModules]
  | object members ending =>
      rw [decodeModules, Decoded.bind_ended_eq_ok_iff, exists_toJson_object_iff]
      simp only [decodeModuleEntries_eq_ok_iff, Json.isModules_object]
      refine and_congr_right fun _ => ?_
      constructor
      · rintro ⟨-, ⟨values, hvalues, hforms, rfl⟩, rfl⟩
        exact ⟨values, hvalues, hforms, rfl⟩
      · rintro ⟨values, hvalues, hforms, rfl⟩
        exact ⟨_, ⟨values, hvalues, hforms, rfl⟩, rfl⟩

/-! ### Manifests -/

namespace Json

def DocumentField (name : String) (value : Json) : Prop := name = "modules" ∧ value.IsModules

def manifestWith (modules : Option (Table ModuleDeclaration)) (values : List (String × Json)) :
    Manifest :=
  ⟨modules.getD (moduleTable (((member? "modules" values).map members).getD []))⟩

theorem manifestWith_modules {values : List (String × Json)} (j : Json)
    (h : "modules" ∉ values.map Prod.fst) :
    manifestWith none (("modules", j) :: values) =
      manifestWith (some (moduleTable j.members)) values := by
  rw [manifestWith, member?_cons_self h]
  rfl

theorem isManifest_object_iff {members : List (String × Json)} :
    (object members).IsManifest ↔ FieldsLeft DocumentField [] members := by
  rw [fieldsLeft_iff]
  constructor
  · rintro ⟨⟨known, once⟩, hmodules⟩
    refine ⟨fun ⟨name, value⟩ he => ⟨List.not_mem_nil, ?_⟩, once⟩
    obtain rfl : name = "modules" := by simpa using known _ he
    exact ⟨rfl, hmodules value he⟩
  · rintro ⟨hfields, once⟩
    exact ⟨.object (fun e he => by simp [(hfields e he).2.1]) once,
      fun value he => (hfields _ he).2.2⟩

theorem isManifest_array_iff {elements : List Json} :
    (array elements).IsManifest ↔
      match elements with
      | [] => True
      | [modules] => modules.IsModules
      | _ => False := by
  constructor
  · intro h
    obtain ⟨record, hmodules⟩ := h
    match elements with
    | [] => trivial
    | [modules] => exact hmodules _ (by simp [fieldsOf])
    | _ :: _ :: _ => cases record with | array few => simp at few
  · intro h
    match elements with
    | [] => exact ⟨.array (by simp), by simp [fieldsOf]⟩
    | [modules] => exact ⟨.array (by simp), by simpa [fieldsOf] using h⟩

theorem manifest_array_nil : manifest (array []) = .empty := rfl

theorem manifest_array_one (modules : Json) :
    manifest (array [modules]) = ⟨moduleTable modules.members⟩ := by
  simp [manifest, moduleMembers, fieldsOf, member?, lastNamed?]

end Json

open Json (DocumentField manifestWith)

theorem decodeDocumentMembers_eq_ok_iff {members : List (String × Reading)}
    {modules : Option (Table ModuleDeclaration)} {used : List String}
    (hmodules : "modules" ∈ used ↔ modules.isSome) {m : Manifest} :
    decodeDocumentMembers modules members = .ok m ↔
      ∃ values, membersToJson members = .ok values ∧ FieldsLeft DocumentField used values ∧
        manifestWith modules values = m := by
  induction members generalizing modules used with
  | nil =>
      have hnone : Json.moduleTable [] = .empty := rfl
      simp [decodeDocumentMembers, membersToJson, FieldsLeft, manifestWith, Json.member?, hnone]
  | cons member members ih =>
      obtain ⟨name, r⟩ := member
      rw [decodeDocumentMembers, exists_membersToJson_cons_iff]
      split
      · rename_i hname
        subst hname
        cases modules with
        | some declared => simp [FieldsLeft, hmodules]
        | none =>
            have hrest (declared : Table ModuleDeclaration) :=
              ih (show "modules" ∈ "modules" :: used ↔ (some declared).isSome by simp)
            simp only [Option.isSome_none, Bool.false_eq_true, if_false, bind_eq_ok_iff,
              hrest, decodes_modules.exists_iff]
            refine exists_field_iff (p := fun values => manifestWith none values = m)
              (by simp [hmodules]) (fun j => by simp [DocumentField]) fun j values hlast => ?_
            rw [Json.manifestWith_modules j hlast]
      · rename_i hmodules'
        simp [FieldsLeft, DocumentField, hmodules']

theorem decodes_root : Decodes decodeRoot Json.IsManifest Json.manifest := by
  intro r m
  cases r with
  | broken e => simp [decodeRoot, Decoded.refuse_ne_ok, toJson]
  | scalar value =>
      have hform : ¬(Json.scalar value).IsManifest := by rintro ⟨⟨⟩, -⟩
      simp [decodeRoot, Decoded.refuse_ne_ok, toJson, hform]
  | object members ending =>
      have hmembers (m : Manifest) :
          decodeDocumentMembers none members = .ok m ↔
            ∃ values, membersToJson members = .ok values ∧ (Json.object values).IsManifest ∧
              (Json.object values).manifest = m := by
        simp only [Json.isManifest_object_iff]
        exact decodeDocumentMembers_eq_ok_iff (by simp)
      rw [decodeRoot, Decoded.bind_ended_eq_ok_iff, exists_toJson_object_iff]
      simp only [exists_eq_right, hmembers]
  | array elements ending =>
      rw [exists_toJson_array_iff]
      match elements with
      | [] =>
          simp only [decodeRoot, Decoded.ended_eq_ok_iff, exists_elementsToJson_nil_iff,
            Json.isManifest_array_iff, Json.manifest_array_nil, true_and]
      | [modules] =>
          rw [decodeRoot, Decoded.bind_endedFields_eq_ok_iff, Decoded.bind_ended_eq_ok_iff]
          simp only [decodes_modules.exists_iff, exists_elementsToJson_cons_iff,
            exists_elementsToJson_nil_iff, Json.isManifest_array_iff, Json.manifest_array_one]
      | modules :: second :: rest =>
          simp [decodeRoot, bind_eq_ok_iff, exists_elementsToJson_cons_iff,
            Json.isManifest_array_iff]

namespace Manifest

theorem ofDocument_eq_ok_iff {d : Document} {m : Manifest} :
    ofDocument d = .ok m ↔ ∃ tree, d.toJson = .ok tree ∧ tree.IsManifest ∧ tree.manifest = m := by
  simp only [ofDocument, Document.toJson, bind_eq_ok_iff, decodes_root d.root]
  cases d.trailing with
  | true => simp
  | false =>
      simp only [Bool.false_eq_true, if_false, Except.ok.injEq, exists_eq_right]

theorem parse_eq_ok_iff {text : String} {m : Manifest} :
    parse text = .ok m ↔
      ∃ tree, Json.parse text = .ok tree ∧ tree.IsManifest ∧ tree.manifest = m :=
  ofDocument_eq_ok_iff

/-- A text is accepted just if it is JSON from beginning to end and its value has the form
of a manifest; the result is the manifest that the value declares. In it each path has the
last module written under the path, and in a table of default values each field has the
last value given under its name, in which the same goes for every object at every depth. -/
theorem parse_exact (text : String) :
    (∀ m, parse text = .ok m ↔
      ∃ tree, Json.parse text = .ok tree ∧ tree.IsManifest ∧ tree.manifest = m) ∧
    (∀ (tree : Json) (path : String),
      tree.manifest.modules.get? path =
        (Json.member? path tree.moduleMembers).map Json.moduleDeclaration) ∧
    (∀ (members : List (String × Json)) (name : String),
      (Json.membersTable members).get? name = (Json.member? name members).map Json.canonical) ∧
    ∀ written value : Json, written.StoredAs value ↔ value = written.canonical :=
  ⟨fun _ => parse_eq_ok_iff, Json.get?_modules_manifest, Json.get?_membersTable,
    fun _ _ => Json.storedAs_iff⟩

end Manifest

end TypeResolution
