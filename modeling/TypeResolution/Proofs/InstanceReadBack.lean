import TypeResolution.Proofs.DeclaredFields
import TypeResolution.Proofs.InstanceCommand
import TypeResolution.Proofs.Json.ReadBack

/-!
Printed instances as parts of manifests. What the command `instance` prints can be put in a
manifest as the fields of a message, and the command prints the same for that message
(`CommandLine.instance_reads_back`). Only floating-point numbers are left out.
-/

namespace TypeResolution

open Json (Writable Lexes Fits)

/-! ### A manifest with one message -/

def Manifest.single (modulePath : String) (d : MessageDeclaration) : Manifest :=
  ⟨.ofList [(modulePath, ⟨[d], []⟩)]⟩

namespace Json

/-- The text is read as a string, whatever follows it. -/
def Spells (written content : String) : Prop :=
  ∀ rest, Lexing.between.tokens (written.toList ++ rest) =
    .string (.ok content) :: Lexing.between.tokens rest

theorem spells_stringText (content : String) :
    Spells (String.ofList (stringText content)) content := by
  rw [Spells, String.toList_ofList]
  exact tokens_stringText content

def messageEntry (name : String) (fields : Table Json) : Json :=
  .object [("name", .scalar (.string name)), ("fields", ofTable fields)]

def oneMessage (modulePath name : String) (fields : Table Json) : Json :=
  .object [("modules", .object [(modulePath,
    .object [("messages", .array [messageEntry name fields])])])]

def oneMessageText (modulePath name fields : String) : String :=
  "\x7b\"modules\":\x7b" ++ modulePath ++ ":\x7b\"messages\":[\x7b\"name\":" ++ name ++
    ",\"fields\":" ++ fields ++ "\x7d]\x7d\x7d\x7d"

variable {modulePath name : String} {fields : Table Json}

theorem isDeclaration_messageEntry : (messageEntry name fields).IsDeclaration ["fields"] :=
  .full name rfl (List.forall_mem_singleton.2 (.inr ⟨fields.entries, rfl⟩))

theorem messageDeclaration_messageEntry (h : Writable fields) :
    (messageEntry name fields).messageDeclaration = ⟨name, fields⟩ := by
  change MessageDeclaration.mk name (membersTable fields.entries) = _
  rw [h.canonical]

theorem isManifest_oneMessage : (oneMessage modulePath name fields).IsManifest := by
  have hlist : (array [messageEntry name fields]).IsDeclarations ["fields"] :=
    isDeclarations_array.2 (List.forall_mem_singleton.2 isDeclaration_messageEntry)
  have hmodule : (object [("messages", array [messageEntry name fields])]).IsModule :=
    isModule_object_iff.2 ⟨nofun, .inl ⟨rfl, hlist⟩, trivial⟩
  refine isManifest_object_iff.2 ⟨nofun, ⟨rfl, isModules_object.2 ?_⟩, trivial⟩
  intro e he
  rw [List.mem_singleton.1 he]
  exact hmodule

theorem manifest_oneMessage (h : Writable fields) :
    (oneMessage modulePath name fields).manifest = .single modulePath ⟨name, fields⟩ := by
  rw [Manifest.single, ← messageDeclaration_messageEntry h]
  rfl

theorem fits_singleton {sort : Number → Prop} {n : Nat} {value : Json} (h : value.Fits sort n)
    (name : String) : (object [(name, value)]).Fits sort (n + 1) := by
  refine .object fun e he => ?_
  rw [List.mem_singleton.1 he]
  exact h

/-- There is just the room that the fields of a declaration need. -/
theorem fits_oneMessage {sort : Number → Prop} (h : (ofTable fields).Fits sort fieldsRoom) :
    (oneMessage modulePath name fields).Fits sort depthLimit := by
  have hentry : (messageEntry name fields).Fits sort (fieldsRoom + 1) := by
    refine .object (List.forall_mem_cons.2 ⟨.scalar nofun, fun e he => ?_⟩)
    rw [List.mem_singleton.1 he]
    exact h
  have hlist : (array [messageEntry name fields]).Fits sort (fieldsRoom + 2) :=
    .array (List.forall_mem_singleton.2 hentry)
  exact fits_singleton (fits_singleton (fits_singleton hlist _) _) _

theorem tokenize_oneMessageText {writtenPath writtenName : String}
    (hpath : Spells writtenPath modulePath) (hname : Spells writtenName name)
    (hfields : (ofTable fields).Fits Number.IsWord fieldsRoom) :
    tokenize (oneMessageText writtenPath writtenName (ofTable fields).indented) =
      (oneMessage modulePath name fields).tokens := by
  have hopening (rest : List Char) :
      Lexing.between.tokens ("\x7b\"modules\":\x7b".toList ++ rest) =
        [.openObject, .string (.ok "modules"), .colon, .openObject] ++
          Lexing.between.tokens rest := by
    simp only [String.reduceToList]
    rfl
  have hlist (rest : List Char) :
      Lexing.between.tokens (":\x7b\"messages\":[\x7b\"name\":".toList ++ rest) =
        [.colon, .openObject, .string (.ok "messages"), .colon, .openArray, .openObject,
          .string (.ok "name"), .colon] ++ Lexing.between.tokens rest := by
    simp only [String.reduceToList]
    rfl
  have hkey (rest : List Char) :
      Lexing.between.tokens (",\"fields\":".toList ++ rest) =
        [.comma, .string (.ok "fields"), .colon] ++ Lexing.between.tokens rest := by
    simp only [String.reduceToList]
    rfl
  have hclosing : NumberEnds "\x7d]\x7d\x7d\x7d".toList ∧
      Lexing.between.tokens "\x7d]\x7d\x7d\x7d".toList =
        [.closeObject, .closeArray, .closeObject, .closeObject, .closeObject] := by
    simp only [String.reduceToList]
    exact ⟨numberEnds_cons (by decide) _, rfl⟩
  have hvalue : Lexes (ofTable fields).indented.toList (ofTable fields).tokens := by
    rw [indented, String.toList_ofList]
    exact hfields.lexes_indentedText 0
  unfold tokenize oneMessageText
  simp only [String.toList_append, List.append_assoc]
  rw [hopening, hpath, hlist, hname, hkey, hvalue _ hclosing.1, hclosing.2]
  simp [oneMessage, messageEntry, tokens, elementTokens, memberTokens, scalarToken]

end Json

namespace Manifest

variable {modulePath name : String}

/-- Any fields that can be written out, as printed, are the fields of a message that a
manifest declares. -/
theorem parse_oneMessageText {fields : Table Json} (h : Writable fields)
    (hwords : (Json.ofTable fields).Fits Number.IsWord fieldsRoom)
    {writtenPath writtenName : String} (hpath : Json.Spells writtenPath modulePath)
    (hname : Json.Spells writtenName name) :
    parse (Json.oneMessageText writtenPath writtenName (Json.ofTable fields).indented) =
      .ok (single modulePath ⟨name, fields⟩) := by
  have htree : Json.parse (Json.oneMessageText writtenPath writtenName
      (Json.ofTable fields).indented) = .ok (Json.oneMessage modulePath name fields) :=
    (Json.fits_oneMessage h.fits).parse_of_tokenize
      (Json.tokenize_oneMessageText hpath hname hwords)
  exact parse_eq_ok_iff.2
    ⟨_, htree, Json.isManifest_oneMessage, Json.manifest_oneMessage h⟩

theorem exists_parse_of_load {path : String} {contents : Except FileError String} {m : Manifest}
    (h : load path contents = .ok m) : ∃ text, parse text = .ok m := by
  unfold load at h
  split at h
  · cases h
  · split at h
    · cases h
    · rename_i hparse
      cases h
      exact ⟨_, hparse⟩

@[simp] theorem get?_modules_single (d : MessageDeclaration) :
    (single modulePath d).modules.get? modulePath = some ⟨[d], []⟩ := by
  simp [single, Table.get?_ofList, lastNamed?_singleton]

theorem service?_single (d : MessageDeclaration) :
    (single modulePath d).service? modulePath name = none := by
  simp [service?, ModuleDeclaration.service?]

theorem message?_single (d : MessageDeclaration) :
    (single modulePath d).message? modulePath d.name = some d := by
  simp [message?, ModuleDeclaration.message?, lastNamed?_singleton]

/-- A message in the default module of a package has the normalized form of its type
string, unless a service hides it. -/
theorem resolveNew_of_message {m : Manifest} {package className : String}
    {d : MessageDeclaration} (hpackage : IsSegment package) (hclass : IsSegment className)
    (hservice : m.service? (package ++ ".msg") className = none)
    (hmessage : m.message? (package ++ ".msg") className = some d) :
    ∃ handle, m.toRegistry.resolveNew ⟨.message, canonicalKey package className⟩ = .ok handle ∧
      handle.instantiate = .json (.ofTable d.fields) := by
  obtain ⟨handle, hlookup, htype⟩ := lookup_toRegistry_of_message hservice hmessage
  have hparse : TypeString.parse (canonicalKey package className) = .ok ⟨package, [], className⟩ :=
    TypeString.parse_eq_ok_iff.2
      ⟨by simp [TypeString.Shaped], Text.segments_canonicalKey hpackage hclass⟩
  have hread : TypeString.read .message (canonicalKey package className) =
      .ok (⟨package, [], className⟩, "msg") := TypeString.read_eq_ok_iff.2 ⟨hparse, rfl⟩
  have hmodule : package ++ "." ++ "msg" = package ++ ".msg" := String.append_assoc
  have hload : m.toRegistry.load ⟨package, "msg", className⟩ = .ok handle := by
    rw [Registry.load_eq_ok_iff, SymbolPath.modulePath, hmodule]
    exact Registry.lookup_eq_ok_iff.1 hlookup
  refine ⟨handle, ?_, htype.instantiate_eq⟩
  rw [Registry.resolveNew_of_read (q := ⟨.message, canonicalKey package className⟩) hread]
  simp only [TypeString.withSubpath, hload]

end Manifest

namespace CommandLine

/-! ### Printing what has been printed -/

/-- What the text and the half of a service, if one is asked for, lead to is declared with
these fields. -/
inductive DeclaredFields (m : Manifest) (text : String) :
    Option ServiceMember → Table Json → Prop
  | message {modulePath name : String} {d : MessageDeclaration}
      (reaches : m.toRegistry.Reaches ⟨.message, text⟩ modulePath name)
      (noService : m.service? modulePath name = none)
      (declared : m.message? modulePath name = some d) : DeclaredFields m text none d.fields
  | half {modulePath name : String} {d : ServiceDeclaration} {half : ServiceMember}
      (reaches : m.toRegistry.Reaches ⟨.service, text⟩ modulePath name)
      (declared : m.service? modulePath name = some d) :
      DeclaredFields m text (some half) (d.fields half)

theorem Instantiates.declaredFields {m : Manifest} {text : String} {member : Option ServiceMember}
    {output : String} (h : Instantiates m text member (output, .success)) :
    ∃ fields, DeclaredFields m text member fields ∧
      output = line (Json.ofTable fields).indented := by
  cases h with
  | message reaches noService declared => exact ⟨_, .message reaches noService declared, rfl⟩
  | half reaches declared => exact ⟨_, .half reaches declared, rfl⟩

theorem DeclaredFields.writable {source text : String} {m : Manifest}
    {member : Option ServiceMember} {fields : Table Json} (hm : Manifest.parse source = .ok m)
    (h : DeclaredFields m text member fields) : Writable fields := by
  cases h with
  | message _ _ declared => exact Manifest.writable_of_message? hm declared
  | half _ declared => exact Manifest.writable_of_service? hm declared _

/-- The command prints the fields of a message for the normalized form of its type
string. -/
theorem run_of_message {files : Files} {arguments : List String} {path : String} {m : Manifest}
    {package className : String} {d : MessageDeclaration}
    (hparse : parse arguments =
      some (.instantiate (canonicalKey package className) path none))
    (hload : Manifest.load path (files path) = .ok m)
    (hpackage : IsSegment package) (hclass : IsSegment className)
    (hservice : m.service? (package ++ ".msg") className = none)
    (hmessage : m.message? (package ++ ".msg") className = some d) :
    run files arguments = (line (Json.ofTable d.fields).indented, .success) := by
  obtain ⟨handle, hresolve, hinstance⟩ :=
    Manifest.resolveNew_of_message hpackage hclass hservice hmessage
  simp only [run, hparse, execute, loadRegistry, hload, Except.map, findInstance_eq, instanceKind,
    hresolve, hinstance]
  rfl

/-- A message in the default module of a package, and how the path of the module and the name
of the message are written as strings. -/
structure WrittenMessage where
  package : String
  className : String
  path : String
  name : String
  isSegment_package : IsSegment package
  isSegment_className : IsSegment className
  spells_path : Json.Spells path (package ++ ".msg")
  spells_name : Json.Spells name className

namespace WrittenMessage

def printed {package className : String} (hpackage : IsSegment package)
    (hclass : IsSegment className) : WrittenMessage where
  package := package
  className := className
  path := String.ofList (Json.stringText (package ++ ".msg"))
  name := String.ofList (Json.stringText className)
  isSegment_package := hpackage
  isSegment_className := hclass
  spells_path := Json.spells_stringText _
  spells_name := Json.spells_stringText _

def manifestText (w : WrittenMessage) (fields : String) : String :=
  Json.oneMessageText w.path w.name fields

def manifest (w : WrittenMessage) (fields : Table Json) : Manifest :=
  .single (w.package ++ ".msg") ⟨w.className, fields⟩

def typeString (w : WrittenMessage) : String := canonicalKey w.package w.className

example :
    (printed (⟨by decide, by decide⟩ : IsSegment "p")
        (⟨by decide, by decide⟩ : IsSegment "\"")).manifestText "\x7b\x7d" =
      "\x7b\"modules\":\x7b\"p.msg\":\x7b\"messages\":[" ++
        "\x7b\"name\":\"\\\"\",\"fields\":\x7b\x7d\x7d]\x7d\x7d\x7d" := by
  decide +kernel

end WrittenMessage

/-- As the fields of any message in a manifest of its own the text is read as these fields,
and printed again as the instance of the message. -/
structure Reprints (printed : String) (fields : Table Json) : Prop where
  parse_eq : ∀ w : WrittenMessage,
    Manifest.parse (w.manifestText printed) = .ok (w.manifest fields)
  run_eq : ∀ (w : WrittenMessage) {files : Files} {arguments : List String} {path : String},
    parse arguments = some (.instantiate w.typeString path none) →
      files path = .ok (w.manifestText printed) →
        run files arguments = (line printed, .success)

theorem reprints_of_writable {fields : Table Json} (h : Writable fields)
    (hwords : (Json.ofTable fields).Fits Number.IsWord fieldsRoom) :
    Reprints (Json.ofTable fields).indented fields := by
  have hread (w : WrittenMessage) : Manifest.parse (w.manifestText (Json.ofTable fields).indented) =
      .ok (w.manifest fields) :=
    Manifest.parse_oneMessageText h hwords w.spells_path w.spells_name
  refine ⟨hread, fun w files arguments path hparse hfile => ?_⟩
  have hload : Manifest.load path (files path) = .ok (w.manifest fields) := by
    simp only [Manifest.load, hfile, hread w]
  exact run_of_message (d := ⟨w.className, fields⟩) hparse hload w.isSegment_package
    w.isSegment_className (Manifest.service?_single _) (Manifest.message?_single _)

/-- Whatever the command prints are the fields that the manifest declares for what is asked
for. If all numbers in it are integer literals, then it can be the fields of a message in a
manifest of its own; it is read as the same fields, and the command prints it again. -/
theorem instance_reads_back {files : Files} {arguments : List String} {text path : String}
    {member : Option ServiceMember} {m : Manifest} {output : String}
    (hparse : parse arguments = some (.instantiate text path member))
    (hload : Manifest.load path (files path) = .ok m)
    (hrun : run files arguments = (output, .success)) :
    ∃ fields, DeclaredFields m text member fields ∧
      output = line (Json.ofTable fields).indented ∧
        ((∀ x ∈ (Json.ofTable fields).numbers, Json.Literal x) →
          Reprints (Json.ofTable fields).indented fields) := by
  have hinstantiates := instantiates_of_parse hparse hload
  rw [hrun] at hinstantiates
  obtain ⟨fields, hfields, houtput⟩ := hinstantiates.declaredFields
  obtain ⟨source, hm⟩ := Manifest.exists_parse_of_load hload
  have hwritable := hfields.writable hm
  refine ⟨fields, hfields, houtput, fun hliteral => ?_⟩
  exact reprints_of_writable hwritable (hwritable.fits.isWord hliteral)

/-- A manifest with a service, where the default values of the request have a text that must
be escaped, a list and an empty object. -/
def greeter : Files := fun _ =>
  .ok ("[\x7b\"p.srv\":[[],[\x7b\"name\":\"C\",\"request\":" ++
    "\x7b\"b\":[1,\x7b\x7d],\"a\":\"\\u0007\"\x7d\x7d]]\x7d]")

def greeterManifest : Manifest :=
  (Manifest.load "types.json" (greeter "types.json")).toOption.getD .empty

theorem load_greeter :
    Manifest.load "types.json" (greeter "types.json") = .ok greeterManifest := by
  have hok : (Manifest.load "types.json" (greeter "types.json")).isOk = true := by decide +kernel
  rw [greeterManifest]
  cases hload : Manifest.load "types.json" (greeter "types.json") with
  | error e =>
      rw [hload] at hok
      cases hok
  | ok m => rfl

theorem instance_reads_back_greeter :
    ∃ fields, Reprints
      "\x7b\n  \"a\": \"\\u0007\",\n  \"b\": [\n    1,\n    \x7b\x7d\n  ]\n\x7d" fields := by
  have hparse : parse ["instance", "-m", "types.json", "--request", "p/C"] =
      some (.instantiate "p/C" "types.json" (some .request)) := by decide
  have hliteral : ∀ e ∈ greeterManifest.modules.entries, ∀ d ∈ e.2.services,
      ∀ x ∈ (Json.ofTable d.request).numbers, Json.Literal x := by decide +kernel
  have hprinted : (run greeter ["instance", "-m", "types.json", "--request", "p/C"]).1 =
      line "\x7b\n  \"a\": \"\\u0007\",\n  \"b\": [\n    1,\n    \x7b\x7d\n  ]\n\x7d" := by
    decide +kernel
  have hcode : (run greeter ["instance", "-m", "types.json", "--request", "p/C"]).2.code = 0 := by
    decide +kernel
  rcases hrun : run greeter ["instance", "-m", "types.json", "--request", "p/C"] with
    ⟨output, ending⟩
  rw [hrun] at hcode hprinted
  cases ending with
  | failure _ => cases hcode
  | usage => cases hcode
  | success =>
      obtain ⟨fields, hfields, houtput, hreprints⟩ :=
        instance_reads_back hparse load_greeter hrun
      cases hfields with
      | half _ declared =>
          obtain ⟨module, hmodule, hlast⟩ := Option.bind_eq_some_iff.1 declared
          have hentry := Table.mem_entries_of_get? hmodule
          have hprint := hreprints (hliteral _ hentry _ (mem_of_lastNamed? hlast))
          rw [← String.append_left_inj "\n" |>.1 (houtput.symm.trans hprinted)]
          exact ⟨_, hprint⟩

end CommandLine

end TypeResolution
