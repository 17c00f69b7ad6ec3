import TypeResolution.CommandLine.Execute
import TypeResolution.Proofs.Declarations
import TypeResolution.Proofs.Reachability

/-!
What the command `instance` prints and how it ends, for any arguments that ask for it and
any manifest. The type string leads to an entry of the registry, maybe in another module
than it names, and what the manifest declares there last decides: a service has halves and
no instance of its own that is JSON, a message has an instance and no halves.
`Instantiates` says so in terms of the manifest, and `instantiates_run` that the program
does it.
-/

namespace TypeResolution

/-! ### What a request gets -/

theorem Registry.lookup_eq_ok_iff {r : Registry} {modulePath className : String}
    {handle : TypeHandle} :
    r.lookup modulePath className = .ok handle ↔ r.Binds modulePath className handle := by
  unfold lookup Binds
  cases hopen : r.openModule modulePath with
  | error e => simp [bind, Except.bind]
  | ok m => simp [bind, Except.bind]

/-- What a new resolver over the registry of a manifest finds is declared in the module
that the request leads to: as a service, or as a message that no service hides. -/
theorem Manifest.declared_of_resolveNew {m : Manifest} {q : Request} {handle : TypeHandle}
    (h : m.toRegistry.resolveNew q = .ok handle) :
    ∃ modulePath name, m.toRegistry.Reaches q modulePath name ∧
      ((∃ d, m.service? modulePath name = some d ∧
          handle.IsService (modulePath ++ "." ++ name) d.fields) ∨
        (m.service? modulePath name = none ∧ ∃ d, m.message? modulePath name = some d ∧
          handle.IsMessage (modulePath ++ "." ++ name) d.fields)) := by
  obtain ⟨modulePath, name, hreaches, hbinds⟩ := Registry.exists_reaches_of_resolveNew h
  have hlookup := Registry.lookup_eq_ok_iff.2 hbinds
  refine ⟨modulePath, name, hreaches, ?_⟩
  cases hservice : m.service? modulePath name with
  | some d =>
      obtain ⟨held, hheld, hdeclared⟩ := lookup_toRegistry_of_service hservice
      rw [hlookup] at hheld
      cases hheld
      exact .inl ⟨d, rfl, hdeclared⟩
  | none =>
      cases hmessage : m.message? modulePath name with
      | some d =>
          obtain ⟨held, hheld, hdeclared⟩ := lookup_toRegistry_of_message hservice hmessage
          rw [hlookup] at hheld
          cases hheld
          exact .inr ⟨rfl, d, rfl, hdeclared⟩
      | none =>
          obtain ⟨hname, hmodule⟩ := lookup_toRegistry_of_undeclared hservice hmessage
          by_cases hdeclares : m.Declares modulePath
          · rw [hname hdeclares] at hlookup
            cases hlookup
          · rw [hmodule hdeclares] at hlookup
            cases hlookup

namespace CommandLine

/-! ### Reports -/

def noJsonReport (text : String) : Report := ⟨text ++ " does not produce a JSON instance", []⟩

def instanceKind : Option ServiceMember → Kind
  | none => .message
  | some _ => .service

/-- What is printed for a text and the half of a service that is asked for, if one is, and
how the command ends. -/
inductive Instantiates (m : Manifest) (text : String) :
    Option ServiceMember → String × Ending → Prop
  | unresolved {member : Option ServiceMember} {e : ResolveError}
      (fails : m.toRegistry.resolveNew ⟨instanceKind member, text⟩ = .error e) :
      Instantiates m text member ("", .failure (.ofResolveError e))
  | message {modulePath name : String} {d : MessageDeclaration}
      (reaches : m.toRegistry.Reaches ⟨.message, text⟩ modulePath name)
      (noService : m.service? modulePath name = none)
      (declared : m.message? modulePath name = some d) :
      Instantiates m text none (line (Json.ofTable d.fields).indented, .success)
  | service {modulePath name : String} {d : ServiceDeclaration}
      (reaches : m.toRegistry.Reaches ⟨.message, text⟩ modulePath name)
      (declared : m.service? modulePath name = some d) :
      Instantiates m text none ("", .failure (noJsonReport text))
  | half {modulePath name : String} {d : ServiceDeclaration} {half : ServiceMember}
      (reaches : m.toRegistry.Reaches ⟨.service, text⟩ modulePath name)
      (declared : m.service? modulePath name = some d) :
      Instantiates m text (some half) (line (Json.ofTable (d.fields half)).indented, .success)
  | noHalf {modulePath name : String} {half : ServiceMember}
      (reaches : m.toRegistry.Reaches ⟨.service, text⟩ modulePath name)
      (noService : m.service? modulePath name = none) :
      Instantiates m text (some half)
        ("", .failure (.ofResolveError (.missingServiceMember text half)))

theorem findInstance_eq (r : Registry) (text : String) (member : Option ServiceMember) :
    findInstance r text member =
      match r.resolveNew ⟨instanceKind member, text⟩, member with
      | .error e, _ => .error e
      | .ok handle, none => .ok handle.instantiate
      | .ok handle, some half =>
        match handle.member? half with
        | some type => .ok type.instantiate
        | none => .error (.missingServiceMember text half) := by
  cases member with
  | none =>
      simp only [findInstance, Resolver.messageInstance, Registry.resolveNew, Resolver.serve,
        instanceKind]
      rcases Resolver.resolve r.provider .message text (.new ()) with ⟨e | handle, w⟩ <;> rfl
  | some half =>
      simp only [findInstance, Resolver.memberInstance, Registry.resolveNew, Resolver.serve,
        instanceKind]
      rcases Resolver.resolve r.provider .service text (.new ()) with ⟨e | handle, w⟩
      · rfl
      · cases hhalf : handle.member? half <;> simp only [hhalf]

theorem instantiates_of_parse {files : Files} {arguments : List String} {text path : String}
    {member : Option ServiceMember} {m : Manifest}
    (hparse : parse arguments = some (.instantiate text path member))
    (hload : Manifest.load path (files path) = .ok m) :
    Instantiates m text member (run files arguments) := by
  simp only [run, hparse, execute, loadRegistry, hload, Except.map, findInstance_eq]
  cases hresolve : m.toRegistry.resolveNew ⟨instanceKind member, text⟩ with
  | error e => exact .unresolved hresolve
  | ok handle =>
      obtain ⟨modulePath, name, hreaches, ⟨d, hservice, htype⟩ | ⟨hservice, d, hmessage, htype⟩⟩ :=
        Manifest.declared_of_resolveNew hresolve
      · cases member with
        | none =>
            simp only [htype.instantiate_eq]
            exact .service hreaches hservice
        | some half =>
            obtain ⟨type, hhalf, htype⟩ := htype.member? half
            simp only [hhalf, htype.instantiate_eq]
            exact .half hreaches hservice
      · cases member with
        | none =>
            simp only [htype.instantiate_eq]
            exact .message hreaches hservice hmessage
        | some half =>
            simp only [htype.member?_eq half]
            exact .noHalf hreaches hservice

namespace Instantiates

variable {m : Manifest} {text : String} {printed : String × Ending}

end Instantiates

end CommandLine

end TypeResolution
