import TypeResolution.CommandLine.Execute
import TypeResolution.Proofs.FirstSpelling

/-!
What the command `resolve` prints and how it ends, for any arguments that ask for it and
any manifest. All type strings share the caches of one resolver, so the name in a line may
be due to an earlier type string; and the first type string that fails ends the command,
with the lines before it printed. `Resolves` says so without the caches, by what new
resolvers find, and `resolves_run` that the program does it.
-/

namespace TypeResolution.CommandLine

open Resolver (Finds)

/-! ### Lines -/

def foundLine (text : String) (handle : TypeHandle) : String :=
  line (text ++ " -> " ++ handle.qualifiedName)

def foundLines (texts : List String) (handles : List TypeHandle) : String :=
  String.join (List.zipWith foundLine texts handles)

def keyLines (kind : Kind) (keys : List String) : String :=
  line (kind.name ++ " cache:") ++ String.join (keys.map fun key => line ("  " ++ key))

theorem foundLines_append_singleton {texts : List String} {handles : List TypeHandle}
    (h : handles.length = texts.length) (text : String) (handle : TypeHandle) :
    foundLines (texts ++ [text]) (handles ++ [handle]) =
      foundLines texts handles ++ foundLine text handle := by
  rw [foundLines, List.zipWith_append h.symm, String.join_append]
  simp [foundLines]

/-! ### The command -/

variable {r : Registry} {kind : Kind} {w₀ w : World Unit} {found : List String}
  {handles : List TypeHandle}

/-- Texts that are found leave their lines, and the others are resolved after them. -/
theorem resolveAll_append (h : Finds r.provider kind w₀ found handles w)
    (conclude : Caches → String) (rest : List String) :
    resolveAll r kind conclude w₀ (found ++ rest) =
      ⟨foundLines found handles ++ (resolveAll r kind conclude w rest).output,
        (resolveAll r kind conclude w rest).report⟩ := by
  induction h generalizing rest with
  | nil => simp [foundLines]
  | @snoc texts handles w w' text handle before last ih =>
      have hresolve : Resolver.resolve r.provider kind text w = (.ok handle, w') := last
      rw [List.append_assoc, List.singleton_append, ih, resolveAll, hresolve,
        foundLines_append_singleton before.length_eq, foundLine, String.append_assoc]

theorem resolveAll_of_error {w' : World Unit} {text : String} {e : ResolveError}
    (h : Resolver.serve r.provider ⟨kind, text⟩ w = (.error e, w')) (conclude : Caches → String)
    (rest : List String) :
    resolveAll r kind conclude w (text :: rest) = ⟨"", some (.ofResolveError e)⟩ := by
  have hresolve : Resolver.resolve r.provider kind text w = (.error e, w') := h
  rw [resolveAll, hresolve]

/-- Each text has the type that a new resolver finds for the first of them with its
normalized form. -/
def FirstSpellings (r : Registry) (kind : Kind) (texts : List String) (handles : List TypeHandle) :
    Prop :=
  ∀ i < texts.length, ∃ first handle, firstSpelling? texts i = some first ∧
    r.resolveNew ⟨kind, first⟩ = .ok handle ∧ handles[i]? = some handle

/-- What is printed for the texts, and how the command ends. Either all are found, in turn
by one resolver, or all up to one that fails, as it does with a new resolver. A line is
printed for each that is found. The keys are the texts and their normalized forms in
ascending order. -/
inductive Resolves (r : Registry) (kind : Kind) (showCache : Bool) (texts : List String) :
    String × Ending → Prop
  | all {handles : List TypeHandle} {w : World Unit} {keys : List String}
      (finds : Finds r.provider kind (.new ()) texts handles w)
      (first : FirstSpellings r kind texts handles) (ascending : keys.Pairwise (· < ·))
      (held : ∀ key, key ∈ keys ↔ ∃ text ∈ texts, Request.StoredUnder ⟨kind, text⟩ key) :
      Resolves r kind showCache texts
        (foundLines texts handles ++ if showCache then keyLines kind keys else "", .success)
  | upTo {found rest : List String} {text : String} {handles : List TypeHandle}
      {w w' : World Unit} {e : ResolveError} (split : texts = found ++ text :: rest)
      (finds : Finds r.provider kind (.new ()) found handles w)
      (first : FirstSpellings r kind found handles)
      (fails : Resolver.serve r.provider ⟨kind, text⟩ w = (.error e, w'))
      (alone : r.resolveNew ⟨kind, text⟩ = .error e) :
      Resolves r kind showCache texts (foundLines found handles, .failure (.ofResolveError e))

/-- The command `resolve`, from the arguments and the file to what is printed. -/
theorem resolves_run {files : Files} {arguments texts : List String} {path : String} {kind : Kind}
    {showCache : Bool} {m : Manifest}
    (hparse : parse arguments = some (.resolve texts path (kind = .service) showCache))
    (hload : Manifest.load path (files path) = .ok m) :
    Resolves m.toRegistry kind showCache texts (run files arguments) := by
  have hkind : (if (kind = .service : Bool) then Kind.service else Kind.message) = kind := by
    cases kind <;> rfl
  obtain ⟨found, rest, handles, w, rfl, hfinds, hfails⟩ :=
    Resolver.finds_or_fails m.toRegistry.provider kind texts (.new ())
  have hfirst : FirstSpellings m.toRegistry kind found handles := fun _ => hfinds.first_spelling
  simp only [run, hparse, execute, loadRegistry, hload, Except.map, hkind,
    resolveAll_append hfinds]
  cases rest with
  | nil =>
      rw [List.append_nil]
      exact .all hfinds hfirst (Table.keys_ascending _) hfinds.mem_keys
  | cons text rest =>
      obtain ⟨e, w', hfails⟩ := hfails text rfl
      have halone := Resolver.resolveNew_of_serve_error m.toRegistry.serves_provider hfails
      simp only [resolveAll_of_error hfails, String.append_empty]
      exact .upTo rfl hfinds hfirst hfails halone

/-- A manifest that declares a class in two modules of a package. -/
def classTwice : Files := fun _ => .ok "[\x7b\"p.foo\":[[\"C\"]],\"p.msg\":[[\"C\"]]\x7d]"

theorem resolves_run_classTwice :
    ∃ m, Manifest.load "types.json" (classTwice "types.json") = .ok m ∧
      Resolves m.toRegistry .message true ["p/foo/C", "p/C"]
        (run classTwice ["resolve", "-m", "types.json", "--show-cache", "p/foo/C", "p/C"]) := by
  have hparse : parse ["resolve", "-m", "types.json", "--show-cache", "p/foo/C", "p/C"] =
      some (.resolve ["p/foo/C", "p/C"] "types.json" (Kind.message = .service) true) := by decide
  have hok : (Manifest.load "types.json" (classTwice "types.json")).isOk = true := by
    decide +kernel
  cases hload : Manifest.load "types.json" (classTwice "types.json") with
  | error e =>
      rw [hload] at hok
      cases hok
  | ok m => exact ⟨m, rfl, resolves_run hparse hload⟩

/-- The second type string has the class of the first, which is not the one that it would
have by itself. -/
example :
    (run classTwice ["resolve", "-m", "types.json", "--show-cache", "p/foo/C", "p/C"]).1 =
      "p/foo/C -> p.foo.C\np/C -> p.foo.C\nmessage cache:\n  p/C\n  p/foo/C\n" := by
  decide +kernel

end TypeResolution.CommandLine
