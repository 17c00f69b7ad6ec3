import TypeResolution.CommandLine.Arguments
import TypeResolution.CommandLine.Report
import TypeResolution.Json.Printer
import TypeResolution.Manifest.Decode
import TypeResolution.Resolver

/-!
Carrying out the commands. What a command prints and how it ends depends on the
arguments and on the contents of the manifest file alone.
-/

namespace TypeResolution.CommandLine

structure Outcome where
  output : String
  report : Option Report

abbrev Files := String → Except FileError String

def loadRegistry (files : Files) (path : String) : Except ManifestError Registry :=
  (Manifest.load path (files path)).map Manifest.toRegistry

def manifestReport (path : String) (e : ManifestError) : Report :=
  (Report.ofManifestError e).within ("while loading manifest " ++ path)

def line (text : String) : String := text ++ "\n"

/-- Resolves type strings in turn, up to the first that fails, and prints a line
for each; what `conclude` makes of the caches follows if none fails. -/
def resolveAll (registry : Registry) (kind : Kind) (conclude : Caches → String) (w : World Unit) :
    List String → Outcome
  | [] => ⟨conclude w.caches, none⟩
  | text :: rest =>
    match Resolver.resolve registry.provider kind text w with
    | (.error e, _) => ⟨"", some (.ofResolveError e)⟩
    | (.ok handle, w) =>
      let outcome := resolveAll registry kind conclude w rest
      { outcome with
        output := line (text ++ " -> " ++ handle.qualifiedName) ++ outcome.output }

def cacheText (kind : Kind) (caches : Caches) : String :=
  line (kind.name ++ " cache:") ++
    String.join ((caches.table kind).keys.map fun key => line ("  " ++ key))

def findInstance (registry : Registry) (text : String) :
    Option ServiceMember → Except ResolveError Instance
  | none => (Resolver.messageInstance registry.provider text (.new ())).1
  | some member => (Resolver.memberInstance registry.provider member text (.new ())).1

def instanceOutcome (text : String) : Instance → Outcome
  | .json value => ⟨line value.indented, none⟩
  | _ => ⟨"", some ⟨text ++ " does not produce a JSON instance", []⟩⟩

def listText (registry : Registry) : String :=
  String.join (registry.classes.entries.map fun e =>
    line e.1 ++ String.join (e.2.keys.map fun name => line ("  " ++ name)))

def execute (files : Files) : Command → Outcome
  | .resolve typeStrings path service showCache =>
    match loadRegistry files path with
    | .error e => ⟨"", some (manifestReport path e)⟩
    | .ok registry =>
      let kind : Kind := if service then .service else .message
      resolveAll registry kind (fun caches => if showCache then cacheText kind caches else "")
        (.new ()) typeStrings
  | .instantiate typeString path member =>
    match loadRegistry files path with
    | .error e => ⟨"", some (manifestReport path e)⟩
    | .ok registry =>
      match findInstance registry typeString member with
      | .error e => ⟨"", some (.ofResolveError e)⟩
      | .ok value => instanceOutcome typeString value
  | .list path =>
    match loadRegistry files path with
    | .error e => ⟨"", some (.ofManifestError e)⟩
    | .ok registry => ⟨listText registry, none⟩

inductive Ending
  | success
  | failure (report : Report)
  | usage

def Ending.code : Ending → Nat
  | success => 0
  | failure _ => 1
  | usage => 2

/-- What the program prints for its arguments, and how it ends. It has no help to print. -/
def run (files : Files) (arguments : List String) : String × Ending :=
  match parse arguments with
  | none => ("", .usage)
  | some command =>
    let outcome := execute files command
    (outcome.output, match outcome.report with
      | none => .success
      | some report => .failure report)

end TypeResolution.CommandLine
