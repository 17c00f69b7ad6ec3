import TypeResolution.Error

/-!
The arguments of the command line: the subcommands and what each of them takes.
Options are long or short; short ones may be joined, and a value may stand in
the same argument as its option or in the next one. Each option may be given
once. After `--` nothing is an option. Help is left out: there is no text for
it, and arguments that ask for it (`--help`, `-h`, `help`) are like any others
that ask for no command.
-/

namespace TypeResolution.CommandLine

inductive Command
  | resolve (typeStrings : List String) (manifest : String) (service showCache : Bool)
  | instantiate (typeString manifest : String) (member : Option ServiceMember)
  | list (manifest : String)
  deriving DecidableEq

def Command.manifestPath : Command → String
  | resolve _ manifest _ _ | instantiate _ manifest _ | list manifest => manifest

inductive Subcommand
  | resolve
  | instantiate
  | list
  deriving DecidableEq

inductive Flag
  | verbose
  | service
  | showCache
  | request
  | response
  deriving DecidableEq

inductive Opt
  | flag (f : Flag)
  | manifest
  deriving DecidableEq

namespace Subcommand

def named? (name : String) : Option Subcommand :=
  if name = "resolve" then some resolve
  else if name = "instance" then some instantiate
  else if name = "list" then some list
  else none

def takesFlag : Subcommand → Flag → Bool
  | _, .verbose => true
  | resolve, .service | resolve, .showCache => true
  | instantiate, .request | instantiate, .response => true
  | _, _ => false

def takes (s : Subcommand) : Opt → Bool
  | .flag f => s.takesFlag f
  | .manifest => true

end Subcommand

namespace Opt

def long? (name : List Char) : Option Opt :=
  if name = "verbose".toList then some (flag .verbose)
  else if name = "service".toList then some (flag .service)
  else if name = "show-cache".toList then some (flag .showCache)
  else if name = "request".toList then some (flag .request)
  else if name = "response".toList then some (flag .response)
  else if name = "manifest".toList then some manifest
  else none

def short? (c : Char) : Option Opt :=
  if c = 'v' then some (flag .verbose)
  else if c = 's' then some (flag .service)
  else if c = 'm' then some manifest
  else none

end Opt

/-- What has been given so far; operands are kept in reverse. -/
structure Given where
  flags : List Flag
  manifest : Option String
  operands : List String

namespace Given

def nothing : Given := ⟨[], none, []⟩

def addFlag? (g : Given) (f : Flag) : Option Given :=
  if f ∈ g.flags then none else some { g with flags := f :: g.flags }

/-- A manifest must have a path. -/
def addManifest? (g : Given) (path : List Char) : Option Given :=
  if g.manifest.isSome ∨ path = [] then none
  else some { g with manifest := some (String.ofList path) }

def addOperand (g : Given) (operand : List Char) : Given :=
  { g with operands := String.ofList operand :: g.operands }

end Given

/-- Whether an argument is an option or `--` by its form, so that it is no value
of an option. A lone hyphen is not. -/
def looksLikeOption : List Char → Bool
  | '-' :: _ :: _ => true
  | _ => false

/-- The text before the first equals sign, and the text after it if there is
one. -/
def splitAtEquals : List Char → List Char × Option (List Char)
  | [] => ([], none)
  | c :: cs =>
    if c = '=' then ([], some cs) else (c :: (splitAtEquals cs).1, (splitAtEquals cs).2)

/-- What an argument leads to: what is given with it, and whether the next
argument must be the path of the manifest. -/
abbrev Progress := Given × Bool

def takeShort (s : Subcommand) (g : Given) : List Char → Option Progress
  | [] => some (g, false)
  | c :: cs =>
    match Opt.short? c with
    | none => none
    | some option =>
      if ¬ s.takes option then none
      else
        match option with
        | .flag f => (g.addFlag? f).bind fun g => takeShort s g cs
        | .manifest =>
          match cs with
          | [] => some (g, true)
          | '=' :: path => (g.addManifest? path).map (·, false)
          | path => (g.addManifest? path).map (·, false)

def takeLong (s : Subcommand) (g : Given) (argument : List Char) : Option Progress :=
  let (name, value) := splitAtEquals argument
  match Opt.long? name with
  | none => none
  | some option =>
    if ¬ s.takes option then none
    else
      match option, value with
      | .flag f, none => (g.addFlag? f).map (·, false)
      | .flag _, some _ => none
      | .manifest, none => some (g, true)
      | .manifest, some path => (g.addManifest? path).map (·, false)

def takeArguments (s : Subcommand) : Progress → List (List Char) → Option Given
  | (g, false), [] => some g
  | (_, true), [] => none
  | (g, true), argument :: rest =>
    if looksLikeOption argument then none
    else (g.addManifest? argument).bind fun g => takeArguments s (g, false) rest
  | (g, false), argument :: rest =>
    match argument with
    | ['-', '-'] => some (rest.foldl Given.addOperand g)
    | '-' :: '-' :: long => (takeLong s g long).bind fun p => takeArguments s p rest
    | '-' :: c :: short => (takeShort s g (c :: short)).bind fun p => takeArguments s p rest
    | _ => takeArguments s (g.addOperand argument, false) rest

/-- The half of a service that is asked for; only one may be. -/
def Given.member? (g : Given) : Option (Option ServiceMember) :=
  if .request ∈ g.flags then
    if .response ∈ g.flags then none else some (some .request)
  else if .response ∈ g.flags then some (some .response)
  else some none

def Subcommand.command? (s : Subcommand) (g : Given) : Option Command :=
  match g.manifest, g.operands.reverse with
  | none, _ => none
  | some manifest, operands =>
    match s, operands with
    | resolve, _ :: _ =>
      some (.resolve operands manifest (.service ∈ g.flags) (.showCache ∈ g.flags))
    | instantiate, [typeString] => g.member?.map (.instantiate typeString manifest ·)
    | list, [] => some (.list manifest)
    | _, _ => none

/-- The arguments before the subcommand may ask for verbose messages, once. -/
def parseAfter (verbose : Bool) : List String → Option Command
  | [] => none
  | argument :: rest =>
    if argument = "-v" ∨ argument = "--verbose" then
      if verbose then none else parseAfter true rest
    else
      match Subcommand.named? argument with
      | none => none
      | some s =>
        (takeArguments s (.nothing, false) (rest.map String.toList)).bind s.command?

def parse (arguments : List String) : Option Command := parseAfter false arguments

end TypeResolution.CommandLine
