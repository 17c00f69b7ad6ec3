import TypeResolution.CommandLine.Arguments

/-!
Every command can be asked for. Arguments for it are written down, with all operands after
`--` so that nothing in them is taken for an option, and parsing gives the command back
(`CommandLine.parse_arguments`). So nothing is excluded by speaking of arguments that are
parsed as a command.
-/

namespace TypeResolution.CommandLine

/-- The command can be given: it names a manifest, and something to resolve if it is to
resolve. -/
def Command.Givable : Command → Prop
  | resolve texts path _ _ => path ≠ "" ∧ texts ≠ []
  | instantiate _ path _ => path ≠ ""
  | list path => path ≠ ""

def manifestArgument (path : String) : String := "--manifest=" ++ path

def flagArgument (given : Bool) (name : String) : List String :=
  if given then ["--" ++ name] else []

def Command.arguments : Command → List String
  | resolve texts path service showCache =>
    "resolve" :: manifestArgument path ::
      (flagArgument service "service" ++ flagArgument showCache "show-cache" ++ "--" :: texts)
  | instantiate text path member =>
    "instance" :: manifestArgument path ::
      (flagArgument (member = some .request) "request" ++
        flagArgument (member = some .response) "response" ++ "--" :: [text])
  | list path => ["list", manifestArgument path]

variable {s : Subcommand} {g : Given}

theorem foldl_addOperand (g : Given) (texts : List String) :
    (texts.map String.toList).foldl Given.addOperand g =
      { g with operands := texts.reverse ++ g.operands } := by
  induction texts generalizing g with
  | nil => rfl
  | cons text texts ih => simp [ih, Given.addOperand]

theorem takeArguments_operands (s : Subcommand) (g : Given) (texts : List String) :
    takeArguments s (g, false) (("--" :: texts).map String.toList) =
      some { g with operands := texts.reverse ++ g.operands } := by
  rw [← foldl_addOperand]
  rfl

theorem takeArguments_manifest {path : String} (hpath : path ≠ "") (hnone : g.manifest = none)
    (rest : List (List Char)) :
    takeArguments s (g, false) ((manifestArgument path).toList :: rest) =
      takeArguments s ({ g with manifest := some path }, false) rest := by
  have hargument : (manifestArgument path).toList =
      '-' :: '-' :: ("manifest".toList ++ '=' :: path.toList) := by
    simp [manifestArgument]
  have hsplit : splitAtEquals ("manifest".toList ++ '=' :: path.toList) =
      ("manifest".toList, some path.toList) := by
    simp [splitAtEquals]
  have hlong : Opt.long? "manifest".toList = some .manifest := by decide
  have hadd : g.addManifest? path.toList = some { g with manifest := some path } := by
    simp [Given.addManifest?, hnone, hpath]
  have htake : takeLong s g ("manifest".toList ++ '=' :: path.toList) =
      some ({ g with manifest := some path }, false) := by
    simp only [takeLong, hsplit, hlong, Subcommand.takes, not_true, if_false, hadd, Option.map_some]
  rw [hargument, takeArguments, htake]
  · rfl
  · simp

theorem takeArguments_flag {f : Flag} {name : String}
    (hlong : Opt.long? name.toList = some (.flag f))
    (hsplit : splitAtEquals name.toList = (name.toList, none)) (htakes : s.takesFlag f)
    (hnew : f ∉ g.flags) (given : Bool) (rest : List String) :
    takeArguments s (g, false) ((flagArgument given name ++ rest).map String.toList) =
      takeArguments s ({ g with flags := if given then f :: g.flags else g.flags }, false)
        (rest.map String.toList) := by
  cases given with
  | false => rfl
  | true =>
      have hargument : ("--" ++ name).toList = '-' :: '-' :: name.toList := by simp
      have hadd : g.addFlag? f = some { g with flags := f :: g.flags } := by
        simp [Given.addFlag?, hnew]
      have htake : takeLong s g name.toList = some ({ g with flags := f :: g.flags }, false) := by
        simp only [takeLong, hsplit, hlong, Subcommand.takes, htakes, not_true, if_false, hadd,
          Option.map_some]
      have hname : name.toList ≠ [] := by
        rintro hnil
        rw [hnil] at hlong
        cases hlong
      simp only [flagArgument, if_true, List.singleton_append, List.map_cons, hargument]
      rw [takeArguments, htake]
      · rfl
      · simpa using hname

theorem parse_subcommand {name : String} (hs : Subcommand.named? name = some s)
    (hname : ¬(name = "-v" ∨ name = "--verbose")) (rest : List String) :
    parse (name :: rest) =
      (takeArguments s (.nothing, false) (rest.map String.toList)).bind s.command? := by
  rw [parse, parseAfter, if_neg hname, hs]

/-- Whatever the operands look like, every command that can be given is what its arguments
are parsed as. -/
theorem parse_arguments (c : Command) (h : c.Givable) : parse c.arguments = some c := by
  cases c with
  | resolve texts path service showCache =>
      obtain ⟨hpath, htexts⟩ := h
      rw [Command.arguments, parse_subcommand (s := .resolve) (by decide) (by decide),
        List.map_cons, takeArguments_manifest hpath rfl, List.append_assoc,
        takeArguments_flag (f := .service) (by decide) (by decide) (by decide)
          (by simp [Given.nothing]),
        takeArguments_flag (f := .showCache) (by decide) (by decide) (by decide)
          (by cases service <;> simp [Given.nothing]), takeArguments_operands]
      cases texts with
      | nil => exact absurd rfl htexts
      | cons text texts =>
          cases service <;> cases showCache <;> simp [Subcommand.command?, Given.nothing]
  | instantiate text path member =>
      rw [Command.arguments, parse_subcommand (s := .instantiate) (by decide) (by decide),
        List.map_cons, takeArguments_manifest h rfl, List.append_assoc,
        takeArguments_flag (f := .request) (by decide) (by decide) (by decide)
          (by simp [Given.nothing]),
        takeArguments_flag (f := .response) (by decide) (by decide) (by decide)
          (by rcases member with _ | _ | _ <;> simp [Given.nothing]), takeArguments_operands]
      rcases member with _ | _ | _ <;>
        simp [Subcommand.command?, Given.member?, Given.nothing]
  | list path =>
      rw [Command.arguments, parse_subcommand (s := .list) (by decide) (by decide),
        List.map_cons, takeArguments_manifest h rfl]
      rfl

end TypeResolution.CommandLine
