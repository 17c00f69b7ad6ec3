import TypeResolution.Error
import TypeResolution.Manifest.Error

/-!
Reports on a command that failed: a message and the causes behind it, the
nearest first.
-/

namespace TypeResolution.CommandLine

structure Report where
  message : String
  causes : List String
  deriving DecidableEq

namespace Report

/-- A text whose lines, after the first one, begin with blanks. -/
def hangingText (blanks : Nat) (text : String) : String :=
  String.ofList (text.toList.flatMap fun c =>
    if c = '\n' then '\n' :: List.replicate blanks ' ' else [c])

def numberedCauses (n : Nat) : List String → String
  | [] => ""
  | cause :: causes =>
    let number := String.ofList (Nat.toDigits 10 n)
    "\n" ++ String.ofList (List.replicate (5 - number.length) ' ') ++ number ++ ": " ++
      hangingText 7 cause ++ numberedCauses (n + 1) causes

/-- The report as it is shown. A single cause has no number. -/
def text (r : Report) : String :=
  match r.causes with
  | [] => "Error: " ++ r.message
  | [cause] => "Error: " ++ r.message ++ "\n\nCaused by:\n    " ++ hangingText 4 cause
  | causes => "Error: " ++ r.message ++ "\n\nCaused by:" ++ numberedCauses 0 causes

def ofResolveError (e : ResolveError) : Report :=
  ⟨e.message, e.source?.toList.map ProviderError.message⟩

def ofManifestError (e : ManifestError) : Report := ⟨e.message, [e.sourceMessage]⟩

def within (context : String) (r : Report) : Report := ⟨context, r.message :: r.causes⟩

end Report

end TypeResolution.CommandLine
