import TypeResolution.CommandLine.Execute

/-!
The program: it reads the manifest that its arguments name, prints what the
command gives, and leaves the status of its ending. Reports go to the error
stream.
-/

namespace TypeResolution.CommandLine

/-- The reason that the operating system gives for not reading a file. -/
def fileError : IO.Error → FileError
  | .noFileOrDirectory .. => .notFound
  | .inappropriateType _ 21 _ => .isDirectory
  | .inappropriateType .. => .notDirectory
  | e => .other (toString e)

def readText (path : String) : IO (Except FileError String) := do
  try
    let bytes ← IO.FS.readBinFile path
    match String.fromUTF8? bytes with
    | some text => return .ok text
    | none => return .error .notUtf8
  catch e => return .error (fileError e)

def usage : String := "Usage: [-v] (resolve | instance | list) -m MANIFEST [ARGUMENTS]"

end TypeResolution.CommandLine

open TypeResolution.CommandLine in
def main (arguments : List String) : IO UInt32 := do
  let contents ←
    match parse arguments with
    | some command => readText command.manifestPath
    | none => pure (.error .notFound)
  let (output, ending) := run (fun _ => contents) arguments
  (← IO.getStdout).putStr output
  match ending with
  | .success => pure ()
  | .failure report => (← IO.getStderr).putStrLn report.text
  | .usage => (← IO.getStderr).putStrLn usage
  return ending.code.toUInt32
