import TypeResolution.Json.Printer
import TypeResolution.Json.SyntaxError
import TypeResolution.Text.Quoted

/-!
Why a manifest could not be loaded: its file cannot be read, its text is not
JSON, or the JSON does not have the form of a manifest. Each error is a cause;
its wording is given by `message`.
-/

namespace TypeResolution

/-- What an operating system or a decoder of text says about a file. -/
inductive FileError
  | notFound
  | notDirectory
  | isDirectory
  | notUtf8
  | other (text : String)
  deriving DecidableEq

def FileError.message : FileError → String
  | notFound => "No such file or directory (os error 2)"
  | notDirectory => "Not a directory (os error 20)"
  | isDirectory => "Is a directory (os error 21)"
  | notUtf8 => "stream did not contain valid UTF-8"
  | other text => text

inductive ManifestPart
  | document
  | modules
  | module
  | declarations
  deriving DecidableEq

inductive Found
  | scalar (value : Scalar)
  | sequence
  | map

inductive DeclarationSort
  | message
  | service
  deriving DecidableEq

inductive FormatError
  | unknownField (name : String) (known : List String)
  | duplicateField (name : String)
  | invalidType (found : Found) (part : ManifestPart)
  | noDeclaration (sort : DeclarationSort)

inductive ManifestFault
  | syntaxError (e : Json.SyntaxError)
  | format (e : FormatError)

inductive ManifestError
  | file (path : String) (reason : FileError)
  | text (fault : ManifestFault)

def ManifestPart.description : ManifestPart → String
  | document => "struct Manifest"
  | modules => "a map"
  | module => "struct ManifestModule"
  | declarations => "a sequence"

/-- Field names as a list of alternatives. -/
def alternatives (names : List String) : String :=
  " or ".intercalate (names.map fun name => "`" ++ name ++ "`")

def Found.message : Found → String
  | scalar .null => "null"
  | scalar (.bool true) => "boolean `true`"
  | scalar (.bool false) => "boolean `false`"
  | scalar (.number (.integer value)) =>
    "integer `" ++ String.ofList (Json.integerText value) ++ "`"
  | scalar (.number (.float value)) =>
    "floating point `" ++ String.ofList (Json.floatText value) ++ "`"
  | scalar (.string value) => "string " ++ Text.quoted value
  | sequence => "sequence"
  | map => "map"

def FormatError.message : FormatError → String
  | unknownField name known =>
    "unknown field `" ++ name ++ "`, expected " ++ alternatives known
  | duplicateField name => "duplicate field `" ++ name ++ "`"
  | invalidType found part => "invalid type: " ++ found.message ++ ", expected " ++ part.description
  | noDeclaration .message => "data did not match any variant of untagged enum RawType"
  | noDeclaration .service => "data did not match any variant of untagged enum RawService"

def ManifestFault.message : ManifestFault → String
  | syntaxError e => e.message
  | format e => e.message

namespace ManifestError

def sourceMessage : ManifestError → String
  | file _ reason => reason.message
  | text fault => fault.message

def message : ManifestError → String
  | file path reason => "failed to read manifest '" ++ path ++ "': " ++ reason.message
  | text fault => "failed to parse manifest: " ++ fault.message

end ManifestError

end TypeResolution
