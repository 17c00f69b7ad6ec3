/-!
Where a type is looked for: a package, a module below it, and the name of a
class in that module.
-/

namespace TypeResolution

/-- A package and a class, the two parts that all spellings of a type share,
written with a slash. -/
def canonicalKey (package className : String) : String := package ++ "/" ++ className

structure SymbolPath where
  package : String
  subpath : String
  className : String
  deriving DecidableEq

namespace SymbolPath

def modulePath (path : SymbolPath) : String := path.package ++ "." ++ path.subpath

def qualifiedName (path : SymbolPath) : String := path.modulePath ++ "." ++ path.className

def normalized (path : SymbolPath) : String := canonicalKey path.package path.className

end SymbolPath

end TypeResolution
