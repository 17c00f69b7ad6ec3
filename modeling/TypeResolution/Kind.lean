/-!
The two kinds of types. The kind is chosen by who asks, never read off a type
string.
-/

namespace TypeResolution

inductive Kind
  | message
  | service
  deriving DecidableEq

namespace Kind

def name : Kind → String
  | message => "message"
  | service => "service"

/-- The subpath of a type string that names none, tried again when the inferred
one fails. -/
def defaultSubpath : Kind → String
  | message => "msg"
  | service => "srv"

end Kind

end TypeResolution
