import BuildTags.Json.Reader

namespace BuildTags.Build

inductive Fault
  | unreadable (path reason : Text)
  | malformed (fault : Json.Fault)
  | beyond (bound : Json.Bound)
  | notAnObject
  | missing (name : Text)
  deriving DecidableEq, Repr

def Fault.message : Fault → Text
  | .unreadable path reason => "Build file " ++ path ++ " cannot be read: " ++ reason
  | .malformed fault => "Build file cannot be parsed: " ++ fault.message
  | .beyond bound => bound.message
  | .notAnObject => "Build file must contain a JSON object"
  | .missing name => "Build file key '" ++ name ++ "' not found"

end BuildTags.Build
