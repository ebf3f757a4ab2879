import BuildTags.Text.Basic

namespace BuildTags.CommandLine

structure Environment where
  bindings : List (Text × Text) := []
  deriving DecidableEq, Repr

def Environment.get? (environment : Environment) (name : Text) : Option Text :=
  (environment.bindings.find? (·.1 = name)).map (·.2)

def Environment.getOr (environment : Environment) (name default : Text) : Text :=
  (environment.get? name).getD default

end BuildTags.CommandLine
