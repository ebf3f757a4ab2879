import BuildTags.Build.Basic

namespace BuildTags.Version

inductive CodeStrategy
  | buildNumber
  | semanticFlattened
  deriving DecidableEq, Repr

inductive NameStrategy
  | tagName
  | version
  | versionNumber
  | versionVariant
  | versionNumberVariant
  deriving DecidableEq, Repr

def CodeStrategy.named : List (Text × CodeStrategy) :=
  [("build_number", .buildNumber), ("semantic_flattened", .semanticFlattened)]

def NameStrategy.named : List (Text × NameStrategy) :=
  [("build_version", .version), ("build_version_number", .versionNumber),
   ("build_version_number_variant", .versionNumberVariant),
   ("build_version_variant", .versionVariant), ("tag_name", .tagName)]

def CodeStrategy.ofName? (name : Text) : Option CodeStrategy :=
  (CodeStrategy.named.find? (·.1 = name)).map (·.2)

def NameStrategy.ofName? (name : Text) : Option NameStrategy :=
  (NameStrategy.named.find? (·.1 = name)).map (·.2)

/-- The first two groups of a version as numbers; a missing minor group is zero, and so is an empty
major one. -/
def majorMinor (version : Text) : Except Numeral.Fault (Int × Int) := do
  match version.splitOn '.' with
  | [] => pure (0, 0)
  | major :: rest =>
    let major ← if major = [] then pure 0 else Numeral.read major
    match rest with
    | [] => pure (major, 0)
    | minor :: _ => do pure (major, ← Numeral.read minor)

def flattened (major minor number : Int) : Int := (major * 1000 + minor) * 1000 + number

def CodeStrategy.code (build : Build) : CodeStrategy → Except Numeral.Fault Int
  | .buildNumber => pure build.number
  | .semanticFlattened => do
    let (major, minor) ← majorMinor build.version
    pure (flattened major minor build.number)

def NameStrategy.name (build : Build) : NameStrategy → Except Numeral.Fault Text
  | .tagName => pure build.name
  | .version => pure build.version
  | .versionNumber => do pure (build.version ++ '.' :: (← Numeral.write build.number))
  | .versionVariant => pure (build.version ++ '-' :: build.variant)
  | .versionNumberVariant => do
    pure (build.version ++ '.' :: (← Numeral.write build.number) ++ '-' :: build.variant)

end BuildTags.Version
