import BuildTags.Failure
import BuildTags.Version.Settings
import BuildTags.Version.Strategy

namespace BuildTags.Version

structure Stamp where
  code : Option Int
  name : Option Text
  build : Option Build
  deriving DecidableEq, Repr

namespace Stamp

def ofBuild (build : Build) (settings : Settings) : Except Failure Stamp := do
  let some codeStrategy := CodeStrategy.ofName? settings.codeStrategy
    | throw (.configuration (.unknownStrategy settings.codeStrategy))
  let code ← codeStrategy.code build
  let some nameStrategy := NameStrategy.ofName? settings.nameStrategy
    | throw (.configuration (.unknownStrategy settings.nameStrategy))
  let name ← nameStrategy.name build
  pure ⟨some code, some name, some build⟩

def configured (settings : Settings) : Stamp :=
  if settings.defaultsFallback then ⟨settings.defaultCode, settings.defaultName, none⟩
  else ⟨none, none, none⟩

def compute (found : Option Match) (variant : Text) (settings : Settings) :
    Except Failure Stamp :=
  if !settings.fromTag then .ok (configured settings)
  else
    match found with
    | some found => ofBuild (Build.ofMatch found variant) settings
    | none =>
      if settings.stubFallback then ofBuild (Build.stub variant) settings
      else .error (.noTag variant)

def notes (found : Option Match) (variant : Text) (settings : Settings) : List Note :=
  if !settings.fromTag then
    if settings.defaultsFallback then [⟨.info, "Using default versions for '" ++ variant ++ "'"⟩]
    else [⟨.info, "Versions for '" ++ variant ++ "' are not set"⟩]
  else if found.isNone ∧ settings.stubFallback then
    [⟨.warning, "No tag found for '" ++ variant ++ "', using stub tag. Do not use it for release"⟩]
  else []

end Stamp

end BuildTags.Version
