import BuildTags.Changelog.Settings
import BuildTags.Pattern.Token
import BuildTags.Version.Settings

namespace BuildTags

structure Configuration.Output where
  name : Text
  baseFileName : Option Text := none
  version : Version.Settings := {}
  tokens : Option (List Pattern.Token) := none
  deriving DecidableEq, Repr

structure Configuration where
  outputs : List (Text × Configuration.Output) := []
  changelog : Changelog.Settings := {}

namespace Configuration

def defaultName : Text := "default"

def output? (configuration : Configuration) (name : Text) : Option Output :=
  (configuration.outputs.find? (·.1 = name)).map (·.2)

/-- The settings of a variant: its own, or the default ones, or plain ones. -/
def outputOf (configuration : Configuration) (variant : Text) : Output :=
  match configuration.output? variant with
  | some output => output
  | none => (configuration.output? defaultName).getD { name := defaultName }

end Configuration

end BuildTags
