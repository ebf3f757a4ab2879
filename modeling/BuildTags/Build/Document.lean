import BuildTags.Build.Basic
import BuildTags.Failure
import BuildTags.Host
import BuildTags.Json.Writer

namespace BuildTags.Build

def toJson (build : Build) : Json.Value := .object [
  ("name", .text build.name),
  ("commitSha", .text build.sha),
  ("message", .text build.message),
  ("buildVersion", .text build.version),
  ("buildVariant", .text build.variant),
  ("buildNumber", .whole build.number)]

def write (build : Build) : Except Numeral.Fault Text := Json.write build.toJson

def textMember (members : List (Text × Json.Value)) (name : Text) : Except Fault Text :=
  match Json.member? name members with
  | some (.text value) => .ok value
  | _ => .error (.missing name)

def wholeMember (members : List (Text × Json.Value)) (name : Text) : Except Fault Int :=
  match Json.member? name members with
  | some (.whole value) => .ok value
  | _ => .error (.missing name)

/-- The build of a document. Only the message may be missing. -/
def ofJson : Json.Value → Except Fault Build
  | .object members => do
    let name ← textMember members "name"
    let sha ← textMember members "commitSha"
    let version ← textMember members "buildVersion"
    let variant ← textMember members "buildVariant"
    let number ← wholeMember members "buildNumber"
    let message := match Json.member? "message" members with
      | some (.text value) => value
      | _ => []
    pure { name, sha, message, version, variant, number }
  | _ => .error .notAnObject

def read (text : Text) (host : Host := {}) : Except Failure Build :=
  match Json.read (some Numeral.maxDigits) text host.deepDocument with
  | .error (.numeral fault) => .error (.numeral fault)
  | .error (.beyond bound) => .error (.build (.beyond bound))
  | .error fault => .error (.build (.malformed fault))
  | .ok value => (ofJson value).mapError .build

end BuildTags.Build
