import BuildTags.Build.Basic
import BuildTags.Version.Date

namespace BuildTags.Version

def extension (name : Text) : Text :=
  match Text.cutLast? "." name with
  | some (_, extension) => extension
  | none => name

/-- The name of the file that a build produces: packages carry the variant and number of the build,
if there is one, and a date; other files keep their extension only. -/
def fileName (base : Option Text) (build : Option Build) (output : Text) (today : Date) :
    Except Numeral.Fault Text :=
  let base := match base with
    | none | some [] => "dev"
    | some base => base
  if Text.endsWith ".apk" output then
    match build with
    | some build => do
      let number ← Numeral.write build.number
      pure (base ++ '-' :: build.variant ++ "-vc" ++ number ++ '-' :: today.compact ++ ".apk")
    | none => pure (base ++ '-' :: today.compact ++ ".apk")
  else pure (base ++ '.' :: extension output)

end BuildTags.Version
