import BuildTags.Build.Fault
import BuildTags.Configuration.Fault
import BuildTags.Disk.Fault
import BuildTags.Pattern.Fault
import BuildTags.Repository.Fault

namespace BuildTags

inductive Failure
  | pattern (fault : Pattern.Fault)
  | noTag (variant : Text)
  | build (fault : Build.Fault)
  | configuration (fault : Configuration.Fault)
  | repository (fault : Repository.Fault)
  | credential (missing : Repository.Credential)
  | service (message : Text)
  | numeral (fault : Numeral.Fault)
  | regex (fault : Regex.Fault)
  | linkFormat (name : Text)
  | disk (fault : Disk.Fault)
  deriving DecidableEq, Repr

namespace Failure

def message : Failure → Text
  | .pattern fault => fault.message
  | .noTag variant =>
    "There is no last tag for '" ++ variant ++ "' build variant. " ++
      "Check that a tag for that build variant exists and was fetched."
  | .build fault => fault.message
  | .configuration fault => fault.message
  | .repository fault => fault.message
  | .credential missing => missing.missingMessage
  | .service message => message
  | .numeral fault => fault.message
  | .regex fault => fault.message
  | .linkFormat name => Text.quoted name
  | .disk fault => fault.message

/-- Whether a command reports the failure and ends. The others end the program where they arise: a
refusal of the service itself, an unknown link format, a number of rounds out of range, and a text
beyond what can be read. -/
def isReported : Failure → Bool
  | .service _ | .linkFormat _ | .regex .countTooLarge | .regex .tooDeep => false
  | .configuration (.beyond _) | .build (.beyond _) => false
  | _ => true

end Failure

instance : MonadLift (Except Pattern.Fault) (Except Failure) := ⟨Except.mapError .pattern⟩

instance : MonadLift (Except Numeral.Fault) (Except Failure) := ⟨Except.mapError .numeral⟩

end BuildTags
