import BuildTags.Text.Basic

namespace BuildTags.Repository

inductive Fault
  | notStarted (reason : Text)
  | commandFailed (message : Text)
  | tagsUnlisted (repository reason : Text)
  | commitsUnlisted (after : Option Text) (upTo reason : Text)
  | refused (message : Text)
  deriving DecidableEq, Repr

def Fault.message : Fault → Text
  | .notStarted reason => "Failed to run git: " ++ reason
  | .commandFailed message => message
  | .tagsUnlisted repository reason => "Failed to list tags of " ++ repository ++ ": " ++ reason
  | .commitsUnlisted after upTo reason =>
    "Failed to list commits " ++ after.getD "None" ++ ".." ++ upTo ++ ": " ++ reason
  | .refused message => message

inductive Credential
  | token
  | repository
  deriving DecidableEq, Repr

def Credential.missingMessage : Credential → Text
  | .token => "GitHub token is required. Set GITHUB_TOKEN or pass token parameter."
  | .repository => "Repository is required. Set GITHUB_REPOSITORY or pass repository parameter."

end BuildTags.Repository
