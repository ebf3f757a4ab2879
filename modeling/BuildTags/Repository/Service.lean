import BuildTags.Json.Writer
import BuildTags.Repository.Source
import BuildTags.Text.Blank

namespace BuildTags.Repository

structure Refusal where
  status : Int
  data : Json.Value := .null
  message : Option Text := none

def Refusal.text (refusal : Refusal) : Except Numeral.Fault Text := do
  let status := Numeral.digits refusal.status
  let head : Text := match refusal.message with
    | none | some [] => status
    | some message => message ++ ": " ++ status
  match refusal.data with
  | .null => pure head
  | data => do pure (head ++ ' ' :: (← Json.write data))

def Refusal.shown (refusal : Refusal) : Text :=
  match refusal.text with
  | .ok text => text
  | .error fault => fault.message

structure Reference where
  name : Text
  sha : Text
  kind : Text

structure AnnotatedTag where
  sha : Text
  message : Option Text

structure ServiceAnswers where
  repository : Except Refusal Unit
  references : Except Refusal (List Reference)
  annotatedTag : Text → Except Refusal AnnotatedTag
  comparison : Except Refusal (List Commit)
  history : Except Refusal (List Commit)

namespace Service

variable {α : Type}

def refStart : Text := "refs/tags/"

def answer (failure : Text → Failure) : Except Refusal α → Traced α
  | .ok a => pure a
  | .error refusal => do
    let text ← refusal.text
    Traced.fail (failure text)

def target (answers : ServiceAnswers) (failure : Text → Failure) (reference : Reference) :
    Traced (Text × Text) := do
  if reference.kind = "tag" then
    Traced.request (.annotatedTag reference.sha)
    let annotated ← answer failure (answers.annotatedTag reference.sha)
    pure (annotated.sha, Text.trim (annotated.message.getD []))
  else pure (reference.sha, [])

def tagsOf (answers : ServiceAnswers) (failure : Text → Failure) :
    (order : Nat) → List Reference → Traced (List Tag)
  | _, [] => pure []
  | order, reference :: references => do
    let (sha, message) ← target answers failure reference
    let tags ← tagsOf answers failure (order + 1) references
    pure ({ name := Text.without refStart reference.name, sha, message, order } :: tags)

def allTags (repository : Text) (answers : ServiceAnswers) : Traced (List Tag) := do
  let failure (reason : Text) : Failure := .repository (.tagsUnlisted repository reason)
  Traced.request (.matchingReferences "tags/")
  let references ← answer failure answers.references
  let tags ← tagsOf answers failure 0 references
  Traced.note .debug ("Listed " ++ Nat.toDigits 10 tags.length ++ " tags from " ++ repository)
  pure tags

/-- The commits after one and up to another, or all up to it; the oldest comes first. -/
def commitsBetween (answers : ServiceAnswers) (after : Option Text) (upTo : Text) :
    Traced (List Commit) := do
  let failure (reason : Text) : Failure := .repository (.commitsUnlisted after upTo reason)
  match after with
  | none =>
    Traced.request (.history upTo)
    let commits ← answer failure answers.history
    pure commits.reverse
  | some base =>
    Traced.request (.compare base upTo)
    answer failure answers.comparison

end Service

def orVariable (value fallback : Text) : Text := if value = [] then fallback else value

def serviceSource (token repository : Text) (answers : ServiceAnswers) : Traced Source := do
  if token = [] then Traced.fail (.credential .token)
  else if repository = [] then Traced.fail (.credential .repository)
  else
    Traced.request (.signIn token)
    Traced.request (.openRepository repository)
    match answers.repository with
    | .error refusal => Traced.fail (.service refusal.shown)
    | .ok () =>
      pure {
        allTags := Service.allTags repository answers
        commitsBetween := Service.commitsBetween answers }

end BuildTags.Repository
