import BuildTags.Build.Basic
import BuildTags.Changelog.Entry
import BuildTags.Changelog.Settings
import BuildTags.Failure

namespace BuildTags.Changelog

def withLinks (settings : Settings) (text : Text) : Except Failure Text :=
  match LinkFormat.ofName? settings.linkFormat with
  | none => .error (.linkFormat settings.linkFormat)
  | some format => .ok ((settings.issues.regex.segments text).flatMap fun segment =>
      match segment with
      | .between text => text
      | .found issue => format.link issue (settings.urlStart ++ issue))

def noChanges : Text := "No changes compared to the previous build"

def noChangesSince (previous : Option Build) : Text :=
  match previous with
  | none => noChanges
  | some build => noChanges ++ " (" ++ build.name ++ ")"

def bulletLines (settings : Settings) : List Text → Except Failure (List Text)
  | [] => .ok []
  | entry :: entries => do
    let linked ← withLinks settings entry
    let rest ← bulletLines settings entries
    pure (("• " ++ linked) :: rest)

def heading (current : Build) : List Text :=
  match trimmed? current.message with
  | some message => ['*' :: message ++ ['*']]
  | none => []

def render (current : Build) (previous : Option Build) (messages : List Text)
    (settings : Settings) : Except Failure Text := do
  let lines ← bulletLines settings (entries settings.key messages)
  match lines, previous with
  | [], none => pure noChanges
  | [], previous => pure (Text.trim (Text.join "\n" (heading current ++ [noChangesSince previous])))
  | lines, _ => pure (Text.trim (Text.join "\n" (heading current ++ lines)))

end BuildTags.Changelog
