import BuildTags.Text.Blank
import BuildTags.Text.Line

namespace BuildTags.Changelog

def trimmed? (text : Text) : Option Text :=
  match Text.trim text with
  | [] => none
  | text => some text

/-- The entries of one message: the whole of it, or the rest of each line that begins with the key,
a colon and a blank. -/
def entriesOf (key : Option Text) (message : Text) : List Text :=
  match key with
  | none | some [] => (trimmed? message).toList
  | some key =>
    (Text.lines message).filterMap fun line => (Text.after? (key ++ ": ") line).bind trimmed?

/-- The entries of messages from the oldest to the newest; those of the newest message come
first. -/
def entries (key : Option Text) (messages : List Text) : List Text :=
  messages.reverse.flatMap (entriesOf key)

end BuildTags.Changelog
