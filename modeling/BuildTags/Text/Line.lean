import BuildTags.Text.Basic

namespace BuildTags.Text

def lineEnds : Text :=
  ['\n', '\r', '\x0b', '\x0c', '\x1c', '\x1d', '\x1e', '\u0085', '\u2028', '\u2029']

/-- The lines of a text. A carriage return and the line feed after it are one line end, and
nothing follows a line end that stands last. -/
def lines : Text → List Text
  | [] => []
  | '\r' :: '\n' :: text => [] :: lines text
  | c :: text =>
    if c ∈ lineEnds then [] :: lines text
    else match lines text with
      | [] => [[c]]
      | line :: rest => (c :: line) :: rest

/-- Every line end is a line feed after this: a carriage return becomes one, together with a line
feed that follows it. -/
def uniformLines : Text → Text
  | [] => []
  | '\r' :: '\n' :: text => '\n' :: uniformLines text
  | '\r' :: text => '\n' :: uniformLines text
  | c :: text => c :: uniformLines text

end BuildTags.Text
