import BuildTags.Host
import BuildTags.Regex.Segment

namespace BuildTags.Changelog

inductive LinkFormat
  | html
  | markdown
  | slack
  deriving DecidableEq, Repr

def LinkFormat.named : List (Text × LinkFormat) :=
  [("html", .html), ("markdown", .markdown), ("slack", .slack)]

def LinkFormat.ofName? (name : Text) : Option LinkFormat :=
  (LinkFormat.named.find? (·.1 = name)).map (·.2)

def LinkFormat.template : LinkFormat → Text
  | .html => "<a href=\"\x7burl\x7d\">\x7bissue\x7d</a>"
  | .markdown => "[\x7bissue\x7d](\x7burl\x7d)"
  | .slack => "<\x7burl\x7d|\x7bissue\x7d>"

/-- A template with values for its names. What is put in is not read again. -/
def fill (value : Text → Text) : (name : Option Text) → (template : Text) → Text
  | _, [] => []
  | none, c :: rest =>
    if c = '\x7b' then fill value (some []) rest else c :: fill value none rest
  | some name, c :: rest =>
    if c = '\x7d' then value name ++ fill value none rest
    else fill value (some (name ++ [c])) rest

def LinkFormat.link (issue url : Text) (format : LinkFormat) : Text :=
  fill (fun name => if name = "issue" then issue else url) none format.template

structure IssuePattern where
  source : Text
  regex : Regex
  reads : ∃ named, (Regex.read source named).toOption = some regex
  deriving DecidableEq

namespace IssuePattern

def read (source : Text) (host : Host := {}) : Except Regex.Fault IssuePattern :=
  if host.deepExpression source then .error .tooDeep
  else match h : Regex.read source host.named with
    | .ok regex => .ok ⟨source, regex, host.named, by rw [h]; rfl⟩
    | .error fault => .error fault

def keyAndNumber : IssuePattern where
  source := "[A-Z][A-Z0-9]+-\\d+"
  regex := ⟨.seq (.letter (.set [.range 0x41 0x5a] .exact false false))
    (.seq (.loop .most 1 none
        (.letter (.set [.range 0x41 0x5a, .range 0x30 0x39] .exact false false)))
      (.seq (.letter (.code 0x2d .exact false))
        (.loop .most 1 none (.letter (.set [.category .digit false] .exact false false)))))⟩
  reads := ⟨fun _ => none, by decide +kernel⟩

end IssuePattern

structure Settings where
  issues : IssuePattern := .keyAndNumber
  urlStart : Text := []
  key : Option Text := none
  linkFormat : Text := "markdown"

end BuildTags.Changelog
