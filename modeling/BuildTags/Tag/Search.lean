import BuildTags.Tag.Match
import BuildTags.Traced

namespace BuildTags

namespace Match

def search (pattern : Pattern) (tags : List Tag) : Traced (List Match) :=
  ⟨(searchNotes pattern tags).map .note, (ofTags pattern tags).mapError .numeral⟩

def searchLatest (pattern : Pattern) (tags : List Tag) : Traced (Option Match) := do
  let found ← search pattern tags
  let best := latest found
  Traced.notes [latestNote pattern best]
  pure best

end Match

namespace Pattern

def note (pattern : Pattern) : Note :=
  ⟨.debug, "Compiled tag pattern for '" ++ pattern.variant ++ "': " ++ pattern.expression⟩

def prepare (tokens : Option (List Token)) (variant : Text) : Traced Pattern := do
  let pattern ← ofTokens tokens variant
  Traced.notes [pattern.note]
  pure pattern

end Pattern

end BuildTags
