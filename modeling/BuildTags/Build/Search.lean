import BuildTags.Build.Successor
import BuildTags.Build.Snapshot
import BuildTags.Tag.Search

namespace BuildTags

def Snapshot.search (pattern : Pattern) (tags : List Tag) : Traced (Option Snapshot) := do
  let found ← Match.search pattern tags
  let snapshot := Snapshot.ofMatches? pattern.variant found
  Traced.notes (snapshot.map (Snapshot.note pattern.variant)).toList
  pure snapshot

namespace Build

def successorNotes (build : Build) (tokens : Option (List Pattern.Token)) : List Note :=
  match Numeral.write (build.number + 1), Pattern.ofTokens tokens build.variant with
  | .ok _, .ok pattern =>
    if (pattern.numberSpan? build.name).isSome then [pattern.note]
    else [pattern.note, ⟨.debug, "Tag '" ++ build.name ++
      "' does not match its pattern, replacing the last build number"⟩]
  | _, _ => []

def successor (build : Build) (tokens : Option (List Pattern.Token)) : Traced Text :=
  ⟨(build.successorNotes tokens).map .note, build.successorName tokens⟩

end Build

end BuildTags
