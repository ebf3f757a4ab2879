import BuildTags.Build.Basic

namespace BuildTags

/-- The current build and the builds before it: the next lower number, and the highest lower number
on another commit. -/
structure Snapshot where
  current : Build
  predecessor : Option Build
  predecessorElsewhere : Option Build
  deriving DecidableEq, Repr

namespace Snapshot

def ofMatches? (variant : Text) (found : List Match) : Option Snapshot :=
  match Match.ranked found with
  | [] => none
  | current :: earlier => some {
      current := Build.ofMatch current variant
      predecessor := earlier.head?.map (Build.ofMatch · variant)
      predecessorElsewhere :=
        (earlier.find? (·.tag.sha ≠ current.tag.sha)).map (Build.ofMatch · variant) }

def ofTags? (pattern : Pattern) (tags : List Tag) : Except Numeral.Fault (Option Snapshot) :=
  (Match.ofTags pattern tags).map (ofMatches? pattern.variant)

/-- The build from which changes are counted; it is never on the current commit. -/
def previous (snapshot : Snapshot) : Option Build := snapshot.predecessorElsewhere

def sharesCommit (snapshot : Snapshot) : Bool :=
  snapshot.predecessor.any (·.sha = snapshot.current.sha)

def note (variant : Text) (snapshot : Snapshot) : Note :=
  let previous : Text := (snapshot.previous.map (·.name)).getD "None"
  ⟨.info, "Tag snapshot for '" ++ variant ++ "': current '" ++ snapshot.current.name ++
    "', previous '" ++ previous ++ "'"⟩

end Snapshot

end BuildTags
