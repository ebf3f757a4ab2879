import BuildTags.Note
import BuildTags.Pattern.Basic
import BuildTags.Tag.Basic

namespace BuildTags

structure Match where
  tag : Tag
  version : Text
  number : Int
  deriving DecidableEq, Repr

namespace Match

def ofTag (pattern : Pattern) (tag : Tag) : Except Numeral.Fault (Option Match) := do
  match ← pattern.read tag.name with
  | some (version, number) => pure (some ⟨tag, version, number⟩)
  | none => pure none

def ofTags (pattern : Pattern) : List Tag → Except Numeral.Fault (List Match)
  | [] => .ok []
  | tag :: tags => do
    let first ← ofTag pattern tag
    let rest ← ofTags pattern tags
    pure (first.toList ++ rest)

/-- The match with the greatest build number; of equal numbers the one that comes last. -/
def latest (found : List Match) : Option Match :=
  found.foldl (fun best next =>
    match best with
    | some best => if best.number ≤ next.number then some next else some best
    | none => some next) none

def ranked (found : List Match) : List Match :=
  found.reverse.mergeSort fun a b => b.number ≤ a.number

def skipNotes (pattern : Pattern) (tag : Tag) : List Note :=
  let skipped : Note := ⟨.debug,
    "Skipping tag '" ++ tag.name ++ "': does not match pattern for '" ++ pattern.variant ++ "'"⟩
  if pattern.fitsWithoutNumber tag.name then
    [⟨.debug, "Tag '" ++ tag.name ++ "' matched but carries no build number"⟩, skipped]
  else [skipped]

def tagNotes (pattern : Pattern) : List Tag → List Note
  | [] => []
  | tag :: tags =>
    match ofTag pattern tag with
    | .error _ => []
    | .ok none => skipNotes pattern tag ++ tagNotes pattern tags
    | .ok (some _) => tagNotes pattern tags

def namesOrNone (names : List Text) : Text :=
  let joined := Text.join ", " names
  if joined = [] then "none" else joined

def searchNotes (pattern : Pattern) (tags : List Tag) : List Note :=
  tagNotes pattern tags ++
    match ofTags pattern tags with
    | .error _ => []
    | .ok found =>
      [⟨.debug, "Tags matching pattern for '" ++ pattern.variant ++ "': " ++
        namesOrNone (found.map (·.tag.name))⟩]

def latestNote (pattern : Pattern) : Option Match → Note
  | none => ⟨.info, "No tag matches the pattern for '" ++ pattern.variant ++ "'"⟩
  | some found => ⟨.info, "Last tag for '" ++ pattern.variant ++ "' is '" ++ found.tag.name ++
      "' (build number " ++ Numeral.digits found.number ++ ")"⟩

end Match

end BuildTags
