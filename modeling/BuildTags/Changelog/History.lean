import BuildTags.Build.Search
import BuildTags.Changelog.Rendering
import BuildTags.Repository.Source

namespace BuildTags.Changelog

structure History where
  snapshot : Snapshot
  commits : List Commit

def history (source : Repository.Source) (pattern : Pattern) : Traced (Option History) := do
  let tags ← source.allTags
  match ← Snapshot.search pattern tags with
  | none =>
    Traced.note .warning
      ("Failed to build a changelog for '" ++ pattern.variant ++ "': no build tags")
    pure none
  | some snapshot =>
    let commits ← source.commitsBetween (snapshot.previous.map (·.sha)) snapshot.current.sha
    pure (some ⟨snapshot, commits⟩)

def giveUp (variant : Text) : Failure → Option (Traced (Option History))
  | .repository fault => some do
    Traced.note .warning
      ("Failed to build a changelog for '" ++ variant ++ "': " ++ fault.message)
    pure none
  | _ => none

/-- The changelog of a variant of a repository. Without tags, and where the source does not answer,
it says that nothing has changed. -/
def ofSource (source : Repository.Source) (variant : Text) (settings : Settings)
    (tokens : Option (List Pattern.Token)) : Traced Text := do
  let pattern ← Pattern.prepare tokens variant
  match ← (history source pattern).recover (giveUp variant) with
  | none => pure noChanges
  | some ⟨snapshot, commits⟩ =>
    let previous := snapshot.previous
    let since : Text := (previous.map (·.name)).getD "the first commit"
    Traced.note .info ("Building changelog for '" ++ variant ++ "' from " ++
      Nat.toDigits 10 commits.length ++ " commits since " ++ since)
    render snapshot.current previous (commits.map (·.message)) settings

end BuildTags.Changelog
