import BuildTags.Repository.Source
import BuildTags.Tag.Search
import BuildTags.Version.Stamp

namespace BuildTags.Version

/-- The version of a variant of a repository. The pattern is checked in any case; the source is only
asked where versions come from tags. -/
def ofSource (source : Repository.Source) (variant : Text) (settings : Settings)
    (tokens : Option (List Pattern.Token)) : Traced Stamp := do
  let pattern ← Pattern.prepare tokens variant
  let found ← if settings.fromTag then do
      Traced.note .info ("Searching last tag for '" ++ variant ++ "' with pattern " ++
        Pattern.writeTokens pattern.tokens)
      let tags ← source.allTags
      Match.searchLatest pattern tags
    else pure none
  Traced.notes (Stamp.notes found variant settings)
  Stamp.compute found variant settings

end BuildTags.Version
