import BuildTags.Tag.Basic
import BuildTags.Traced

namespace BuildTags.Repository

structure Source where
  allTags : Traced (List Tag)
  commitsBetween : (after : Option Text) → (upTo : Text) → Traced (List Commit)

def Source.prepared (tags : Except Fault (List Tag)) (commits : Except Fault (List Commit)) :
    Source where
  allTags := do
    Traced.request .allTags
    Traced.of (tags.mapError .repository)
  commitsBetween after upTo := do
    Traced.request (.commitsBetween after upTo)
    Traced.of (commits.mapError .repository)

end BuildTags.Repository
