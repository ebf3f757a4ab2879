import BuildTags.Text.Basic

namespace BuildTags.Repository

inductive Request
  | allTags
  | commitsBetween (after : Option Text) (upTo : Text)
  | command (folder : Text) (words : List Text)
  | signIn (token : Text)
  | openRepository (name : Text)
  | matchingReferences (start : Text)
  | annotatedTag (sha : Text)
  | compare (base head : Text)
  | history (sha : Text)
  deriving DecidableEq, Repr

end BuildTags.Repository
