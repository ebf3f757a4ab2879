import BuildTags.Text.Basic

namespace BuildTags

structure Tag where
  name : Text
  sha : Text
  message : Text := []
  order : Nat := 0
  deriving DecidableEq, Repr

structure Commit where
  sha : Text
  message : Text
  deriving DecidableEq, Repr

end BuildTags
