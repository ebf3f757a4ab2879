import BuildTags.Tag.Match

namespace BuildTags

structure Build where
  name : Text
  sha : Text
  message : Text
  version : Text
  variant : Text
  number : Int
  deriving DecidableEq, Repr

namespace Build

def ofMatch (found : Match) (variant : Text) : Build where
  name := found.tag.name
  sha := found.tag.sha
  message := found.tag.message
  version := found.version
  variant := variant
  number := found.number

def stub (variant : Text) : Build where
  name := "v0.0.1-" ++ variant
  sha := "hardcoded_default_stub_commit_sha"
  message := "hardcoded_default_stub_commit_message"
  version := "0.0"
  variant := variant
  number := 1

end Build

end BuildTags
