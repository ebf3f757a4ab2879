import BuildTags.Text.Basic

namespace BuildTags.Version

structure Settings where
  fromTag : Bool := true
  stubFallback : Bool := true
  defaultsFallback : Bool := true
  defaultCode : Option Int := none
  defaultName : Option Text := none
  codeStrategy : Text := "build_number"
  nameStrategy : Text := "tag_name"
  deriving DecidableEq, Repr

end BuildTags.Version
