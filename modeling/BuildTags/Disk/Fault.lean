import BuildTags.Disk.Utf8

namespace BuildTags.Disk

inductive Refusal
  | notFound
  | alreadyThere
  | notAFolder
  | isAFolder
  | nameTooLong
  deriving DecidableEq, Repr

def Refusal.number : Refusal → Nat
  | .notFound => 2
  | .alreadyThere => 17
  | .notAFolder => 20
  | .isAFolder => 21
  | .nameTooLong => 36

def Refusal.message : Refusal → Text
  | .notFound => "No such file or directory"
  | .alreadyThere => "File exists"
  | .notAFolder => "Not a directory"
  | .isAFolder => "Is a directory"
  | .nameTooLong => "File name too long"

inductive Fault
  | refused (refusal : Refusal) (path : Text)
  | nullCharacter
  | undecodable (fault : Utf8.Fault)
  deriving DecidableEq, Repr

def Fault.message : Fault → Text
  | .refused refusal path =>
    "[Errno " ++ Nat.toDigits 10 refusal.number ++ "] " ++ refusal.message ++ ": " ++
      Text.quoted path
  | .nullCharacter => "embedded null byte"
  | .undecodable fault => fault.message

end BuildTags.Disk
