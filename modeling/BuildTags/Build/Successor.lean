import BuildTags.Build.Basic
import BuildTags.Failure

namespace BuildTags.Build

def splice (name : Text) (start stop : Nat) (digits : Text) : Text :=
  name.take start ++ digits ++ name.drop stop

/-- The tag name of the next build: the digits of the build number are replaced where the pattern
finds them. A name that the pattern does not fit has the last occurrence of the number replaced. -/
def successorName (build : Build) (tokens : Option (List Pattern.Token)) : Except Failure Text := do
  let next ← Numeral.write (build.number + 1)
  let pattern ← Pattern.ofTokens tokens build.variant
  match pattern.numberSpan? build.name with
  | some (start, stop) => pure (splice build.name start stop next)
  | none =>
    let number ← Numeral.write build.number
    match Text.cutLast? number build.name with
    | some (head, tail) => pure (head ++ next ++ tail)
    | none => pure build.name

end BuildTags.Build
