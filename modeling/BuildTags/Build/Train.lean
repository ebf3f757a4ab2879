import BuildTags.Build.Successor
import BuildTags.Build.Snapshot

/-!
A release train: tags come and go, and now and then the next build of a variant is tagged.
-/

namespace BuildTags.Train

inductive Step
  | add (tag : Tag)
  | delete (name : Text)
  | next (sha message : Text) (order : Nat)
  deriving DecidableEq, Repr

def latest (pattern : Pattern) (tags : List Tag) : Except Numeral.Fault Build :=
  (Snapshot.ofTags? pattern tags).map fun snapshot =>
    (snapshot.map (·.current)).getD (.stub pattern.variant)

def nextName (pattern : Pattern) (tags : List Tag) : Except Failure Text := do
  let build ← latest pattern tags
  build.successorName (some pattern.tokens)

def Step.take (pattern : Pattern) (tags : List Tag) :
    Step → Except Failure (List Tag × Option Text)
  | .add tag => pure (tags ++ [tag], none)
  | .delete name => pure (tags.filter (·.name ≠ name), none)
  | .next sha message order => do
    let name ← nextName pattern tags
    pure (tags ++ [{ name, sha, message, order }], some name)

end BuildTags.Train
