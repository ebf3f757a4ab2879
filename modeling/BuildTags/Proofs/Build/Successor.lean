import BuildTags.Build.Train
import BuildTags.Build.Search
import BuildTags.Proofs.Failure
import BuildTags.Proofs.Pattern.Renumber
import BuildTags.Proofs.Tag.Latest

namespace BuildTags

variable {pattern : Pattern} {tags : List Tag} {build : Build}

namespace Build

theorem stub_name (variant : Text) : (stub variant).name = "v0.0.1-" ++ variant := rfl

theorem successorName_eq {parts : Pattern.Parts} (hv : build.variant = pattern.variant)
    (hp : pattern.parts? build.name = some parts) :
    build.successorName (some pattern.tokens) = ((Numeral.write (build.number + 1)).map
      (splice build.name parts.number.start parts.number.stop)).mapError .numeral := by
  have hs : pattern.numberSpan? build.name = some (parts.number.start, parts.number.stop) := by
    rw [Pattern.numberSpan?_eq, hp]
    rfl
  have ht : (Pattern.ofTokens (some pattern.tokens) build.variant) = .ok pattern :=
    hv ▸ pattern.ofTokens_self
  rw [successorName, ht]
  cases Numeral.write (build.number + 1) with
  | error fault => rfl
  | ok next =>
    simp only [liftM, monadLift, MonadLift.monadLift, mapError_ok, ok_bind, hs]
    rfl

theorem successorName_of_none {head tail number next : Text} (hv : build.variant = pattern.variant)
    (hp : pattern.parts? build.name = none) (hn : Numeral.write build.number = .ok number)
    (hn' : Numeral.write (build.number + 1) = .ok next)
    (hc : Text.cutLast? number build.name = some (head, tail)) :
    build.successorName (some pattern.tokens) = .ok (head ++ next ++ tail) := by
  have hs : pattern.numberSpan? build.name = none := by
    rw [Pattern.numberSpan?_eq, hp]
    rfl
  have ht : (Pattern.ofTokens (some pattern.tokens) build.variant) = .ok pattern :=
    hv ▸ pattern.ofTokens_self
  rw [successorName, ht, hn', hn]
  simp only [liftM, monadLift, MonadLift.monadLift, mapError_ok, ok_bind, hs, hc]
  rfl

theorem reports_successorName (build : Build) (tokens : Option (List Pattern.Token)) :
    Reports (build.successorName tokens) := by
  refine .bind (.mapError fun _ ↦ rfl) fun next _ ↦ .bind (.mapError fun _ ↦ rfl) fun pattern _ ↦ ?_
  split
  · exact .ok _
  · refine .bind (.mapError fun _ ↦ rfl) fun number _ ↦ ?_
    split <;> exact .ok _

end Build

namespace Train

/-- What the tag of a new build is among the tags that were there before: it has a name of its own,
with a version and a number, and it is the latest one of all. -/
structure Advances (pattern : Pattern) (tags : List Tag) (version : Text) (number : Int)
    (made : Tag) : Prop where
  fresh : ∀ tag ∈ tags, tag.name ≠ made.name
  reads : pattern.read made.name = .ok (some (version, number))
  latest : (Match.searchLatest pattern (tags ++ [made])).outcome = .ok (some ⟨made, version, number⟩)
  current : ∃ snapshot, (Snapshot.search pattern (tags ++ [made])).outcome = .ok (some snapshot) ∧
    snapshot.current = Build.ofMatch ⟨made, version, number⟩ pattern.variant

theorem latest_eq (pattern : Pattern) (tags : List Tag) : latest pattern tags =
    (Match.ofTags pattern tags).map fun found ↦
      ((Match.latest found).map (Build.ofMatch · pattern.variant)).getD (.stub pattern.variant) := by
  rw [latest, Snapshot.ofTags?]
  cases Match.ofTags pattern tags with
  | error fault => rfl
  | ok found => simp [Except.map, Snapshot.current_ofMatches?]

theorem latest_eq_ok_iff : latest pattern tags = .ok build ↔
    ∃ found, Match.ofTags pattern tags = .ok found ∧
      build = ((Match.latest found).map (Build.ofMatch · pattern.variant)).getD
        (.stub pattern.variant) := by
  rw [latest_eq, map_eq_ok_iff]
  simp only [eq_comm]

end Train

end BuildTags
