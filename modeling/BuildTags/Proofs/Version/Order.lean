import BuildTags.Proofs.Pattern.Group
import BuildTags.Proofs.Tag.Order
import BuildTags.Proofs.Version.Search

namespace BuildTags.Version

theorem Stamp.compute_congr {found found' : Option Match} {variant : Text}
    (h : found.map (Build.ofMatch · variant) = found'.map (Build.ofMatch · variant))
    (settings : Settings) : compute found variant settings = compute found' variant settings := by
  cases found with
  | none =>
    cases found' with
    | none => rfl
    | some found' => cases h
  | some found =>
    cases found' with
    | none => cases h
    | some found' =>
      have hbuild : Build.ofMatch found variant = Build.ofMatch found' variant := Option.some.inj h
      simp only [compute, hbuild]

variable {source source' : Repository.Source} {tags tags' : List Tag}

/-- Two sources with the same tags give the same version, in whatever order each of them lists the
tags, if no two tags of the variant share a build number. -/
theorem outcome_ofSource_congr (hs : source.allTags.outcome = .ok tags)
    (hs' : source'.allTags.outcome = .ok tags')
    (hp : (tags.map Tag.unplaced).Perm (tags'.map Tag.unplaced))
    (hg : ∀ tag ∈ tags, tag.name.HasShortGroups) (hg' : ∀ tag ∈ tags', tag.name.HasShortGroups)
    {variant : Text} {tokens : Option (List Pattern.Token)}
    (hn : ∀ pattern, Pattern.ofTokens tokens variant = .ok pattern →
      pattern.TellsApart (tags.map (·.name))) (settings : Settings) :
    (ofSource source variant settings tokens).outcome =
      (ofSource source' variant settings tokens).outcome := by
  cases hpattern : Pattern.ofTokens tokens variant with
  | error fault =>
    rw [outcome_ofSource_of_error hpattern, outcome_ofSource_of_error hpattern]
  | ok pattern =>
    cases hf : settings.fromTag with
    | false =>
      rw [outcome_ofSource_of_configured hpattern hf, outcome_ofSource_of_configured hpattern hf]
    | true =>
      have hnumbers : ((tags.filterMap (Match.ofTag? pattern)).map (·.number)).Nodup := by
        rw [Match.map_number_filterMap_ofTag?]
        exact hn pattern hpattern
      have hbuilds : ((tags.filterMap (Match.ofTag? pattern)).map (Build.ofMatch · variant)).Perm
          ((tags'.filterMap (Match.ofTag? pattern)).map (Build.ofMatch · variant)) :=
        Match.perm_map_ofMatch hp
      have hlatest := Match.map_ofMatch_latest hbuilds hnumbers
      rw [outcome_ofSource_of_fromTag hpattern hf, outcome_ofSource_of_fromTag hpattern hf, hs, hs',
        ok_bind, ok_bind, Match.outcome_searchLatest, Match.outcome_searchLatest,
        Match.ofTags_of_hasShortGroups hg, Match.ofTags_of_hasShortGroups hg']
      exact Stamp.compute_congr hlatest settings

end BuildTags.Version
