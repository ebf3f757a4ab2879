import BuildTags.Proofs.Tag.Latest
import Mathlib.Data.List.Nodup

namespace BuildTags

def Tag.unplaced (tag : Tag) : Tag := { tag with order := 0 }

def Pattern.number? (pattern : Pattern) (name : Text) : Option Int :=
  match pattern.read name with
  | .ok (some (_, number)) => some number
  | _ => none

def Pattern.TellsApart (pattern : Pattern) (names : List Text) : Prop :=
  (names.filterMap pattern.number?).Nodup

def Match.unplaced (found : Match) : Match := { found with tag := found.tag.unplaced }

namespace Match

variable {pattern : Pattern} {variant : Text} {tags tags' : List Tag} {found found' : List Match}

theorem number_unplaced (found : Match) : found.unplaced.number = found.number := rfl

theorem map_number_ofTag? (tag : Tag) :
    (ofTag? pattern tag).map (·.number) = pattern.number? tag.name := by
  rw [ofTag?, Pattern.number?]
  cases pattern.read tag.name with
  | error fault => rfl
  | ok parts => cases parts <;> rfl

theorem map_number_filterMap_ofTag? (tags : List Tag) :
    (tags.filterMap (ofTag? pattern)).map (·.number) =
      (tags.map (·.name)).filterMap pattern.number? := by
  rw [List.map_filterMap, List.filterMap_map]
  apply List.filterMap_congr
  intro tag _
  exact map_number_ofTag? tag

theorem ofTag?_unplaced (pattern : Pattern) (tag : Tag) :
    ofTag? pattern tag.unplaced = (ofTag? pattern tag).map unplaced := by
  have hname (tag : Tag) : tag.unplaced.name = tag.name := rfl
  exact ofTag?_change hname pattern tag

theorem map_ofMatch_filterMap (tags : List Tag) :
    (tags.filterMap (ofTag? pattern)).map (Build.ofMatch · variant) =
      (tags.map Tag.unplaced).filterMap fun tag ↦
        (ofTag? pattern tag).map (Build.ofMatch · variant) := by
  rw [List.map_filterMap, List.filterMap_map]
  apply List.filterMap_congr
  intro tag _
  rw [Function.comp_apply, ofTag?_unplaced, Option.map_map]
  rfl

theorem perm_map_ofMatch (hp : (tags.map Tag.unplaced).Perm (tags'.map Tag.unplaced)) :
    ((tags.filterMap (ofTag? pattern)).map (Build.ofMatch · variant)).Perm
      ((tags'.filterMap (ofTag? pattern)).map (Build.ofMatch · variant)) := by
  rw [map_ofMatch_filterMap, map_ofMatch_filterMap]
  exact hp.filterMap _

/-- Where no two matches share a number, the build of the latest one does not depend on the order of
the matches. -/
theorem map_ofMatch_latest
    (hp : (found.map (Build.ofMatch · variant)).Perm (found'.map (Build.ofMatch · variant)))
    (hn : (found.map (·.number)).Nodup) :
    (latest found).map (Build.ofMatch · variant) = (latest found').map (Build.ofMatch · variant) := by
  cases hb : latest found with
  | none =>
    obtain rfl : found = [] := latest_eq_none_iff.1 hb
    obtain rfl : found' = [] := List.map_eq_nil_iff.1 hp.symm.eq_nil
    rfl
  | some best =>
    obtain ⟨hbest, hgreatest⟩ := latest_spec hb
    have hmem : Build.ofMatch best variant ∈ found'.map (Build.ofMatch · variant) :=
      hp.mem_iff.1 (List.mem_map_of_mem hbest)
    obtain ⟨m', hm', hbuild'⟩ := List.mem_map.1 hmem
    cases hb' : latest found' with
    | none =>
      obtain rfl : found' = [] := latest_eq_none_iff.1 hb'
      cases hm'
    | some best' =>
      obtain ⟨hbest', hgreatest'⟩ := latest_spec hb'
      have hmem' : Build.ofMatch best' variant ∈ found.map (Build.ofMatch · variant) :=
        hp.mem_iff.2 (List.mem_map_of_mem hbest')
      obtain ⟨m, hm, hbuild⟩ := List.mem_map.1 hmem'
      have hnumber' : m'.number = best.number := congrArg Build.number hbuild'
      have hnumber : m.number = best'.number := congrArg Build.number hbuild
      have hle := hgreatest m hm
      have hle' := hgreatest' m' hm'
      have hsame : m.number = best.number := by omega
      obtain rfl : m = best := List.inj_on_of_nodup_map hn hm hbest hsame
      exact congrArg some hbuild

end Match

end BuildTags
