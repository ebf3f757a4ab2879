import BuildTags.Proofs.Build.Successor
import BuildTags.Proofs.Pattern.Group

namespace BuildTags.Train

open Pattern (defaultTokens)

variable {pattern : Pattern} {tags : List Tag} {build : Build} {made : Tag}

theorem number_le_of_latest (h : latest pattern tags = .ok build) {tag : Tag} (ht : tag ∈ tags)
    {version : Text} {number : Int} (hr : pattern.read tag.name = .ok (some (version, number))) :
    number ≤ build.number := by
  obtain ⟨found, hf, rfl⟩ := latest_eq_ok_iff.1 h
  obtain ⟨-, rfl⟩ := Match.ofTags_eq_ok_iff.1 hf
  have hm : ⟨tag, version, number⟩ ∈ tags.filterMap (Match.ofTag? pattern) :=
    List.mem_filterMap.2 ⟨tag, ht, Match.ofTag?_eq_some_iff.2 ⟨rfl, hr⟩⟩
  cases hl : Match.latest (tags.filterMap (Match.ofTag? pattern)) with
  | none =>
    rw [Match.latest_eq_none_iff.1 hl] at hm
    cases hm
  | some best => exact (Match.latest_spec hl).2 _ hm

section

variable {version : Text} {number : Int}

theorem exists_ofTags_append (h : latest pattern tags = .ok build) (hlt : build.number < number)
    (hr : pattern.read made.name = .ok (some (version, number))) :
    ∃ found, Match.ofTags pattern (tags ++ [made]) = .ok found ∧
      Match.latest found = some ⟨made, version, number⟩ := by
  obtain ⟨found, hf, -⟩ := latest_eq_ok_iff.1 h
  obtain ⟨hread, rfl⟩ := Match.ofTags_eq_ok_iff.1 hf
  have hm : Match.ofTag? pattern made = some ⟨made, version, number⟩ :=
    Match.ofTag?_eq_some_iff.2 ⟨rfl, hr⟩
  refine ⟨tags.filterMap (Match.ofTag? pattern) ++ [⟨made, version, number⟩],
    Match.ofTags_eq_ok_iff.2 ⟨fun tag ht ↦ ?_, ?_⟩, Match.latest_append_of_le fun m hm ↦ ?_⟩
  · obtain ht | ht := List.mem_append.1 ht
    · exact hread tag ht
    · exact List.mem_singleton.1 ht ▸ ⟨_, hr⟩
  · rw [List.filterMap_append, List.filterMap_cons, hm, List.filterMap_nil]
  · obtain ⟨tag, ht, hm⟩ := List.mem_filterMap.1 hm
    obtain ⟨rfl, hm⟩ := Match.ofTag?_eq_some_iff.1 hm
    exact Int.le_trans (number_le_of_latest h ht hm) (Int.le_of_lt hlt)

theorem latest_append (h : latest pattern tags = .ok build) (hlt : build.number < number)
    (hr : pattern.read made.name = .ok (some (version, number))) :
    latest pattern (tags ++ [made]) =
      .ok (Build.ofMatch ⟨made, version, number⟩ pattern.variant) := by
  obtain ⟨found, hf, hl⟩ := exists_ofTags_append h hlt hr
  exact latest_eq_ok_iff.2 ⟨found, hf, by rw [hl]; rfl⟩

/-- A name with a greater number is new, and the latest of all. -/
theorem advances_of_read (h : latest pattern tags = .ok build) (hlt : build.number < number)
    (hr : pattern.read made.name = .ok (some (version, number))) :
    Advances pattern tags version number made := by
  obtain ⟨found, hf, hl⟩ := exists_ofTags_append h hlt hr
  refine ⟨fun tag ht he ↦ ?_, hr, ?_, ?_⟩
  · have hle := number_le_of_latest h ht (he ▸ hr)
    omega
  · rw [Match.outcome_searchLatest, hf, Except.map, hl]
    rfl
  · have hc := Snapshot.current_ofMatches? pattern.variant found
    rw [hl] at hc
    obtain ⟨snapshot, hs, hcur⟩ := Option.map_eq_some_iff.1 hc
    refine ⟨snapshot, ?_, hcur⟩
    rw [Snapshot.outcome_search, Snapshot.ofTags?, hf, Except.map, hs]
    rfl

end

theorem parts?_stub (h : pattern.tokens = defaultTokens) :
    pattern.parts? (Build.stub pattern.variant).name = some ⟨"0.0", ⟨5, "1"⟩⟩ := by
  have hv : Pattern.IsVersion "0.0.1" :=
    .group (by decide) (.group (by decide) (.digit (by decide)))
  have hf : Pattern.ReadsFirst pattern.variant (Build.stub pattern.variant).name "v" "0.0.1"
      ([] ++ []) := by
    have he : (Build.stub pattern.variant).name =
        "v" ++ ("0.0.1" ++ '-' :: (pattern.variant ++ ([] ++ []))) := by
      simp [Build.stub_name]
    exact Pattern.ReadsAs.readsFirst_of_singleton (by decide) ⟨he, by decide, hv, List.not_mem_nil⟩
  rw [Pattern.parts?, Pattern.cut?, h, hf.parts?_eq (List.forall_mem_nil _) Pattern.beginsNoDigit_nil]
  rfl

theorem exists_parts?_of_latest (ht : pattern.tokens = defaultTokens)
    (h : latest pattern tags = .ok build) : build.variant = pattern.variant ∧
      ∃ parts, pattern.parts? build.name = some parts ∧ parts.version = build.version ∧
        (Numeral.valueOf parts.number.text : Int) = build.number := by
  obtain ⟨found, hf, rfl⟩ := latest_eq_ok_iff.1 h
  obtain ⟨-, rfl⟩ := Match.ofTags_eq_ok_iff.1 hf
  cases hl : Match.latest (tags.filterMap (Match.ofTag? pattern)) with
  | none =>
    have hn : Numeral.valueOf "1" = 1 := by decide
    exact ⟨rfl, _, parts?_stub ht, rfl, congrArg Nat.cast hn⟩
  | some best =>
    obtain ⟨tag, -, hm⟩ := List.mem_filterMap.1 (Match.latest_spec hl).1
    obtain ⟨-, hr⟩ := Match.ofTag?_eq_some_iff.1 hm
    obtain ⟨parts, hp, hv, -, hn⟩ := Pattern.read_eq_ok_some_iff.1 hr
    obtain rfl := (Match.ofTag?_eq_some_iff.1 hm).1
    exact ⟨rfl, parts, hp, hv, hn⟩

theorem nextName_of_latest (h : latest pattern tags = .ok build) :
    nextName pattern tags = build.successorName (some pattern.tokens) := by
  rw [nextName, h]
  rfl

/-- Whether there are too many digits to tag the next build: in a row in the name of a tag, or in the
number after the latest one. -/
def MeetsLimit (pattern : Pattern) (tags : List Tag) : Prop :=
  (∃ tag ∈ tags, ¬tag.name.HasShortGroups) ∨
  ∃ build, latest pattern tags = .ok build ∧
    Numeral.maxDigits < (Nat.toDigits 10 (build.number + 1).natAbs).length

theorem exists_limit_of_latest {fault : Numeral.Fault} (h : latest pattern tags = .error fault) :
    fault.IsLimit ∧ ∃ tag ∈ tags, ¬tag.name.HasShortGroups := by
  rw [latest, Snapshot.ofTags?, map_eq_error_iff, map_eq_error_iff] at h
  obtain ⟨tag, hm, hr⟩ := Match.exists_read_error_of_ofTags h
  obtain ⟨digits, rfl⟩ := Pattern.eq_tooLong_of_read hr
  refine ⟨trivial, tag, hm, fun hs ↦ ?_⟩
  obtain ⟨parts, hp⟩ : ∃ parts, pattern.read tag.name = .ok parts := Pattern.exists_read hs
  rw [hp] at hr
  cases hr

/-- Under the default tokens the name of the next build is read with the version of the build before
it and the number after it, unless there are too many digits. -/
theorem nextName_default (ht : pattern.tokens = defaultTokens) (hdot : '.' ∉ pattern.variant)
    (tags : List Tag) :
    (MeetsLimit pattern tags ∧
      ∃ fault : Numeral.Fault, fault.IsLimit ∧ nextName pattern tags = .error (.numeral fault)) ∨
      ∃ build name, latest pattern tags = .ok build ∧ nextName pattern tags = .ok name ∧
        pattern.read name = .ok (some (build.version, build.number + 1)) := by
  cases hl : latest pattern tags with
  | error fault =>
    obtain ⟨hlimit, hlong⟩ := exists_limit_of_latest hl
    exact .inl ⟨.inl hlong, fault, hlimit, by rw [nextName, hl]; rfl⟩
  | ok build =>
    obtain ⟨hv, parts, hp, hversion, hn⟩ := exists_parts?_of_latest ht hl
    have hname := (nextName_of_latest hl).trans (Build.successorName_eq hv hp)
    have hw := Numeral.write_natCast (Numeral.valueOf parts.number.text + 1)
    rw [Int.natCast_succ, hn] at hw
    rw [hw] at hname
    split at hname
    · rename_i hlong
      have hnumber : (build.number + 1).natAbs = Numeral.valueOf parts.number.text + 1 := by omega
      exact .inl ⟨.inr ⟨build, hl, by rwa [hnumber]⟩, .tooLarge, trivial, hname⟩
    · rename_i hle
      have hmade : pattern.parts? (Build.splice build.name parts.number.start parts.number.stop
          (Nat.toDigits 10 (Numeral.valueOf parts.number.text + 1))) = some ⟨parts.version,
            ⟨parts.number.start, Nat.toDigits 10 (Numeral.valueOf parts.number.text + 1)⟩⟩ := by
        rw [Pattern.parts?, Pattern.cut?, ht] at hp ⊢
        exact Pattern.parts?_splice_of_default hdot hp Nat.toDigits_ne_nil
          (Numeral.digits_toDigits _)
      refine .inr ⟨build, _, rfl, hname, Pattern.read_eq_ok_some_iff.2
        ⟨_, hmade, hversion, Nat.not_lt.1 hle, ?_⟩⟩
      rw [Numeral.ofDigits_toDigits, Int.natCast_succ, hn]

end BuildTags.Train
