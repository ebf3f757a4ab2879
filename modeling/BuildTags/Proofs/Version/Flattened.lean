import BuildTags.Proofs.Version.Stamp

namespace BuildTags

theorem Pattern.isVersion_of_read {pattern : Pattern} {name version : Text} {number : Int}
    (h : pattern.read name = .ok (some (version, number))) :
    IsVersion version ∧ version <:+: name ∧ 0 ≤ number := by
  obtain ⟨parts, hp, rfl, -, rfl⟩ := read_eq_ok_some_iff.1 h
  obtain ⟨hversion, hinfix⟩ := isVersion_of_parts? hp
  exact ⟨hversion, hinfix, Int.natCast_nonneg _⟩

namespace Version

variable {version : Text} {groups : List Text} {major minor number code : Int}

theorem LeadsWith.unique {major' minor' : Int} (h : LeadsWith groups major minor)
    (h' : LeadsWith groups major' minor') : major = major' ∧ minor = minor' := by
  cases h with
  | alone hmajor =>
    cases h' with
    | alone hmajor' =>
      rw [hmajor] at hmajor'
      exact ⟨Except.ok.inj hmajor', rfl⟩
  | followed hmajor hminor =>
    cases h' with
    | followed hmajor' hminor' =>
      rw [hmajor] at hmajor'
      rw [hminor] at hminor'
      exact ⟨Except.ok.inj hmajor', Except.ok.inj hminor'⟩

theorem IsFlattened.eq (h : IsFlattened version number code)
    (hd : Pattern.IsDotted version groups) (hl : LeadsWith groups major minor) :
    code = (major * 1000 + minor) * 1000 + number := by
  obtain ⟨groups', major', minor', hd', hl', rfl⟩ := h
  have hgroups : groups' = groups := hd'.splitOn_eq.symm.trans hd.splitOn_eq
  subst hgroups
  obtain ⟨rfl, rfl⟩ := hl'.unique hl
  rfl

/-- What a pattern reads in a name is a version of groups of digits and a number. A match whose name
has short groups can always be made a version of, under settings whose strategies are known. Where
versions come from tags, the flattening strategy has a code of the first two groups of the version and
the number. -/
theorem exists_stamp_of_match (pattern : Pattern) :
    (∀ name version number, pattern.read name = .ok (some (version, number)) →
      (∃ groups, Pattern.IsDotted version groups) ∧ 0 ≤ number) ∧
    ∀ tags found, Match.ofTags pattern tags = .ok found →
      ∀ matched ∈ found, matched.tag.name.HasShortGroups →
        ∀ variant settings, settings.IsKnown →
          ∃ stamp, Stamp.compute (some matched) variant settings = .ok stamp ∧
            (settings.fromTag = true → settings.codeStrategy = "semantic_flattened" →
              ∃ code, stamp.code = some code ∧
                IsFlattened matched.version matched.number code) := by
  constructor
  · intro name version number hread
    obtain ⟨hversion, -, hnumber⟩ := Pattern.isVersion_of_read hread
    exact ⟨⟨_, hversion.isDotted⟩, hnumber⟩
  · intro tags found hfound matched hm hs variant settings hk
    obtain ⟨-, rfl⟩ := Match.ofTags_eq_ok_iff.1 hfound
    obtain ⟨tag, -, hmatch⟩ := List.mem_filterMap.1 hm
    obtain ⟨rfl, hread⟩ := Match.ofTag?_eq_some_iff.1 hmatch
    cases hf : settings.fromTag with
    | false =>
      refine ⟨.configured settings, ?_, ?_⟩
      · rw [Stamp.compute, hf]
        rfl
      · intro hfrom
        cases hfrom
    | true =>
      have hsmall := Build.isSmall_ofMatch hmatch hs variant
      obtain ⟨stamp, hstamp, hof⟩ := exists_ofBuild hk hsmall
      refine ⟨stamp, ?_, fun _ hstrategy ↦ ?_⟩
      · rw [Stamp.compute, hf]
        exact hstamp
      · obtain ⟨code, hcode, hcodes⟩ := hof.code
        exact ⟨code, hcode, hcodes.isFlattened hstrategy⟩

/-- A version of three groups, whose second one is not in the digits of ASCII. -/
theorem three_groups_flattened :
    ∃ pattern, Pattern.ofTokens none "debug" = .ok pattern ∧
      Text.HasShortGroups "v01.٢.9.7-debug" ∧
      Match.ofTags pattern [⟨"v01.٢.9.7-debug", "c1", [], 0⟩] =
        .ok [⟨⟨"v01.٢.9.7-debug", "c1", [], 0⟩, "01.٢.9", 7⟩] ∧
      (∃ groups, Pattern.IsDotted "01.٢.9" groups) ∧ (0 : Int) ≤ 7 ∧
      ∃ stamp, Stamp.compute (some ⟨⟨"v01.٢.9.7-debug", "c1", [], 0⟩, "01.٢.9", 7⟩) "debug"
          ⟨true, true, true, none, none, "semantic_flattened", "tag_name"⟩ = .ok stamp ∧
        stamp.code = some 1002007 := by
  let pattern : Pattern := ⟨Pattern.defaultTokens, "debug", by decide, by decide, by decide⟩
  let settings : Settings := ⟨true, true, true, none, none, "semantic_flattened", "tag_name"⟩
  have hs : Text.HasShortGroups "v01.٢.9.7-debug" := Text.hasShortGroups_of_length_le (by decide)
  have hread : pattern.read "v01.٢.9.7-debug" = .ok (some ("01.٢.9", 7)) := by decide
  have hfound : Match.ofTags pattern [⟨"v01.٢.9.7-debug", "c1", [], 0⟩] =
      .ok [⟨⟨"v01.٢.9.7-debug", "c1", [], 0⟩, "01.٢.9", 7⟩] := by decide
  have hknown : settings.IsKnown := ⟨by decide, by decide⟩
  obtain ⟨hshape, hstamp⟩ := exists_stamp_of_match pattern
  obtain ⟨hgroups, hnumber⟩ := hshape _ _ _ hread
  obtain ⟨stamp, hcompute, hcode⟩ :=
    hstamp _ _ hfound _ List.mem_cons_self hs "debug" settings hknown
  obtain ⟨code, hsome, hflattened⟩ := hcode rfl rfl
  have hdotted : Pattern.IsDotted "01.٢.9" ["01", "٢", "9"] := by decide
  have hleads : LeadsWith ["01", "٢", "9"] 1 2 := .followed (by decide) (by decide)
  refine ⟨pattern, rfl, hs, hfound, hgroups, hnumber, stamp, hcompute, ?_⟩
  rw [hsome, hflattened.eq hdotted hleads]
  rfl

/-- Where versions do not come from tags, the code is the configured one under any strategy. -/
theorem configured_code_not_flattened :
    ∃ pattern matched, Pattern.ofTokens none "debug" = .ok pattern ∧
      Text.HasShortGroups "v1.2.3-debug" ∧
      Match.ofTags pattern [⟨"v1.2.3-debug", "c1", [], 0⟩] = .ok [matched] ∧
      IsFlattened matched.version matched.number 1002003 ∧
      ∃ settings : Settings, settings.IsKnown ∧ settings.codeStrategy = "semantic_flattened" ∧
        ∃ stamp, Stamp.compute (some matched) "debug" settings = .ok stamp ∧
          ¬∃ code, stamp.code = some code ∧
            IsFlattened matched.version matched.number code := by
  let pattern : Pattern := ⟨Pattern.defaultTokens, "debug", by decide, by decide, by decide⟩
  let settings : Settings := ⟨false, true, true, none, none, "semantic_flattened", "tag_name"⟩
  have hdotted : Pattern.IsDotted "1.2" ["1", "2"] := by decide
  have hleads : LeadsWith ["1", "2"] 1 2 := .followed (by decide) (by decide)
  have hflattened : IsFlattened "1.2" 3 1002003 := ⟨_, _, _, hdotted, hleads, by decide⟩
  refine ⟨pattern, ⟨⟨"v1.2.3-debug", "c1", [], 0⟩, "1.2", 3⟩, rfl,
    Text.hasShortGroups_of_length_le (by decide), by decide, hflattened, settings,
    ⟨by decide, by decide⟩, rfl, .configured settings, rfl, ?_⟩
  rintro ⟨code, hcode, -⟩
  cases hcode

end Version

end BuildTags
