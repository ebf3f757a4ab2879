import BuildTags.Proofs.Pattern.Capture
import BuildTags.Proofs.Pattern.Split

namespace BuildTags.Pattern

/-- How the cut of a name divides it around text before a dot and the version that follows. -/
structure IsDivided (pattern : Pattern) (tokens₁ tokens₂ : List Token)
    (name front before version after : Text) : Prop where
  eq : name = front ++ (before ++ (version ++ after))
  exists_cut : ∃ cut₁ cut₂,
    pattern.cut? name = some (cut₁ ++ .plain before :: .version version :: cut₂) ∧
      IsCut pattern.variant tokens₁ front cut₁ ∧ IsCut pattern.variant tokens₂ after cut₂

section

variable {variant name front before version after run : Text} {c : Char}
  {tokens₁ tokens₂ : List Token} {cut cut₁ cut₂ : Cut}

theorem IsCut.exists_before_version
    (h : IsCut variant (tokens₁ ++ .anyBeforeDot :: .buildVersion :: tokens₂) name cut) :
    ∃ front before version after cut₁ cut₂, name = front ++ (before ++ (version ++ after)) ∧
      cut = cut₁ ++ .plain before :: .version version :: cut₂ ∧ IsCut variant tokens₁ front cut₁ ∧
      '.' ∉ before ∧ IsVersion version ∧ IsCut variant tokens₂ after cut₂ := by
  obtain ⟨front, _, cut₁, _, _, rfl, rfl, h₁, fits, hrest⟩ := h.exists_split
  cases fits with | @anyBeforeDot before hdot => ?_
  obtain ⟨_, after, cut₂, rfl, rfl, fits, h₂⟩ := isCut_cons_iff.1 hrest
  cases fits with | @buildVersion version hversion => ?_
  exact ⟨front, before, version, after, cut₁, cut₂, rfl, rfl, h₁, hdot, hversion, h₂⟩

/-- The shortest text before the version ends in no digit, since the version could begin with it. -/
theorem IsFirst.not_isDigit_before_version
    (hf : IsFirst variant (tokens₁ ++ .anyBeforeDot :: .buildVersion :: tokens₂) name
      (cut₁ ++ .plain (before ++ [c]) :: .version version :: cut₂))
    (h₁ : IsCut variant tokens₁ front cut₁) (hdot : '.' ∉ before ++ [c])
    (hversion : IsVersion version) (h₂ : IsCut variant tokens₂ after cut₂)
    (hname : name = front ++ ((before ++ [c]) ++ (version ++ after))) :
    Text.isDigit c = false := by
  by_contra hc
  have hdigit : Text.isDigit c = true := Bool.eq_true_of_not_eq_false hc
  have hshort : '.' ∉ before := fun hm ↦ hdot (List.mem_append_left _ hm)
  -- With the digit handed over to the version, the same tokens take what follows.
  have hname' : name = front ++ (before ++ ((c :: version) ++ after)) := by
    rw [hname, List.append_assoc before]
    rfl
  have hnot := hf.not_prefers h₁ hname' (.anyBeforeDot hshort)
    (.cons (.buildVersion (.more hdigit hversion)) h₂)
  apply hnot
  simp [Token.prefers, Piece.text]

theorem eq_nil_of_suffix (hlast : ∀ c, before.getLast? = some c → Text.isDigit c = false)
    (hrun : run <:+ before) (hd : ∀ c ∈ run, Text.isDigit c = true) : run = [] := by
  obtain ⟨start, rfl⟩ := hrun
  cases hl : run.getLast? with
  | none => exact List.getLast?_eq_none_iff.1 hl
  | some c =>
    have hc : Text.isDigit c = false := by
      apply hlast
      rw [List.getLast?_append, hl]
      rfl
    rw [hd c (List.mem_of_getLast? hl)] at hc
    cases hc

end

section

variable {pattern : Pattern} {tokens₁ tokens₂ : List Token} {name : Text} {cut : Cut}

theorem IsDivided.unique {front before version after front' before' version' after' : Text}
    (h : IsDivided pattern tokens₁ tokens₂ name front before version after)
    (h' : IsDivided pattern tokens₁ tokens₂ name front' before' version' after') :
    front = front' ∧ before = before' ∧ version = version' ∧ after = after' := by
  obtain ⟨cut₁, cut₂, hc, h₁, h₂⟩ := h.exists_cut
  obtain ⟨cut₁', cut₂', hc', h₁', h₂'⟩ := h'.exists_cut
  have hsame := Option.some.inj (hc.symm.trans hc')
  obtain ⟨rfl, htail⟩ := List.append_inj hsame (h₁.length_eq.trans h₁'.length_eq.symm)
  cases htail
  exact ⟨h₁.text_eq.symm.trans h₁'.text_eq, rfl, rfl, h₂.text_eq.symm.trans h₂'.text_eq⟩

theorem buildVersion_notMem
    (ht : pattern.tokens = tokens₁ ++ .anyBeforeDot :: .buildVersion :: tokens₂) :
    .buildVersion ∉ tokens₁ := by
  intro hm
  have hpos := List.count_pos_iff.2 hm
  have hone := pattern.one_version
  rw [ht, List.count_append, List.count_cons_of_ne (by decide), List.count_cons_self] at hone
  omega

theorem exists_isDivided
    (ht : pattern.tokens = tokens₁ ++ .anyBeforeDot :: .buildVersion :: tokens₂)
    (hc : pattern.cut? name = some cut) :
    ∃ front before version after, IsDivided pattern tokens₁ tokens₂ name front before version after ∧
      Cut.version? 0 cut = some ⟨front.length + before.length, version⟩ ∧
      ∀ c, before.getLast? = some c → Text.isDigit c = false := by
  have hf := isFirst_of_firstCut? hc
  rw [ht] at hf
  obtain ⟨front, before, version, after, cut₁, cut₂, hname, rfl, h₁, hdot, hversion, h₂⟩ :=
    hf.1.exists_before_version
  refine ⟨front, before, version, after, ⟨hname, cut₁, cut₂, hc, h₁, h₂⟩, ?_, ?_⟩
  · rw [h₁.version?_append (buildVersion_notMem ht), Nat.zero_add]
    rfl
  · intro c hlast
    obtain ⟨start, rfl⟩ := List.getLast?_eq_some_iff.1 hlast
    exact hf.not_isDigit_before_version h₁ hdot hversion h₂ hname

end

/-- Where text before a dot stands directly in front of the version, it does not end in a digit, so
that no longer run of digits begins in it and ends with the first group of the version. -/
theorem first_group_whole {tokens : Option (List Token)} {variant : Text} {pattern : Pattern}
    {tokens₁ tokens₂ : List Token} (hp : ofTokens tokens variant = .ok pattern)
    (ht : tokens.getD defaultTokens = tokens₁ ++ .anyBeforeDot :: .buildVersion :: tokens₂) :
    ∃ regex, Regex.read pattern.expression = .ok regex ∧
      ∀ name cursor, regex.fullMatch? name = some cursor →
        ∃ front before version after,
          IsDivided pattern tokens₁ tokens₂ name front before version after ∧
          pattern.captured? "version" cursor = some version ∧
          pattern.group? "version" cursor = some (front.length + before.length,
            front.length + before.length + version.length) ∧
          (∀ c, before.getLast? = some c → Text.isDigit c = false) ∧
          ∀ run, run <:+ before →
            (∀ c ∈ run ++ version.takeWhile (· ≠ '.'), Text.isDigit c = true) → run = [] := by
  obtain ⟨htokens, -⟩ := ofTokens_eq_ok_iff.1 hp
  rw [ht] at htokens
  refine ⟨regexOf pattern, read_expression pattern _, ?_⟩
  intro name cursor hmatch
  have hsome : (pattern.cut? name).isSome := by
    rw [← Option.isSome_map, ← fullMatch?_regexOf, hmatch]
    rfl
  obtain ⟨cut, hc⟩ := Option.isSome_iff_exists.1 hsome
  obtain ⟨front, before, version, after, hdivided, hversion, hlast⟩ := exists_isDivided htokens hc
  obtain ⟨_, hmatch', -, hgroup, -⟩ := exists_fullMatch?_borders hc
  obtain rfl := Option.some.inj (hmatch.symm.trans hmatch')
  obtain ⟨_, hmatch', hcaptured, -⟩ := exists_fullMatch? hc
  obtain rfl := Option.some.inj (hmatch.symm.trans hmatch')
  rw [hversion] at hgroup hcaptured
  refine ⟨front, before, version, after, hdivided, hcaptured, hgroup, hlast, ?_⟩
  intro run hrun hd
  exact eq_nil_of_suffix hlast hrun fun c hm ↦ hd c (List.mem_append_left _ hm)

/-- A digit is passed over that no version can begin with here, and both digits of the first group are
left to the version. -/
theorem two_digit_group_whole :
    ∃ pattern regex cursor, ofTokens (some [.literal "app", .anyBeforeDot, .buildVersion,
        .separator "-", .buildVariantName, .anyOptionalSymbols]) "debug" = .ok pattern ∧
      Regex.read pattern.expression = .ok regex ∧
      regex.fullMatch? "app2-v١2.0.7-debug" = some cursor ∧
      IsDivided pattern [.literal "app"] [.separator "-", .buildVariantName, .anyOptionalSymbols]
        "app2-v١2.0.7-debug" "app" "2-v" "١2.0.7" "-debug" ∧
      pattern.captured? "version" cursor = some "١2.0.7" ∧
      pattern.group? "version" cursor = some (6, 12) ∧
      ∀ run : Text, run <:+ "2-v".toList →
        (∀ c ∈ run ++ "١2".toList, Text.isDigit c = true) → run = [] := by
  let pattern : Pattern := ⟨[.literal "app", .anyBeforeDot, .buildVersion, .separator "-",
    .buildVariantName, .anyOptionalSymbols], "debug", by decide, by decide, by decide⟩
  have hcut : pattern.cut? "app2-v١2.0.7-debug" = some [.plain "app", .plain "2-v",
      .version "١2.0.7", .plain "-", .variant "debug" [], .plain []] := by decide
  have hafter : IsCut "debug" [.separator "-", .buildVariantName, .anyOptionalSymbols] "-debug"
      [.plain "-", .variant "debug" [], .plain []] :=
    .cons (.separator "-") (.cons (.buildVariantName (List.forall_mem_nil _))
      (.cons (.anyOptionalSymbols List.not_mem_nil) .nil))
  have hexpected : IsDivided pattern [.literal "app"]
      [.separator "-", .buildVariantName, .anyOptionalSymbols] "app2-v١2.0.7-debug" "app" "2-v"
      "١2.0.7" "-debug" :=
    ⟨rfl, [.plain "app"], _, hcut, .cons (.literal "app") .nil, hafter⟩
  have hp : ofTokens (some pattern.tokens) "debug" = .ok pattern := ofTokens_self pattern
  have ht : (some pattern.tokens).getD defaultTokens = [.literal "app"] ++ .anyBeforeDot ::
      .buildVersion :: [.separator "-", .buildVariantName, .anyOptionalSymbols] := rfl
  obtain ⟨regex, hread, hwhole⟩ := first_group_whole hp ht
  obtain ⟨cursor, hmatch, -⟩ := exists_fullMatch?_borders hcut
  obtain rfl := Except.ok.inj ((read_expression pattern _).symm.trans hread)
  obtain ⟨_, _, _, _, hdivided, hcaptured, hgroup, -, hrun⟩ := hwhole _ _ hmatch
  obtain ⟨rfl, rfl, rfl, rfl⟩ := hdivided.unique hexpected
  exact ⟨pattern, _, cursor, hp, hread, hmatch, hdivided, hcaptured, hgroup, hrun⟩

end BuildTags.Pattern
