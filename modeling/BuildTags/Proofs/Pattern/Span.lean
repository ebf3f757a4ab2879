import BuildTags.Proofs.Pattern.Capture
import BuildTags.Proofs.Pattern.Group

namespace BuildTags.Pattern

variable {variant name : Text} {tokens : List Token} {cut : Cut} {part version digits : Located}
  {parts : Parts} {position : Nat}

theorem le_start_of_version? (h : Cut.version? position cut = some part) : position ≤ part.start := by
  induction cut generalizing position with
  | nil => cases h
  | cons piece cut ih =>
    cases piece with
    | version text =>
      obtain rfl := Option.some.inj h
      exact Nat.le_refl _
    | _ => exact Nat.le_trans (Nat.le_add_right _ _) (ih h)

theorem le_start_of_trailing? (h : Cut.trailing? position cut = some part) :
    position ≤ part.start := by
  induction cut generalizing position with
  | nil => cases h
  | cons piece cut ih =>
    cases piece with
    | variant name digits =>
      obtain ⟨-, h⟩ := Option.ite_none_left_eq_some.1 h
      obtain rfl := Option.some.inj h
      exact Nat.le_add_right _ _
    | _ => exact Nat.le_trans (Nat.le_add_right _ _) (ih h)

theorem version?_apart_trailing? (hv : Cut.version? position cut = some version)
    (ht : Cut.trailing? position cut = some digits) :
    version.stop ≤ digits.start ∨ digits.stop ≤ version.start := by
  induction cut generalizing position with
  | nil => cases hv
  | cons piece cut ih =>
    cases piece with
    | plain text => exact ih hv ht
    | version text =>
      obtain rfl := Option.some.inj hv
      exact .inl (le_start_of_trailing? ht)
    | variant name text =>
      obtain ⟨-, ht⟩ := Option.ite_none_left_eq_some.1 ht
      obtain rfl := Option.some.inj ht
      have hlater : Cut.version? (position + (name ++ text).length) cut = some version := hv
      have hle := le_start_of_version? hlater
      rw [List.length_append, ← Nat.add_assoc] at hle
      exact .inr hle

/-- Whether a part of a name is its build number and a text its version, where the version was
captured between two borders. -/
structure Marks (name : Text) (capture : Nat × Nat) (version : Text) (number : Int)
    (span : Nat × Nat) : Prop where
  lt : span.1 < span.2
  le_length : span.2 ≤ name.length
  digits : ∀ c ∈ name.extract span.1 span.2, Text.isDigit c = true
  read_eq : Numeral.read (name.extract span.1 span.2) = .ok number
  inside : capture.1 ≤ span.1 ∧ span.2 ≤ capture.2 →
    capture.1 < span.1 ∧ name[span.1 - 1]? = some '.' ∧ name.extract capture.1 (span.1 - 1) = version
  outside : ¬(capture.1 ≤ span.1 ∧ span.2 ≤ capture.2) → name.extract capture.1 capture.2 = version

theorem extract_append (before part after : Text) :
    (before ++ (part ++ after)).extract before.length (before.length + part.length) = part := by
  simp

/-- The number of a cut stands in its version after a dot, or else outside of it. -/
theorem IsCut.marks (h : IsCut variant tokens name cut) (hv : Cut.version? 0 cut = some version)
    (hp : cut.parts? = some parts) {number : Int}
    (hn : Numeral.read parts.number.text = .ok number) :
    Marks name version.borders parts.version number parts.number.borders := by
  obtain ⟨front, back, hfront, hstart, hne, hdigits⟩ := h.exists_of_parts? hp
  have hpos := List.length_pos_iff.2 hne
  have hlength := congrArg List.length hfront
  simp only [List.length_append] at hlength
  have htext : name.extract parts.number.start parts.number.stop = parts.number.text := by
    rw [hfront, Located.stop, hstart, extract_append]
  have hlt : parts.number.start < parts.number.stop := by
    simp only [Located.stop]
    omega
  have hle : parts.number.stop ≤ name.length := by
    simp only [Located.stop]
    omega
  have hread : Numeral.read (name.extract parts.number.start parts.number.stop) = .ok number := by
    rw [htext, hn]
  obtain ⟨before, after, rfl, hborder, hdotted⟩ := h.exists_of_version? hv
  rw [Nat.zero_add] at hborder
  obtain ⟨captured, hcaptured, hnumber⟩ := cut_parts?_eq_some_iff.1 hp
  obtain rfl := Option.some.inj (hv.symm.trans hcaptured)
  obtain ⟨ht, hversion⟩ | ⟨-, hlast, hdot⟩ := hnumber
  · have hout : ¬(version.start ≤ parts.number.start ∧ parts.number.stop ≤ version.stop) := by
      have hapart := version?_apart_trailing? hv ht
      omega
    refine ⟨hlt, hle, htext ▸ hdigits, hread, fun hin ↦ absurd hin hout, fun _ ↦ ?_⟩
    rw [hversion]
    simp only [Located.borders, Located.stop, hborder, extract_append]
  · obtain ⟨hgroups, -⟩ := cutLast?_version hdotted hlast
    have hin : version.start ≤ parts.number.start ∧ parts.number.stop ≤ version.stop := by
      have hl := congrArg List.length hgroups
      simp only [List.length_append, List.length_cons] at hl
      simp only [Located.stop]
      omega
    refine ⟨hlt, hle, htext ▸ hdigits, hread, fun _ ↦ ?_, fun hout ↦ absurd hin hout⟩
    simp only [Located.borders, hdot, hborder]
    rw [hgroups, Nat.add_sub_cancel]
    refine ⟨by omega, ?_, ?_⟩
    · simp
    · simp

/-- Where a pattern reads a version and a number in a name, and only there, it finds the place of the
number: after the version and a dot in what was captured as the version, or outside of it. -/
theorem span_marks_number (pattern : Pattern) {name : Text} (hs : name.HasShortGroups) :
    (∃ result, pattern.read name = .ok result) ∧
    (pattern.read name = .ok none ↔ pattern.numberSpan? name = none) ∧
    ∀ version number span, pattern.read name = .ok (some (version, number)) →
      pattern.numberSpan? name = some span →
      ∃ regex cursor capture, Regex.read pattern.expression = .ok regex ∧
        regex.fullMatch? name = some cursor ∧ pattern.group? "version" cursor = some capture ∧
        Marks name capture version number span := by
  rw [numberSpan?_eq]
  cases hp : pattern.parts? name with
  | none =>
    have hr : pattern.read name = .ok none := by rw [read, hp]
    refine ⟨⟨none, hr⟩, ⟨fun _ ↦ rfl, fun _ ↦ hr⟩, ?_⟩
    intro version number span _ hspan
    cases hspan
  | some parts =>
    obtain ⟨number, hn, hr⟩ := exists_read_number hs hp
    refine ⟨⟨_, hr⟩, ?_, ?_⟩
    · rw [hr]
      constructor
      · intro h
        cases h
      · intro h
        cases h
    · intro version number' span hread hspan
      rw [hr] at hread
      cases hread
      cases hspan
      obtain ⟨cut, hc, hparts⟩ := parts?_eq_some_iff.1 hp
      have hcut : IsCut pattern.variant pattern.tokens name cut := (isFirst_of_firstCut? hc).1
      obtain ⟨captured, hv, -⟩ := cut_parts?_eq_some_iff.1 hparts
      obtain ⟨cursor, hmatch, -, hgroup, -⟩ := exists_fullMatch?_borders hc
      rw [hv] at hgroup
      exact ⟨regexOf pattern, cursor, captured.borders, read_expression pattern _, hmatch, hgroup,
        hcut.marks hv hparts hn⟩

/-- The number is the last one of several groups, with the variant name in front of the version. -/
theorem last_group_marked :
    ∃ pattern, ofTokens (some [.buildVariantName, .separator "-", .buildVersion]) "debug" =
        .ok pattern ∧
      Text.HasShortGroups "debug-1.0.٣" ∧
      pattern.read "debug-1.0.٣" = .ok (some ("1.0", 3)) ∧
      pattern.numberSpan? "debug-1.0.٣" = some (10, 11) ∧
      ∃ regex cursor capture, Regex.read pattern.expression = .ok regex ∧
        regex.fullMatch? "debug-1.0.٣" = some cursor ∧
        pattern.group? "version" cursor = some capture ∧
        Marks "debug-1.0.٣" capture "1.0" 3 (10, 11) := by
  let pattern : Pattern := ⟨[.buildVariantName, .separator "-", .buildVersion], "debug",
    by decide, by decide, by decide⟩
  have hs : Text.HasShortGroups "debug-1.0.٣" := Text.hasShortGroups_of_length_le (by decide)
  have hread : pattern.read "debug-1.0.٣" = .ok (some ("1.0", 3)) := by decide
  have hspan : pattern.numberSpan? "debug-1.0.٣" = some (10, 11) := by decide
  exact ⟨pattern, rfl, hs, hread, hspan,
    (span_marks_number pattern hs).2.2 _ _ _ hread hspan⟩

end BuildTags.Pattern
