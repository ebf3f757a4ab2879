import BuildTags.Proofs.Pattern.Number
import BuildTags.Proofs.Tag.Latest
import BuildTags.Proofs.Text.Split

namespace BuildTags

/-- Whether no run of digits in a text is too long for a numeral. -/
def Text.HasShortGroups (text : Text) : Prop :=
  ∀ digits, digits <:+: text → (∀ c ∈ digits, isDigit c = true) →
    digits.length ≤ Numeral.maxDigits

theorem Text.HasShortGroups.of_infix {text part : Text} (h : text.HasShortGroups)
    (hp : part <:+: text) : part.HasShortGroups := by
  intro digits hd
  exact h digits (hd.trans hp)

theorem Text.hasShortGroups_of_length_le {text : Text} (h : text.length ≤ Numeral.maxDigits) :
    text.HasShortGroups := by
  intro digits hd _
  exact Nat.le_trans hd.length_le h

namespace Pattern

variable {pattern : Pattern} {name : Text}

theorem length_number_le {parts : Parts} (h : name.HasShortGroups)
    (hp : pattern.parts? name = some parts) : parts.number.text.length ≤ Numeral.maxDigits := by
  obtain ⟨before, after, hname, -, -, hd⟩ := exists_of_parts? hp
  apply h _ _ hd
  rw [hname]
  exact (List.prefix_append _ after).isInfix.trans (List.suffix_append before _).isInfix

theorem exists_read (h : name.HasShortGroups) : ∃ parts, pattern.read name = .ok parts := by
  cases hp : pattern.parts? name with
  | none => exact ⟨none, by rw [read, hp]⟩
  | some parts => exact ⟨_, (read_eq hp).trans (if_neg (Nat.not_lt.2 (length_number_le h hp)))⟩

theorem exists_read_number {parts : Parts} (h : name.HasShortGroups)
    (hp : pattern.parts? name = some parts) : ∃ number : Int,
      Numeral.read parts.number.text = .ok number ∧
      pattern.read name = .ok (some (parts.version, number)) := by
  obtain ⟨result, hr⟩ : ∃ parts, pattern.read name = .ok parts := exists_read h
  rw [read, hp] at hr ⊢
  dsimp only at hr ⊢
  cases hn : Numeral.read parts.number.text with
  | error fault =>
    rw [hn] at hr
    cases hr
  | ok number => exact ⟨number, rfl, rfl⟩

end Pattern

namespace Match

variable {pattern : Pattern} {tags : List Tag}

theorem ofTags_of_hasShortGroups (h : ∀ tag ∈ tags, tag.name.HasShortGroups) :
    ofTags pattern tags = .ok (tags.filterMap (ofTag? pattern)) := by
  apply ofTags_eq_ok_iff.2
  exact ⟨fun tag ht ↦ Pattern.exists_read (h tag ht), rfl⟩

/-- Among names of short groups the latest match is found, unless no tag matches. -/
theorem searchLatest_cases (h : ∀ tag ∈ tags, tag.name.HasShortGroups) :
    ((searchLatest pattern tags).outcome = .ok none ∧
      ∀ tag ∈ tags, pattern.read tag.name = .ok none) ∨
    ∃ best, (searchLatest pattern tags).outcome = .ok (some best) ∧
      ∃ tag ∈ tags, ofTag? pattern tag = some best := by
  have hfound : ofTags pattern tags = .ok (tags.filterMap (ofTag? pattern)) :=
    ofTags_of_hasShortGroups h
  cases hl : latest (tags.filterMap (ofTag? pattern)) with
  | none =>
    have hlatest := outcome_searchLatest_eq_ok_iff.2 ⟨_, hfound, hl⟩
    rw [latest_eq_none_iff.1 hl] at hfound
    exact .inl ⟨hlatest, ofTags_eq_ok_nil_iff.1 hfound⟩
  | some best =>
    have hlatest := outcome_searchLatest_eq_ok_iff.2 ⟨_, hfound, hl⟩
    exact .inr ⟨best, hlatest, List.mem_filterMap.1 (latest_spec hl).1⟩

end Match

end BuildTags
