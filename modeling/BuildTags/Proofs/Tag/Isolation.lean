import BuildTags.Proofs.Pattern.Default
import BuildTags.Proofs.Pattern.Number
import BuildTags.Proofs.Tag.Latest
import BuildTags.Proofs.Text.Trim

namespace BuildTags

def Text.IsLetters (text : Text) : Prop := ∀ c ∈ text, c.isAlpha = true

instance (text : Text) : Decidable text.IsLetters :=
  inferInstanceAs (Decidable (∀ c ∈ text, c.isAlpha = true))

theorem Text.isDigit_of_isAlpha {c : Char} (h : c.isAlpha = true) : isDigit c = false := by
  have hc := toNat_of_isAlpha h
  by_contra hd
  have hn := of_isDigit (P := fun n ↦ ¬(65 ≤ n ∧ n ≤ 90 ∨ 97 ≤ n ∧ n ≤ 122)) (by decide +kernel)
    (Bool.not_eq_false _ ▸ hd)
  exact hn hc

theorem Text.IsLetters.notMem {text : Text} (h : text.IsLetters) {c : Char}
    (hc : c.isAlpha = false) : c ∉ text := by
  intro hm
  rw [h c hm] at hc
  cases hc

def tagName (version : Text) (number : Nat) (variant : Text) : Text :=
  "v" ++ ((version ++ '.' :: Nat.toDigits 10 number) ++ '-' :: variant)

namespace Pattern

variable {variant other version : Text} {number : Nat}

def tagParts (version : Text) (number : Nat) : Parts :=
  ⟨version, ⟨version.length + 2, Nat.toDigits 10 number⟩⟩

theorem isVersion_tagName (hv : IsVersion version) (number : Nat) :
    IsVersion (version ++ '.' :: Nat.toDigits 10 number) :=
  isVersion_append_dot_iff.2 ⟨hv, isVersion_of_digits Nat.toDigits_ne_nil
    (Numeral.digits_toDigits number)⟩

/-- The name of a build of a variant is read for every beginning of the variant name. -/
theorem readsFirst_tagName {after : Text} (hv : IsVersion version)
    (hl : Text.IsLetters (variant ++ after)) :
    ReadsFirst variant (tagName version number (variant ++ after)) "v"
      (version ++ '.' :: Nat.toDigits 10 number) ([] ++ after) := by
  have hline : '\n' ∉ [] ++ after := fun hm ↦
    hl.notMem (c := '\n') (by decide) (List.mem_append_right _ hm)
  exact ReadsAs.readsFirst_of_singleton (by decide)
    ⟨rfl, by decide, isVersion_tagName hv number, hline⟩

theorem prefix_of_readsAs {before version' after : Text} (hv : IsVersion version)
    (hl : other.IsLetters)
    (h : ReadsAs variant (tagName version number other) before version' after) :
    variant <+: other := by
  have hdash : '-' ∉ "v" ++ (version ++ '.' :: Nat.toDigits 10 number) := by
    have hn := (isVersion_tagName hv number).notMem isDigit_dash (by decide)
    exact List.mem_append.not.2 (not_or.2 ⟨by decide, hn⟩)
  have hname : before ++ (version' ++ '-' :: (variant ++ after)) =
      ("v" ++ (version ++ '.' :: Nat.toDigits 10 number)) ++ '-' :: other := by
    rw [← h.eq, tagName, ← List.append_assoc]
  by_cases hb : '-' ∈ before
  · -- The letters hold no dash, so that none stands before the version.
    obtain ⟨x, y, rfl, hx⟩ := List.eq_append_cons_of_mem hb
    rw [List.append_assoc] at hname
    obtain ⟨-, he⟩ := Text.append_cons_inj hx hdash hname
    exact absurd (he ▸ by simp) (hl.notMem (c := '-') (by decide))
  · have hv' := h.isVersion.notMem isDigit_dash (by decide)
    rw [← List.append_assoc] at hname
    obtain ⟨-, he⟩ := Text.append_cons_inj (by simp [hb, hv']) hdash hname
    exact ⟨after, he⟩

/-- Under the default tokens a pattern finds a number in the name of a build of letters exactly where
its own variant name begins the one of the build. -/
theorem parts?_tagName {pattern : Pattern} (ht : pattern.tokens = defaultTokens)
    (hl : other.IsLetters) (hv : IsVersion version) (number : Nat) [Decidable (pattern.variant <+: other)] :
    pattern.parts? (tagName version number other) =
      if pattern.variant <+: other then some (tagParts version number) else none := by
  rw [parts?, cut?, ht]
  split
  · rename_i hp
    obtain ⟨after, rfl⟩ := hp
    have hr : BeginsNoDigit after := by
      rintro c tail rfl
      exact Text.isDigit_of_isAlpha (hl c (by simp))
    have hlast : Text.cutLast? "." (version ++ '.' :: Nat.toDigits 10 number) =
        some (version, Nat.toDigits 10 number) :=
      Text.cutLast?_singleton_eq_some_iff.2 ⟨rfl, fun hm ↦
        absurd (Numeral.digits_toDigits number _ hm) (by decide)⟩
    rw [(readsFirst_tagName hv hl).parts?_eq (List.forall_mem_nil _) hr, defaultParts?, if_pos rfl, hlast]
    simp [tagParts, Nat.add_comm, Nat.add_left_comm]
  · rename_i hp
    cases hc : firstCut? pattern.variant defaultTokens (tagName version number other) with
    | none => rfl
    | some cut =>
      obtain ⟨_, _, _, h⟩ := firstCut?_default_isSome_iff.1 (Option.isSome_of_eq_some hc)
      exact absurd (prefix_of_readsAs hv hl h) hp

end Pattern

namespace Match

variable {pattern : Pattern} {tags : List Tag} {keep : Tag → Bool}

theorem ofTags_filter (h : ∀ tag ∈ tags, keep tag = false → pattern.parts? tag.name = none) :
    ofTags pattern (tags.filter keep) = ofTags pattern tags := by
  induction tags with
  | nil => rfl
  | cons tag tags ih =>
    obtain ⟨hp, ht⟩ := List.forall_mem_cons.1 h
    by_cases hk : keep tag = true
    · rw [List.filter_cons_of_pos hk, ofTags, ofTags, ih ht]
    · have hn : ofTag pattern tag = .ok none := by
        rw [ofTag, Pattern.read, hp (Bool.not_eq_true _ ▸ hk)]
        rfl
      rw [List.filter_cons_of_neg hk, ofTags, hn, ih ht]
      cases ofTags pattern tags <;> rfl

end Match

def IsBuildTag (variant : Text) (tag : Tag) : Prop :=
  ∃ version number, Pattern.IsVersion version ∧ tag.name = tagName version number variant

/-- Whether the tags of builds of a variant change nothing for a pattern, wherever they stand among
other tags. -/
def Ignores (pattern : Pattern) (variant : Text) : Prop :=
  ∀ (tags : List Tag) (keep : Tag → Bool),
    (∀ tag ∈ tags, keep tag = false → IsBuildTag variant tag) →
      (Match.searchLatest pattern (tags.filter keep)).outcome =
        (Match.searchLatest pattern tags).outcome ∧
      (Snapshot.search pattern (tags.filter keep)).outcome = (Snapshot.search pattern tags).outcome

theorem ignores_of_parts? {pattern : Pattern} {variant : Text}
    (h : ∀ version number, Pattern.IsVersion version →
      pattern.parts? (tagName version number variant) = none) : Ignores pattern variant := by
  intro tags keep hk
  have hf : Match.ofTags pattern (tags.filter keep) = Match.ofTags pattern tags := by
    refine Match.ofTags_filter fun tag ht hn ↦ ?_
    obtain ⟨version, number, hv, he⟩ := hk tag ht hn
    exact he ▸ h version number hv
  constructor
  · rw [Match.outcome_searchLatest, Match.outcome_searchLatest, hf]
  · rw [Snapshot.outcome_search, Snapshot.outcome_search, Snapshot.ofTags?, Snapshot.ofTags?, hf]

/-- One tag of a variant is enough to change what a pattern finds if it finds a number in it. -/
theorem not_ignores_of_parts? {pattern : Pattern} {variant : Text}
    (h : pattern.parts? (tagName "1" 1 variant) = some (Pattern.tagParts "1" 1)) :
    ¬Ignores pattern variant := by
  intro hi
  let tag : Tag := ⟨tagName "1" 1 variant, [], [], 0⟩
  obtain ⟨he, -⟩ := hi [tag] (fun _ ↦ false) fun t ht _ ↦
    ⟨"1", 1, .digit (by decide), List.mem_singleton.1 ht ▸ rfl⟩
  have hr : pattern.read tag.name = .ok (some ("1", 1)) :=
    Pattern.read_eq_ok_some_iff.2 ⟨_, h, rfl, by decide, by decide⟩
  have hm : Match.ofTags pattern [tag] = .ok [⟨tag, "1", 1⟩] :=
    Match.ofTags_eq_ok_iff.2 ⟨fun t ht ↦ List.mem_singleton.1 ht ▸ ⟨_, hr⟩,
      by rw [List.filterMap_cons, Match.ofTag?_eq_some_iff (m := ⟨tag, "1", 1⟩).2 ⟨rfl, hr⟩]; rfl⟩
  rw [Match.outcome_searchLatest, Match.outcome_searchLatest, hm] at he
  cases he

/-- The default pattern of a variant leaves out the builds of a variant of letters exactly if its own
variant name does not begin the other one: then it fits none of their tags, and they change nothing. It
fits all of them otherwise, and takes them for its own builds. -/
theorem default_isolates_iff_not_prefix {variant other : Text} (hv : variant ≠ [])
    (hl : other.IsLetters) :
    ∃ pattern, Pattern.ofTokens none variant = .ok pattern ∧
      (∀ version number, Pattern.IsVersion version →
        ((pattern.cut? (tagName version number other)).isSome ↔ variant <+: other) ∧
        (variant <+: other →
          pattern.parts? (tagName version number other) = some (Pattern.tagParts version number))) ∧
      (Ignores pattern other ↔ ¬variant <+: other) := by
  classical
  obtain ⟨pattern, hp⟩ := (@Pattern.exists_ofTokens_eq_ok_iff none variant).2
    ⟨hv, by decide, by decide⟩
  obtain ⟨htokens, rfl⟩ := Pattern.ofTokens_eq_ok_iff.1 hp
  have ht : pattern.tokens = Pattern.defaultTokens := htokens
  have hparts := fun version number (h : Pattern.IsVersion version) ↦
    Pattern.parts?_tagName ht hl h number
  refine ⟨pattern, hp, fun version number hversion ↦ ⟨⟨fun hc ↦ ?_, fun hpre ↦ ?_⟩, fun hpre ↦ ?_⟩,
    fun hi hpre ↦ ?_, fun hpre ↦ ignores_of_parts? fun version number hversion ↦ ?_⟩
  · rw [Pattern.cut?, ht, Pattern.firstCut?_default_isSome_iff] at hc
    obtain ⟨_, _, _, h⟩ := hc
    exact Pattern.prefix_of_readsAs hversion hl h
  · obtain ⟨cut, hc, -⟩ := Pattern.parts?_eq_some_iff.1
      ((hparts version number hversion).trans (if_pos hpre))
    exact Option.isSome_of_eq_some hc
  · rw [hparts version number hversion, if_pos hpre]
  · exact not_ignores_of_parts? ((hparts _ _ (.digit (by decide))).trans (if_pos hpre)) hi
  · rw [hparts version number hversion, if_neg hpre]

/-- One variant name begins the other one. -/
theorem debug_takes_debugX : ("debug" : Text) ≠ [] ∧ Text.IsLetters "debugX" ∧
    ∃ pattern, Pattern.ofTokens none "debug" = .ok pattern ∧
      pattern.parts? "v1.0.9-debugX" = some ⟨"1.0", ⟨5, "9"⟩⟩ ∧ ¬Ignores pattern "debugX" := by
  have hv : ("debug" : Text) ≠ [] := by decide
  have hl : Text.IsLetters "debugX" := List.all_eq_true.1 (by decide)
  obtain ⟨pattern, hp, hfits, hignores⟩ := default_isolates_iff_not_prefix hv hl
  have hpre : ("debug" : Text) <+: "debugX" := ⟨"X", rfl⟩
  have hversion : Pattern.IsVersion "1.0" := .group (by decide) (.digit (by decide))
  exact ⟨hv, hl, pattern, hp, (hfits "1.0" 9 hversion).2 hpre, fun hi ↦ hignores.1 hi hpre⟩

end BuildTags
