import BuildTags.Proofs.Tag.Order
import BuildTags.Proofs.Tag.Selection

namespace BuildTags

/-- The build number in a tag name, however many digits it has. -/
def Pattern.numberIn? (pattern : Pattern) (name : Text) : Option Int :=
  (pattern.parts? name).map fun parts ↦ Numeral.valueOf parts.number.text

def Pattern.tagsOf (pattern : Pattern) (number : Int) (tags : List Tag) : List Tag :=
  (tags.filter fun tag ↦ pattern.numberIn? tag.name = some number).map Tag.unplaced

/-- Whether both searches fail for two lists of tags, or find the same for them up to the places of
the tags. -/
structure FindsAlike (pattern : Pattern) (tags tags' : List Tag) : Prop where
  latest : (Match.searchLatest pattern tags).outcome.toOption.map (Option.map Match.unplaced) =
    (Match.searchLatest pattern tags').outcome.toOption.map (Option.map Match.unplaced)
  snapshot : (Snapshot.search pattern tags).outcome.toOption =
    (Snapshot.search pattern tags').outcome.toOption

/-- Other orders, other places in the listing, and more tags that the pattern does not match. -/
inductive Rearranged (pattern : Pattern) : List Tag → List Tag → Prop
  | permuted {tags tags' : List Tag} (h : tags.Perm tags') : Rearranged pattern tags tags'
  | replaced {tags tags' : List Tag} (h : tags.map Tag.unplaced = tags'.map Tag.unplaced) :
      Rearranged pattern tags tags'
  | inserted (before noise after : List Tag)
      (h : ∀ tag ∈ noise, pattern.read tag.name = .ok none) :
      Rearranged pattern (before ++ after) (before ++ (noise ++ after))
  | trans {tags tags' tags'' : List Tag} (h : Rearranged pattern tags tags')
      (h' : Rearranged pattern tags' tags'') : Rearranged pattern tags tags''

namespace Match

variable {found found' : List Match} {m : Match} {n : Int}

theorem pairwise_ranked (found : List Match) : (ranked found).Pairwise (·.number ≥ ·.number) := by
  induction found using List.reverseRecOn with
  | nil => simp [ranked]
  | append_singleton found m ih =>
    obtain ⟨before, after, hm, hf, hbefore, hafter⟩ := exists_ranked_append_singleton found m
    rw [hf] at ih
    obtain ⟨hb, ha, hboth⟩ := List.pairwise_append.1 ih
    rw [hm]
    refine List.pairwise_append.2 ⟨hb, List.pairwise_cons.2 ⟨hafter, ha⟩, ?_⟩
    intro b hb' a ha'
    obtain rfl | ha' := List.mem_cons.1 ha'
    · exact Int.le_of_lt (hbefore b hb')
    · exact hboth b hb' a ha'

/-- Ranking turns the order of the matches that share a number. -/
theorem filter_number_ranked (found : List Match) (n : Int) :
    (ranked found).filter (·.number = n) = (found.filter (·.number = n)).reverse := by
  induction found using List.reverseRecOn with
  | nil => simp [ranked]
  | append_singleton found m ih =>
    obtain ⟨before, after, hm, hf, hbefore, -⟩ := exists_ranked_append_singleton found m
    rw [hf, List.filter_append] at ih
    rw [hm, List.filter_append, List.filter_append, List.reverse_append, ← ih]
    by_cases hn : m.number = n
    · have hnone : before.filter (·.number = n) = [] := by
        refine List.filter_eq_nil_iff.2 fun b hb ↦ ?_
        have hlt := hbefore b hb
        simp only [decide_eq_true_eq]
        omega
      simp [hn, hnone]
    · simp [hn]

theorem mem_of_filter_number
    (hf : ∀ n, found.filter (·.number = n) = found'.filter (·.number = n)) (hm : m ∈ found) :
    m ∈ found' := by
  have hclass : m ∈ found.filter (·.number = m.number) := List.mem_filter.2 ⟨hm, by simp⟩
  exact (List.mem_filter.1 (hf m.number ▸ hclass)).1

/-- Sorted matches are known from those of each number. -/
theorem eq_of_filter_number (h : found.Pairwise (·.number ≥ ·.number))
    (h' : found'.Pairwise (·.number ≥ ·.number))
    (hf : ∀ n, found.filter (·.number = n) = found'.filter (·.number = n)) : found = found' := by
  induction found generalizing found' with
  | nil =>
    cases found' with
    | nil => rfl
    | cons m found' => simpa using hf m.number
  | cons m found ih =>
    cases found' with
    | nil => simpa using hf m.number
    | cons m' found' =>
      obtain ⟨hm, hrest⟩ := List.pairwise_cons.1 h
      obtain ⟨hm', hrest'⟩ := List.pairwise_cons.1 h'
      have hall : ∀ x ∈ m :: found, x.number ≤ m.number :=
        List.forall_mem_cons.2 ⟨Int.le_refl _, hm⟩
      have hall' : ∀ x ∈ m' :: found', x.number ≤ m'.number :=
        List.forall_mem_cons.2 ⟨Int.le_refl _, hm'⟩
      have heq : m'.number = m.number := by
        apply Int.le_antisymm
        · exact hall m' (mem_of_filter_number (fun n ↦ (hf n).symm) List.mem_cons_self)
        · exact hall' m (mem_of_filter_number hf List.mem_cons_self)
      have hhead := hf m.number
      rw [List.filter_cons_of_pos (by simp), List.filter_cons_of_pos (by simp [heq])] at hhead
      obtain rfl := (List.cons.inj hhead).1
      refine congrArg (m :: ·) (ih hrest hrest' fun n ↦ ?_)
      have hn := hf n
      by_cases he : m.number = n
      · rw [List.filter_cons_of_pos (by simp [he]), List.filter_cons_of_pos (by simp [he])] at hn
        exact (List.cons.inj hn).2
      · rwa [List.filter_cons_of_neg (by simp [he]), List.filter_cons_of_neg (by simp [he])] at hn

theorem ranked_eq_of_filter_number
    (hf : ∀ n, found.filter (·.number = n) = found'.filter (·.number = n)) :
    ranked found = ranked found' := by
  refine eq_of_filter_number (pairwise_ranked found) (pairwise_ranked found') fun n ↦ ?_
  rw [filter_number_ranked, filter_number_ranked, hf]

theorem numberIn?_of_ofTag? {pattern : Pattern} {tag : Tag} (h : ofTag? pattern tag = some m) :
    pattern.numberIn? tag.name = some m.number := by
  obtain ⟨-, hr⟩ := ofTag?_eq_some_iff.1 h
  obtain ⟨parts, hp, -, -, hn⟩ := Pattern.read_eq_ok_some_iff.1 hr
  rw [Pattern.numberIn?, hp, Option.map_some, hn]

theorem filter_number_filterMap (pattern : Pattern) (tags : List Tag) (n : Int) :
    ((tags.filterMap (ofTag? pattern)).map unplaced).filter (·.number = n) =
      (pattern.tagsOf n tags).filterMap (ofTag? pattern) := by
  induction tags with
  | nil => rfl
  | cons tag tags ih =>
    cases hm : ofTag? pattern tag with
    | none =>
      have hu : ofTag? pattern tag.unplaced = none := by rw [ofTag?_unplaced, hm, Option.map_none]
      rw [List.filterMap_cons_none hm, ih, Pattern.tagsOf, Pattern.tagsOf, List.filter_cons]
      split
      · rw [List.map_cons, List.filterMap_cons_none hu]
      · rfl
    | some m =>
      have hu : ofTag? pattern tag.unplaced = some m.unplaced := by
        rw [ofTag?_unplaced, hm, Option.map_some]
      have hn := numberIn?_of_ofTag? hm
      rw [List.filterMap_cons_some hm, List.map_cons, List.filter_cons, ih, Pattern.tagsOf,
        Pattern.tagsOf, List.filter_cons, hn, number_unplaced]
      by_cases he : m.number = n
      · simp [he, hu]
      · simp [he]

end Match

theorem Snapshot.ofMatches?_map_unplaced (variant : Text) (found : List Match) :
    ofMatches? variant (found.map Match.unplaced) = ofMatches? variant found := by
  rw [ofMatches?, ofMatches?, Match.ranked_map Match.number_unplaced]
  cases Match.ranked found with
  | nil => rfl
  | cons current earlier =>
    simp only [List.map_cons, List.head?_map, List.find?_map, Option.map_map, Function.comp_def]
    rfl

section

variable {pattern : Pattern} {tags tags' : List Tag}

theorem Pattern.exists_read_of_tagsOf
    (h : ∀ number, pattern.tagsOf number tags = pattern.tagsOf number tags')
    (hr : ∀ tag ∈ tags, ∃ parts, pattern.read tag.name = .ok parts) :
    ∀ tag ∈ tags', ∃ parts, pattern.read tag.name = .ok parts := by
  intro tag ht
  cases hp : pattern.parts? tag.name with
  | none => exact ⟨none, by rw [read, hp]⟩
  | some parts =>
    have hclass : tag.unplaced ∈ pattern.tagsOf (Numeral.valueOf parts.number.text) tags' := by
      refine List.mem_map_of_mem (List.mem_filter.2 ⟨ht, ?_⟩)
      simp [numberIn?, hp]
    rw [← h] at hclass
    obtain ⟨other, ho, hsame⟩ := List.mem_map.1 hclass
    have hname : other.unplaced.name = tag.unplaced.name := congrArg Tag.name hsame
    exact hname ▸ hr other (List.mem_filter.1 ho).1

theorem Match.ofTags_cases_of_tagsOf
    (h : ∀ number, pattern.tagsOf number tags = pattern.tagsOf number tags') :
    (∃ fault fault', ofTags pattern tags = .error fault ∧ ofTags pattern tags' = .error fault') ∨
      ∃ found found', ofTags pattern tags = .ok found ∧ ofTags pattern tags' = .ok found' ∧
        ranked (found.map unplaced) = ranked (found'.map unplaced) := by
  cases hf : ofTags pattern tags with
  | error fault =>
    cases hf' : ofTags pattern tags' with
    | error fault' => exact .inl ⟨fault, fault', rfl, rfl⟩
    | ok found' =>
      have hr := Pattern.exists_read_of_tagsOf (fun n ↦ (h n).symm) (ofTags_eq_ok_iff.1 hf').1
      rw [ofTags_eq_ok_iff.2 ⟨hr, rfl⟩] at hf
      cases hf
  | ok found =>
    obtain ⟨hr, rfl⟩ := ofTags_eq_ok_iff.1 hf
    have hf' := ofTags_eq_ok_iff.2 ⟨Pattern.exists_read_of_tagsOf h hr, rfl⟩
    refine .inr ⟨_, _, rfl, hf', ranked_eq_of_filter_number fun n ↦ ?_⟩
    rw [filter_number_filterMap, filter_number_filterMap, h]

/-- Searches see of a list of tags only the tags of each number, in their order. -/
theorem findsAlike_of_tagsOf
    (h : ∀ number, pattern.tagsOf number tags = pattern.tagsOf number tags') :
    FindsAlike pattern tags tags' := by
  constructor
  · rw [Match.outcome_searchLatest, Match.outcome_searchLatest]
    obtain ⟨fault, fault', hf, hf'⟩ | ⟨found, found', hf, hf', hr⟩ := Match.ofTags_cases_of_tagsOf h
    · rw [hf, hf']
      rfl
    · have hlatest : (Match.latest found).map Match.unplaced =
          (Match.latest found').map Match.unplaced := by
        rw [← Match.latest_map Match.number_unplaced, ← Match.head?_ranked, hr, Match.head?_ranked,
          Match.latest_map Match.number_unplaced]
      rw [hf, hf']
      exact congrArg some hlatest
  · rw [Snapshot.outcome_search, Snapshot.outcome_search, Snapshot.ofTags?, Snapshot.ofTags?]
    obtain ⟨fault, fault', hf, hf'⟩ | ⟨found, found', hf, hf', hr⟩ := Match.ofTags_cases_of_tagsOf h
    · rw [hf, hf']
      rfl
    · have hsnapshot : Snapshot.ofMatches? pattern.variant found =
          Snapshot.ofMatches? pattern.variant found' := by
        rw [← Snapshot.ofMatches?_map_unplaced, Snapshot.ofMatches?, hr, ← Snapshot.ofMatches?,
          Snapshot.ofMatches?_map_unplaced]
      rw [hf, hf']
      exact congrArg some hsnapshot

def Pattern.numbered (pattern : Pattern) (tags : List Tag) : List (Tag × Int) :=
  (tags.map Tag.unplaced).filterMap fun tag ↦ (pattern.numberIn? tag.name).map (tag, ·)

theorem Pattern.tagsOf_eq (pattern : Pattern) (number : Int) (tags : List Tag) :
    pattern.tagsOf number tags = ((pattern.numbered tags).filter (·.2 = number)).map (·.1) := by
  induction tags with
  | nil => rfl
  | cons tag tags ih =>
    have hname : tag.unplaced.name = tag.name := rfl
    rw [numbered] at ih
    rw [tagsOf, numbered, List.map_cons, List.filter_cons, List.filterMap_cons, hname]
    rw [tagsOf] at ih
    cases pattern.numberIn? tag.name with
    | none => simpa using ih
    | some n => by_cases he : n = number <;> simpa [he] using ih

theorem Pattern.numberIn?_of_read {name : Text} (h : pattern.read name = .ok none) :
    pattern.numberIn? name = none := by
  cases hp : pattern.parts? name with
  | none => rw [numberIn?, hp, Option.map_none]
  | some parts =>
    rw [read_eq hp] at h
    split at h <;> cases h

theorem Pattern.numbered_of_unmatched {noise : List Tag}
    (h : ∀ tag ∈ noise, pattern.read tag.name = .ok none) : pattern.numbered noise = [] := by
  refine List.filterMap_eq_nil_iff.2 fun tag ht ↦ ?_
  obtain ⟨other, ho, rfl⟩ := List.mem_map.1 ht
  rw [show other.unplaced.name = other.name from rfl, numberIn?_of_read (h other ho), Option.map_none]

theorem Rearranged.perm_numbered (h : Rearranged pattern tags tags') :
    (pattern.numbered tags).Perm (pattern.numbered tags') := by
  induction h with
  | permuted h => exact (h.map _).filterMap _
  | replaced h => rw [Pattern.numbered, h, Pattern.numbered]
  | inserted before noise after h =>
    have happend (first second : List Tag) :
        pattern.numbered (first ++ second) = pattern.numbered first ++ pattern.numbered second := by
      rw [Pattern.numbered, List.map_append, List.filterMap_append]
      rfl
    rw [happend, happend, happend, Pattern.numbered_of_unmatched h, List.nil_append]
  | trans _ _ ih ih' => exact ih.trans ih'

theorem filter_number_eq_of_perm {numbered numbered' : List (Tag × Int)}
    (hp : numbered.Perm numbered') (hn : (numbered.map (·.2)).Nodup) (n : Int) :
    numbered.filter (·.2 = n) = numbered'.filter (·.2 = n) := by
  have hfilter := hp.filter (·.2 = n)
  have hcount := List.nodup_iff_count_le_one.1 hn n
  rw [List.count, List.countP_map, List.countP_eq_length_filter] at hcount
  have hlength : (numbered.filter (·.2 = n)).length ≤ 1 := by
    refine Nat.le_trans (Nat.le_of_eq ?_) hcount
    congr 1
  generalize numbered.filter (·.2 = n) = found at hfilter hlength
  match found with
  | [] => exact hfilter.nil_eq
  | [tag] => exact (List.perm_singleton.1 hfilter.symm).symm
  | tag :: tag' :: rest => simp at hlength

theorem Rearranged.forall_read_iff (h : Rearranged pattern tags tags') :
    (∀ tag ∈ tags, ∃ parts, pattern.read tag.name = .ok parts) ↔
      ∀ tag ∈ tags', ∃ parts, pattern.read tag.name = .ok parts := by
  induction h with
  | permuted h => exact forall_congr' fun tag ↦ by rw [h.mem_iff]
  | @replaced tags tags' h =>
    have hname (tags : List Tag) : (∀ tag ∈ tags, ∃ parts, pattern.read tag.name = .ok parts) ↔
        ∀ tag ∈ tags.map Tag.unplaced, ∃ parts, pattern.read tag.name = .ok parts := by
      rw [List.forall_mem_map]
      exact Iff.rfl
    rw [hname, h, ← hname]
  | inserted before noise after h =>
    have hnoise : ∀ tag ∈ noise, ∃ parts, pattern.read tag.name = .ok parts :=
      fun tag ht ↦ ⟨none, h tag ht⟩
    rw [List.forall_mem_append, List.forall_mem_append, List.forall_mem_append]
    exact and_congr_right fun _ ↦ (and_iff_right hnoise).symm
  | trans _ _ ih ih' => exact ih.trans ih'

theorem Pattern.map_numbered (h : ∀ tag ∈ tags, ∃ parts, pattern.read tag.name = .ok parts) :
    (pattern.numbered tags).map (·.2) = (tags.filterMap (Match.ofTag? pattern)).map (·.number) := by
  induction tags with
  | nil => rfl
  | cons tag tags ih =>
    obtain ⟨⟨parts, hp⟩, htags⟩ := List.forall_mem_cons.1 h
    have hname : tag.unplaced.name = tag.name := rfl
    rw [numbered] at ih
    rw [numbered, List.map_cons, List.filterMap_cons, List.filterMap_cons, hname]
    cases parts with
    | none =>
      have hm : Match.ofTag? pattern tag = none := by rw [Match.ofTag?, hp]
      rw [numberIn?_of_read hp, hm]
      exact ih htags
    | some parts =>
      have hm : Match.ofTag? pattern tag = some ⟨tag, parts.1, parts.2⟩ := by rw [Match.ofTag?, hp]
      rw [Match.numberIn?_of_ofTag? hm, hm]
      exact congrArg (parts.2 :: ·) (ih htags)

theorem searches_of_unread (h : ¬∀ tag ∈ tags, ∃ parts, pattern.read tag.name = .ok parts) :
    (Match.searchLatest pattern tags).outcome.toOption = none ∧
      (Snapshot.search pattern tags).outcome.toOption = none := by
  rw [Match.outcome_searchLatest, Snapshot.outcome_search, Snapshot.ofTags?]
  cases hf : Match.ofTags pattern tags with
  | error fault => exact ⟨rfl, rfl⟩
  | ok found => exact absurd (Match.ofTags_eq_ok_iff.1 hf).1 h

/-- Where no two matches share a build number, searches do not depend on the order of the tags, their
places in the listing, and tags that the pattern does not match. Where matches share a number,
searches depend on nothing but the order of the tags of each number. -/
theorem searches_of_rearranged (pattern : Pattern) (tags tags' : List Tag) :
    (pattern.TellsApart (tags.map (·.name)) → Rearranged pattern tags tags' →
      FindsAlike pattern tags tags') ∧
    ((∀ number, pattern.tagsOf number tags = pattern.tagsOf number tags') →
      FindsAlike pattern tags tags') := by
  refine ⟨fun hn hr ↦ ?_, findsAlike_of_tagsOf⟩
  by_cases hread : ∀ tag ∈ tags, ∃ parts, pattern.read tag.name = .ok parts
  · rw [Pattern.TellsApart, ← Match.map_number_filterMap_ofTag?, ← Pattern.map_numbered hread] at hn
    refine findsAlike_of_tagsOf fun number ↦ ?_
    rw [Pattern.tagsOf_eq, Pattern.tagsOf_eq, filter_number_eq_of_perm hr.perm_numbered hn]
  · obtain ⟨hlatest, hsnapshot⟩ := searches_of_unread hread
    obtain ⟨hlatest', hsnapshot'⟩ := searches_of_unread (mt hr.forall_read_iff.2 hread)
    exact ⟨by rw [hlatest, hlatest'], by rw [hsnapshot, hsnapshot']⟩

def listedTags : List Tag :=
  [⟨"v1.0.5-debug", "a", [], 0⟩, ⟨"v2.0.7-debug", "b", [], 1⟩, ⟨"v1.0.7-debug", "c", [], 2⟩]

def relistedTags : List Tag :=
  [⟨"v2.0.7-debug", "b", [], 0⟩, ⟨"v1.0.7-debug", "c", [], 1⟩, ⟨"v1.0.5-debug", "a", [], 2⟩]

def distinctTags : List Tag := [⟨"v1.0.5-debug", "a", [], 0⟩, ⟨"v2.0.7-debug", "b", [], 1⟩]

def mixedTags : List Tag :=
  [⟨"v2.0.7-debug", "b", [], 9⟩, ⟨"v3.0.99-release", "c", [], 3⟩, ⟨"v1.0.5-debug", "a", [], 9⟩]

theorem relisted_found_alike :
    ∃ pattern, Pattern.ofTokens none "debug" = .ok pattern ∧
      FindsAlike pattern distinctTags mixedTags ∧ FindsAlike pattern listedTags relistedTags := by
  let pattern : Pattern := ⟨Pattern.defaultTokens, "debug", by decide, by decide, by decide⟩
  obtain ⟨hdistinct, -⟩ := searches_of_rearranged pattern distinctTags mixedTags
  obtain ⟨-, htied⟩ := searches_of_rearranged pattern listedTags relistedTags
  have hnumbers : ((distinctTags.map (·.name)).filterMap pattern.number?).Nodup := by decide +kernel
  refine ⟨pattern, rfl, hdistinct hnumbers ?_, htied fun number ↦ ?_⟩
  · have hswapped : Rearranged pattern distinctTags distinctTags.reverse :=
      .permuted (List.reverse_perm _).symm
    have hreplaced : Rearranged pattern distinctTags.reverse
        ([⟨"v2.0.7-debug", "b", [], 9⟩] ++ [⟨"v1.0.5-debug", "a", [], 9⟩]) := .replaced rfl
    have hinserted : Rearranged pattern
        ([⟨"v2.0.7-debug", "b", [], 9⟩] ++ [⟨"v1.0.5-debug", "a", [], 9⟩]) mixedTags := by
      refine .inserted _ [⟨"v3.0.99-release", "c", [], 3⟩] _ fun tag ht ↦ ?_
      obtain rfl := List.mem_singleton.1 ht
      decide +kernel
    exact (hswapped.trans hreplaced).trans hinserted
  · have hlisted : pattern.numbered listedTags = [(⟨"v1.0.5-debug", "a", [], 0⟩, 5),
        (⟨"v2.0.7-debug", "b", [], 0⟩, 7), (⟨"v1.0.7-debug", "c", [], 0⟩, 7)] := by decide +kernel
    have hrelisted : pattern.numbered relistedTags = [(⟨"v2.0.7-debug", "b", [], 0⟩, 7),
        (⟨"v1.0.7-debug", "c", [], 0⟩, 7), (⟨"v1.0.5-debug", "a", [], 0⟩, 5)] := by decide +kernel
    rw [Pattern.tagsOf_eq, Pattern.tagsOf_eq, hlisted, hrelisted]
    by_cases hfive : 5 = number
    · subst hfive
      decide
    · simp [hfive, List.filter_cons]

end

end BuildTags
