import BuildTags.Build.Search
import BuildTags.Proofs.Outcome
import Mathlib.Data.List.Induction

namespace BuildTags

namespace Match

variable {pattern : Pattern} {tag : Tag} {tags : List Tag} {found : List Match} {m best : Match}

def ofTag? (pattern : Pattern) (tag : Tag) : Option Match :=
  match pattern.read tag.name with
  | .ok (some (version, number)) => some ⟨tag, version, number⟩
  | _ => none

def withTag (change : Tag → Tag) (found : Match) : Match := { found with tag := change found.tag }

theorem number_withTag (change : Tag → Tag) (found : Match) :
    (found.withTag change).number = found.number := rfl

theorem ofTag_eq_ok_iff {o : Option Match} : ofTag pattern tag = .ok o ↔
    (∃ parts, pattern.read tag.name = .ok parts) ∧ o = ofTag? pattern tag := by
  unfold ofTag ofTag?
  cases pattern.read tag.name with
  | error fault => simp
  | ok parts => cases parts <;> simp [eq_comm, pure, Except.pure]

theorem ofTag?_eq_some_iff : ofTag? pattern tag = some m ↔
    m.tag = tag ∧ pattern.read tag.name = .ok (some (m.version, m.number)) := by
  obtain ⟨tag', version, number⟩ := m
  unfold ofTag?
  cases pattern.read tag.name with
  | error fault => simp
  | ok parts => cases parts <;> simp [Prod.ext_iff, eq_comm]

theorem ofTags_eq_ok_iff : ofTags pattern tags = .ok found ↔
    (∀ tag ∈ tags, ∃ parts, pattern.read tag.name = .ok parts) ∧
      found = tags.filterMap (ofTag? pattern) := by
  induction tags generalizing found with
  | nil => simp [ofTags, eq_comm]
  | cons tag tags ih =>
    simp only [ofTags, bind_eq_ok_iff, ofTag_eq_ok_iff, ih, List.forall_mem_cons]
    constructor
    · rintro ⟨_, ⟨hp, rfl⟩, _, ⟨hps, rfl⟩, h⟩
      refine ⟨⟨hp, hps⟩, ?_⟩
      cases h
      cases hm : ofTag? pattern tag <;> simp [hm]
    · rintro ⟨⟨hp, hps⟩, rfl⟩
      refine ⟨_, ⟨hp, rfl⟩, _, ⟨hps, rfl⟩, ?_⟩
      cases hm : ofTag? pattern tag <;> simp [hm, pure, Except.pure]

theorem ofTags_eq_ok_nil_iff :
    ofTags pattern tags = .ok [] ↔ ∀ tag ∈ tags, pattern.read tag.name = .ok none := by
  rw [ofTags_eq_ok_iff, eq_comm, List.filterMap_eq_nil_iff, ← forall₂_and]
  refine forall₂_congr fun tag _ ↦ ?_
  rw [ofTag?]
  cases pattern.read tag.name with
  | error fault => simp
  | ok parts => cases parts <;> simp

section

variable {change : Tag → Tag} (hname : ∀ tag, (change tag).name = tag.name)

include hname

theorem ofTag?_change (pattern : Pattern) (tag : Tag) :
    ofTag? pattern (change tag) = (ofTag? pattern tag).map (withTag change) := by
  rw [ofTag?, ofTag?, hname]
  cases pattern.read tag.name with
  | error fault => rfl
  | ok parts => cases parts <;> rfl

/-- Matches depend on tags by their names alone. -/
theorem ofTags_map_change (pattern : Pattern) (tags : List Tag) :
    ofTags pattern (tags.map change) = (ofTags pattern tags).map (List.map (withTag change)) := by
  induction tags with
  | nil => rfl
  | cons tag tags ih =>
    rw [List.map_cons, ofTags, ofTags, ofTag, ofTag, hname, ih]
    cases pattern.read tag.name with
    | error fault => rfl
    | ok parts => cases parts <;> cases ofTags pattern tags <;> rfl

end

theorem exists_read_error_of_ofTags {fault : Numeral.Fault} (h : ofTags pattern tags = .error fault) :
    ∃ tag ∈ tags, pattern.read tag.name = .error fault := by
  induction tags with
  | nil => cases h
  | cons tag tags ih =>
    rw [ofTags, bind_eq_error_iff] at h
    obtain h | ⟨first, -, h⟩ := h
    · refine ⟨tag, List.mem_cons_self, ?_⟩
      rw [ofTag, bind_eq_error_iff] at h
      obtain h | ⟨parts, -, h⟩ := h
      · exact h
      · cases parts <;> cases h
    · rw [bind_eq_error_iff] at h
      obtain h | ⟨rest, -, h⟩ := h
      · obtain ⟨tag, ht, hr⟩ := ih h
        exact ⟨tag, List.mem_cons_of_mem _ ht, hr⟩
      · cases h

theorem latest_append_singleton (found : List Match) (m : Match) :
    latest (found ++ [m]) = match latest found with
      | some best => if best.number ≤ m.number then some m else some best
      | none => some m := by
  rw [latest, List.foldl_append]
  rfl

theorem latest_eq_none_iff : latest found = none ↔ found = [] := by
  induction found using List.reverseRecOn with
  | nil => simp [latest]
  | append_singleton found m _ =>
    rw [latest_append_singleton]
    cases latest found with
    | none => simp
    | some best => by_cases h : best.number ≤ m.number <;> simp [h]

theorem latest_spec (h : latest found = some best) :
    best ∈ found ∧ ∀ m ∈ found, m.number ≤ best.number := by
  induction found using List.reverseRecOn generalizing best with
  | nil => cases h
  | append_singleton found m ih =>
    rw [latest_append_singleton] at h
    cases hl : latest found with
    | none =>
      obtain rfl : found = [] := latest_eq_none_iff.1 hl
      simp_all
    | some b =>
      obtain ⟨hb, hle⟩ := ih hl
      by_cases hn : b.number ≤ m.number
      · obtain rfl : m = best := by simpa [hl, hn] using h
        refine ⟨by simp, fun x hx ↦ ?_⟩
        obtain hx | hx := List.mem_append.1 hx
        · exact Int.le_trans (hle x hx) hn
        · exact List.mem_singleton.1 hx ▸ Int.le_refl _
      · obtain rfl : b = best := by simpa [hl, hn] using h
        refine ⟨by simp [hb], fun x hx ↦ ?_⟩
        obtain hx | hx := List.mem_append.1 hx
        · exact hle x hx
        · rw [List.mem_singleton.1 hx]
          omega

theorem latest_append_of_le (h : ∀ x ∈ found, x.number ≤ m.number) :
    latest (found ++ [m]) = some m := by
  rw [latest_append_singleton]
  cases hl : latest found with
  | none => rfl
  | some b => simp [h b (latest_spec hl).1]

/-- One more match takes its place among the ranked ones after those with greater numbers. -/
theorem exists_ranked_append_singleton (found : List Match) (m : Match) :
    ∃ before after, ranked (found ++ [m]) = before ++ m :: after ∧ ranked found = before ++ after ∧
      (∀ b ∈ before, m.number < b.number) ∧ ∀ a ∈ after, a.number ≤ m.number := by
  have htrans : ∀ a b c : Match, decide (b.number ≤ a.number) → decide (c.number ≤ b.number) →
      decide (c.number ≤ a.number) := by
    simp only [decide_eq_true_eq]
    omega
  have htotal : ∀ a b : Match, decide (b.number ≤ a.number) || decide (a.number ≤ b.number) := by
    simp only [Bool.or_eq_true, decide_eq_true_eq]
    omega
  obtain ⟨before, after, hm, hf, hlt⟩ := List.mergeSort_cons htrans htotal m found.reverse
  have hsorted := List.pairwise_mergeSort htrans htotal (m :: found.reverse)
  rw [hm] at hsorted
  have hafter := (List.pairwise_cons.1 (List.pairwise_append.1 hsorted).2.1).1
  refine ⟨before, after, by simpa [ranked] using hm, hf, fun b hb ↦ ?_, fun a ha ↦ ?_⟩
  · simpa using hlt b hb
  · simpa using hafter a ha

theorem head?_ranked (found : List Match) : (ranked found).head? = latest found := by
  induction found using List.reverseRecOn with
  | nil => simp [ranked, latest]
  | append_singleton found m ih =>
    obtain ⟨before, after, hm, hf, hbefore, hafter⟩ := exists_ranked_append_singleton found m
    rw [latest_append_singleton, ← ih, hm, hf]
    cases before with
    | cons b before =>
      have hb : ¬b.number ≤ m.number := Int.not_le.2 (hbefore b (by simp))
      simp [hb]
    | nil =>
      cases after with
      | nil => rfl
      | cons a after => simp [hafter a (by simp)]

theorem ranked_map {f : Match → Match} (h : ∀ m, (f m).number = m.number) (found : List Match) :
    ranked (found.map f) = (ranked found).map f := by
  rw [ranked, ranked, ← List.map_reverse]
  refine (List.map_mergeSort fun a _ b _ ↦ ?_).symm
  rw [h, h]

theorem latest_map {f : Match → Match} (h : ∀ m, (f m).number = m.number) (found : List Match) :
    latest (found.map f) = (latest found).map f := by
  rw [← head?_ranked, ranked_map h, List.head?_map, head?_ranked]

theorem outcome_searchLatest : (searchLatest pattern tags).outcome =
    ((ofTags pattern tags).map latest).mapError .numeral := by
  rw [searchLatest, Traced.outcome_bind, search]
  cases ofTags pattern tags <;> rfl

theorem outcome_searchLatest_eq_ok_iff {best : Option Match} :
    (searchLatest pattern tags).outcome = .ok best ↔
      ∃ found, ofTags pattern tags = .ok found ∧ latest found = best := by
  rw [outcome_searchLatest, mapError_eq_ok_iff, map_eq_ok_iff]

theorem outcome_searchLatest_map {change : Tag → Tag} (hname : ∀ tag, (change tag).name = tag.name)
    (pattern : Pattern) (tags : List Tag) : (searchLatest pattern (tags.map change)).outcome =
      (searchLatest pattern tags).outcome.map (Option.map (withTag change)) := by
  rw [outcome_searchLatest, outcome_searchLatest, ofTags_map_change hname]
  cases ofTags pattern tags with
  | error fault => rfl
  | ok found => exact congrArg Except.ok (latest_map (number_withTag change) found)

theorem mem_of_mem_ranked (h : m ∈ ranked found) : m ∈ found :=
  List.mem_reverse.1 ((List.mergeSort_perm _ _).mem_iff.1 h)

end Match

namespace Snapshot

theorem current_ofMatches? (variant : Text) (found : List Match) :
    (ofMatches? variant found).map (·.current) =
      (Match.latest found).map (Build.ofMatch · variant) := by
  rw [← Match.head?_ranked, ofMatches?]
  cases Match.ranked found <;> rfl

theorem outcome_search {pattern : Pattern} {tags : List Tag} : (search pattern tags).outcome =
    (ofTags? pattern tags).mapError .numeral := by
  rw [search, Traced.outcome_bind, Match.search, ofTags?]
  cases Match.ofTags pattern tags <;> rfl

theorem ofTags?_of_search {pattern : Pattern} {tags : List Tag} {snapshot : Option Snapshot}
    (h : (search pattern tags).outcome = .ok snapshot) : ofTags? pattern tags = .ok snapshot := by
  rwa [outcome_search, mapError_eq_ok_iff] at h

theorem exists_of_previous {pattern : Pattern} {tags : List Tag} {snapshot : Snapshot}
    {build : Build} (h : ofTags? pattern tags = .ok (some snapshot))
    (hb : snapshot.previous = some build) : ∃ tag ∈ tags, tag.sha = build.sha := by
  obtain ⟨found, hf, hs⟩ := map_eq_ok_iff.1 h
  obtain ⟨-, rfl⟩ := Match.ofTags_eq_ok_iff.1 hf
  rw [ofMatches?] at hs
  cases hr : Match.ranked (tags.filterMap (Match.ofTag? pattern)) with
  | nil =>
    rw [hr] at hs
    cases hs
  | cons current earlier =>
    rw [hr] at hs
    obtain rfl := Option.some.inj hs
    obtain ⟨m, hm, rfl⟩ := Option.map_eq_some_iff.1 hb
    have hranked : m ∈ Match.ranked (tags.filterMap (Match.ofTag? pattern)) := by
      rw [hr]
      exact List.mem_cons_of_mem _ (List.mem_of_find?_eq_some hm)
    obtain ⟨tag, ht, hmatch⟩ := List.mem_filterMap.1 (Match.mem_of_mem_ranked hranked)
    obtain ⟨rfl, -⟩ := Match.ofTag?_eq_some_iff.1 hmatch
    exact ⟨m.tag, ht, rfl⟩

end Snapshot

end BuildTags
