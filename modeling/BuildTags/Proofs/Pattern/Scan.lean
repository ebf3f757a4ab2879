import BuildTags.Proofs.Pattern.Capture
import BuildTags.Proofs.Pattern.Default
import BuildTags.Proofs.Pattern.Group

namespace BuildTags.Pattern

/-- Whether a digit stands at a position of a name and no dot before it. -/
structure IsStart (name : Text) (position : Nat) : Prop where
  digit : ∃ c rest, name.drop position = c :: rest ∧ Text.isDigit c = true
  noDot : '.' ∉ name.take position

/-- Whether a version is the longest one that a text begins with. -/
structure IsRun (text run : Text) : Prop where
  begins : run <+: text
  isVersion : IsVersion run
  longest : ∀ other, other <+: text → IsVersion other → other.length ≤ run.length

/-- Whether the run of a start is followed by a dash and the variant name, and these by a text
without a line feed. -/
structure IsGoodStart (variant name : Text) (position : Nat) (run after : Text) : Prop where
  isStart : IsStart name position
  isRun : IsRun (name.drop position) run
  eq : name.drop position = run ++ '-' :: (variant ++ after)
  oneLine : '\n' ∉ after

def IsLeftmost (variant name : Text) (position : Nat) (run after : Text) : Prop :=
  IsGoodStart variant name position run after ∧
    ∀ position' run' after', IsGoodStart variant name position' run' after' → position ≤ position'

inductive Gives (run digits : Text) : Option (Text × Int) → Prop
  | trailing {number : Int} (h : digits ≠ []) (hn : Numeral.read digits = .ok number) :
      Gives run digits (some (run, number))
  | lastGroup {head last : Text} {number : Int} (h : digits = []) (hr : run = head ++ '.' :: last)
      (hl : '.' ∉ last) (hn : Numeral.read last = .ok number) : Gives run digits (some (head, number))
  | oneGroup (h : digits = []) (hr : '.' ∉ run) : Gives run digits none

section

variable {variant name before version after run text : Text} {position : Nat}

theorem isRun_append_cons {c : Char} {rest : Text} (h : IsVersion run) (hc : Text.isDigit c = false)
    (hd : c ≠ '.') : IsRun (run ++ c :: rest) run := by
  refine ⟨List.prefix_append _ _, h, ?_⟩
  intro other ho hv
  by_contra hlt
  have hlonger : run ++ [c] <+: other := by
    apply List.prefix_of_prefix_length_le _ ho
    · rw [List.length_append, List.length_singleton]
      omega
    · exact ⟨rest, (List.append_cons run c rest).symm⟩
  have hmem : c ∈ other := hlonger.subset (List.mem_append_right _ (List.mem_singleton_self c))
  exact hv.notMem hc hd hmem

theorem ReadsAs.isGoodStart (h : ReadsAs variant name before version after) :
    IsGoodStart variant name before.length version after := by
  have hdrop : name.drop before.length = version ++ '-' :: (variant ++ after) := by
    rw [h.eq, List.drop_left]
  refine ⟨⟨?_, ?_⟩, ?_, hdrop, h.oneLine⟩
  · obtain ⟨c, rest, rfl⟩ := List.exists_cons_of_ne_nil h.isVersion.ne_nil
    exact ⟨c, _, hdrop, (isVersion_cons_iff.1 h.isVersion).1⟩
  · rw [h.eq, List.take_left]
    exact h.noDot
  · rw [hdrop]
    exact isRun_append_cons h.isVersion isDigit_dash (by decide)

theorem IsGoodStart.readsAs (h : IsGoodStart variant name position run after) :
    ReadsAs variant name (name.take position) run after := by
  refine ⟨?_, h.isStart.noDot, h.isRun.isVersion, h.oneLine⟩
  rw [← h.eq, List.take_append_drop]

theorem IsGoodStart.length_take (h : IsGoodStart variant name position run after) :
    (name.take position).length = position := by
  obtain ⟨c, rest, hd, -⟩ := h.isStart.digit
  have hlen := congrArg List.length hd
  rw [List.length_drop, List.length_cons] at hlen
  rw [List.length_take]
  omega

theorem exists_readsAs_iff_isGoodStart :
    (∃ before version after, ReadsAs variant name before version after) ↔
      ∃ position run after, IsGoodStart variant name position run after := by
  constructor
  · rintro ⟨before, version, after, h⟩
    exact ⟨_, _, _, h.isGoodStart⟩
  · rintro ⟨position, run, after, h⟩
    exact ⟨_, _, _, h.readsAs⟩

theorem IsLeftmost.readsFirst (h : IsLeftmost variant name position run after) :
    ReadsFirst variant name (name.take position) run after := by
  refine ⟨h.1.readsAs, ?_⟩
  intro before' version' after' h'
  rw [h.1.length_take]
  exact h.2 _ _ _ h'.isGoodStart

theorem ReadsFirst.isLeftmost (h : ReadsFirst variant name before version after) :
    IsLeftmost variant name before.length version after := by
  refine ⟨h.1.isGoodStart, ?_⟩
  intro position' run' after' h'
  rw [← h'.length_take]
  exact h.2 _ _ _ h'.readsAs

theorem exists_isLeftmost (h : IsGoodStart variant name position run after) :
    ∃ position run after, IsLeftmost variant name position run after := by
  obtain ⟨before, version, after, hf⟩ := exists_readsFirst h.readsAs
  exact ⟨before.length, version, after, hf.isLeftmost⟩

theorem IsLeftmost.firstCut?_eq (h : IsLeftmost variant name position run after) :
    ∃ dash tail, firstCut? variant defaultTokens name = some (defaultCut variant (name.take position)
      run (after.takeWhile Text.isDigit) dash tail) := by
  have hf := h.readsFirst
  rw [← List.takeWhile_append_dropWhile (p := Text.isDigit) (l := after)] at hf
  obtain ⟨dash, tail, -, hc⟩ := hf.firstCut?_eq (fun c hc ↦ List.mem_takeWhile_imp hc)
    (beginsNoDigit_dropWhile after)
  exact ⟨dash, tail, hc⟩

end

section

variable {pattern : Pattern} {name run after : Text} {position : Nat}

theorem exists_captured_default (ht : pattern.tokens = defaultTokens)
    (h : IsLeftmost pattern.variant name position run after) :
    ∃ cursor, (regexOf pattern).fullMatch? name = some cursor ∧
      pattern.captured? "version" cursor = some run ∧
      pattern.captured? "build_number" cursor = (if after.takeWhile Text.isDigit = [] then none
        else some (after.takeWhile Text.isDigit)) := by
  obtain ⟨dash, tail, hc⟩ := h.firstCut?_eq
  rw [← ht] at hc
  obtain ⟨cursor, hmatch, hversion, hnumber⟩ := exists_fullMatch? hc
  refine ⟨cursor, hmatch, hversion, hnumber.trans ?_⟩
  simp only [defaultCut, Cut.trailing?]
  split <;> rfl

theorem exists_gives_default (ht : pattern.tokens = defaultTokens) (hs : name.HasShortGroups)
    (h : IsLeftmost pattern.variant name position run after) :
    ∃ result, pattern.read name = .ok result ∧ Gives run (after.takeWhile Text.isDigit) result := by
  obtain ⟨dash, tail, hc⟩ := h.firstCut?_eq
  have hparts : pattern.parts? name = defaultParts? pattern.variant (name.take position) run
      (after.takeWhile Text.isDigit) := by
    rw [parts?, cut?, ht, hc, Option.bind_some, parts?_defaultCut]
  by_cases hd : after.takeWhile Text.isDigit = []
  · rw [defaultParts?, if_pos hd] at hparts
    cases hl : Text.cutLast? "." run with
    | none =>
      rw [hl, Option.map_none] at hparts
      exact ⟨none, by rw [read, hparts], .oneGroup hd (Text.cutLast?_singleton_eq_none_iff.1 hl)⟩
    | some groups =>
      obtain ⟨head, last⟩ := groups
      rw [hl, Option.map_some] at hparts
      obtain ⟨number, hn, hr⟩ := exists_read_number hs hparts
      obtain ⟨hrun, hlast⟩ := Text.cutLast?_singleton_eq_some_iff.1 hl
      exact ⟨_, hr, .lastGroup hd hrun hlast hn⟩
  · rw [defaultParts?, if_neg hd] at hparts
    obtain ⟨number, hn, hr⟩ := exists_read_number hs hparts
    exact ⟨_, hr, .trailing hd hn⟩

end

structure Scans (pattern : Pattern) (regex : Regex) (name : Text) : Prop where
  isSome_iff : (regex.fullMatch? name).isSome ↔
    ∃ position run after, IsGoodStart pattern.variant name position run after
  exists_leftmost : (regex.fullMatch? name).isSome →
    ∃ position run after, IsLeftmost pattern.variant name position run after
  captures : ∀ position run after, IsLeftmost pattern.variant name position run after →
    ∃ cursor, regex.fullMatch? name = some cursor ∧
      pattern.captured? "version" cursor = some run ∧
      pattern.captured? "build_number" cursor = (if after.takeWhile Text.isDigit = [] then none
        else some (after.takeWhile Text.isDigit))
  gives : name.HasShortGroups → ∀ position run after,
    IsLeftmost pattern.variant name position run after →
    ∃ result, pattern.read name = .ok result ∧ Gives run (after.takeWhile Text.isDigit) result
  read_eq_none : (¬∃ position run after, IsGoodStart pattern.variant name position run after) →
    pattern.read name = .ok none

/-- The default pattern finds the version and the number of a name at its leftmost good start. -/
theorem default_scans (variant : Text) (hv : variant ≠ []) :
    ∃ pattern regex, ofTokens none variant = .ok pattern ∧ pattern.variant = variant ∧
      Regex.read pattern.expression = .ok regex ∧ ∀ name, Scans pattern regex name := by
  have hpattern : ∃ pattern, ofTokens none variant = .ok pattern :=
    exists_ofTokens_eq_ok_iff.2 ⟨hv, rfl, rfl⟩
  obtain ⟨pattern, hp⟩ := hpattern
  obtain ⟨ht, rfl⟩ := ofTokens_eq_ok_iff.1 hp
  refine ⟨pattern, regexOf pattern, hp, rfl, read_expression pattern _, ?_⟩
  intro name
  have hcut : (pattern.cut? name).isSome ↔
      ∃ position run after, IsGoodStart pattern.variant name position run after := by
    rw [cut?, ht, ← exists_readsAs_iff_isGoodStart]
    exact firstCut?_default_isSome_iff
  have hmatch : ((regexOf pattern).fullMatch? name).isSome ↔
      ∃ position run after, IsGoodStart pattern.variant name position run after := by
    rw [fullMatch?_regexOf, Option.isSome_map, hcut]
  constructor
  · exact hmatch
  · intro h
    obtain ⟨position, run, after, hgood⟩ := hmatch.1 h
    exact exists_isLeftmost hgood
  · intro position run after h
    exact exists_captured_default ht h
  · intro hs position run after h
    exact exists_gives_default ht hs h
  · intro hnone
    have hn : pattern.cut? name = none := Option.not_isSome_iff_eq_none.1 (mt hcut.1 hnone)
    rw [read, parts?, hn]
    rfl

/-- Of two good starts the left one counts, with all the digits that follow its variant name. -/
theorem first_of_two_starts_read :
    ∃ pattern regex cursor, ofTokens none "debug" = .ok pattern ∧
      Regex.read pattern.expression = .ok regex ∧
      regex.fullMatch? "v1.0-debug1٣-2.7-debug4" = some cursor ∧
      pattern.captured? "version" cursor = some "1.0" ∧
      pattern.captured? "build_number" cursor = some "1٣" ∧
      pattern.read "v1.0-debug1٣-2.7-debug4" = .ok (some ("1.0", 13)) := by
  obtain ⟨pattern, regex, hp, hv, hr, hscans⟩ := default_scans "debug" (by decide)
  have hreads : ReadsAs "debug" "v1.0-debug1٣-2.7-debug4" "v" "1.0" "1٣-2.7-debug4" :=
    ⟨rfl, by decide, .group (by decide) (.digit (by decide)), by decide⟩
  have hleft : IsLeftmost "debug" "v1.0-debug1٣-2.7-debug4" 1 "1.0" "1٣-2.7-debug4" :=
    (hreads.readsFirst_of_singleton (by decide)).isLeftmost
  rw [← hv] at hleft
  have h := hscans "v1.0-debug1٣-2.7-debug4"
  obtain ⟨cursor, hmatch, hversion, hnumber⟩ := h.captures _ _ _ hleft
  obtain ⟨result, hread, hgives⟩ :=
    h.gives (Text.hasShortGroups_of_length_le (by decide)) _ _ _ hleft
  refine ⟨pattern, regex, cursor, hp, hr, hmatch, hversion, hnumber, ?_⟩
  cases hgives with
  | @trailing number _ hn =>
    obtain rfl : 13 = number := Except.ok.inj hn
    exact hread
  | lastGroup hd => cases hd
  | oneGroup hd => cases hd

end BuildTags.Pattern
