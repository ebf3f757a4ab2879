import BuildTags.Proofs.Build.Train
import BuildTags.Proofs.Pattern.Stub

namespace BuildTags.Train

open Pattern (IsOpen JoinsDigits Parts)

def stubName (pattern : Pattern) (parts : Parts) (digits : Text) : Text :=
  Build.splice (Build.stub pattern.variant).name parts.number.start parts.number.stop digits

variable {pattern : Pattern} {tags : List Tag} {parts : Parts} {c : Char}

theorem joinsDigits_stub : JoinsDigits "v0.0.1-" := by
  have hv : Pattern.IsVersion "0.0.1" :=
    .group (by decide) (.group (by decide) (.digit (by decide)))
  have hb : ∀ c ∈ ['v'], Text.isDigit c = false := List.forall_mem_singleton.2 (by decide)
  have ha : ∀ c ∈ ['-'], Text.isDigit c = false := List.forall_mem_singleton.2 (by decide)
  exact hv.joinsDigits hb ha

theorem exists_stubName_eq (hp : pattern.parts? (Build.stub pattern.variant).name = some parts) :
    ∃ before after, parts.number.start = before.length ∧
      ∀ digits, stubName pattern parts digits = before ++ (digits ++ after) := by
  obtain ⟨before, after, hname, hstart, -⟩ := Pattern.exists_of_parts? hp
  exact ⟨before, after, hstart, fun digits ↦ Pattern.splice_eq digits hname hstart⟩

theorem splice_stubName (hp : pattern.parts? (Build.stub pattern.variant).name = some parts)
    (digits digits' : Text) :
    Build.splice (stubName pattern parts digits) parts.number.start
      (parts.number.start + digits.length) digits' = stubName pattern parts digits' := by
  obtain ⟨before, after, hstart, hname⟩ := exists_stubName_eq hp
  rw [hname digits']
  exact Pattern.splice_eq digits' (hname digits) hstart

theorem stubName_inj (hp : pattern.parts? (Build.stub pattern.variant).name = some parts)
    {digits digits' : Text} (h : stubName pattern parts digits = stubName pattern parts digits') :
    digits = digits' := by
  obtain ⟨before, after, -, hname⟩ := exists_stubName_eq hp
  rw [hname, hname] at h
  exact List.append_cancel_right (List.append_cancel_left h)

/-- With one other digit for its number the name of the stub is read like the name itself, unless an
optional separator can take the digit. -/
theorem parts?_stubName (hp : pattern.parts? (Build.stub pattern.variant).name = some parts)
    (hc : Text.isDigit c = true) (hn : c ∉ ("v0.0.1-" : Text))
    (hopen : IsOpen pattern.tokens (stubName pattern parts [c]) parts.number.start) :
    pattern.parts? (stubName pattern parts [c]) =
      some ⟨parts.version, ⟨parts.number.start, [c]⟩⟩ := by
  have hm : .buildVersion ∈ pattern.tokens := List.count_pos_iff.1 (by simp [pattern.one_version])
  have hm' : .buildVariantName ∈ pattern.tokens :=
    List.count_pos_iff.1 (by simp [pattern.one_variant])
  exact Pattern.parts?_splice_of_stub hn joinsDigits_stub hc hm hm' hopen hp

theorem read_stubName (hp : pattern.parts? (Build.stub pattern.variant).name = some parts)
    (hc : Text.isDigit c = true) (hn : c ∉ ("v0.0.1-" : Text))
    (hopen : IsOpen pattern.tokens (stubName pattern parts [c]) parts.number.start) :
    pattern.read (stubName pattern parts [c]) =
      .ok (some (parts.version, (Numeral.valueOf [c] : Int))) :=
  Pattern.read_eq_ok_some_iff.2 ⟨_, parts?_stubName hp hc hn hopen, rfl,
    (by decide : 1 ≤ Numeral.maxDigits), rfl⟩

theorem latest_of_unmatched (h : ∀ tag ∈ tags, pattern.read tag.name = .ok none) :
    latest pattern tags = .ok (.stub pattern.variant) := by
  refine latest_eq_ok_iff.2 ⟨[], Match.ofTags_eq_ok_iff.2 ⟨fun tag ht ↦ ⟨_, h tag ht⟩, ?_⟩, rfl⟩
  refine (List.filterMap_eq_nil_iff.2 fun tag ht ↦ ?_).symm
  refine Option.eq_none_iff_forall_ne_some.2 fun m hm ↦ ?_
  obtain ⟨-, hr⟩ := Match.ofTag?_eq_some_iff.1 hm
  rw [h tag ht] at hr
  cases hr

theorem write_number_stub (variant : Text) :
    Numeral.write (Build.stub variant).number = .ok ['1'] ∧
      Numeral.write ((Build.stub variant).number + 1) = .ok ['2'] := by
  have hn : (Build.stub variant).number = 1 := rfl
  have hn' : (Build.stub variant).number + 1 = 2 := rfl
  exact ⟨by rw [hn]; rfl, by rw [hn']; rfl⟩

theorem nextName_stub (h : latest pattern tags = .ok (.stub pattern.variant))
    (hp : pattern.parts? (Build.stub pattern.variant).name = some parts) :
    nextName pattern tags = .ok (stubName pattern parts "2") := by
  rw [nextName_of_latest h, Build.successorName_eq rfl hp, (write_number_stub _).2]
  rfl

/-- A name in which the pattern finds no number has its last 1 replaced. -/
theorem nextName_stub_of_none (h : latest pattern tags = .ok (.stub pattern.variant))
    (hp : pattern.parts? (Build.stub pattern.variant).name = none) :
    ∃ head tail, (Build.stub pattern.variant).name = head ++ '1' :: tail ∧ '1' ∉ tail ∧
      nextName pattern tags = .ok (head ++ '2' :: tail) := by
  have hone : '1' ∈ (Build.stub pattern.variant).name := by
    rw [Build.stub_name]
    exact List.mem_append_left _ (by decide)
  obtain ⟨⟨head, tail⟩, hc⟩ := Option.ne_none_iff_exists'.1
    (mt Text.cutLast?_singleton_eq_none_iff.1 (not_not.2 hone))
  obtain ⟨hname, hn⟩ := Text.cutLast?_singleton_eq_some_iff.1 hc
  refine ⟨head, tail, hname, hn, ?_⟩
  obtain ⟨hw, hw'⟩ := write_number_stub pattern.variant
  rw [nextName_of_latest h, Build.successorName_of_none rfl hp hw hw' hc, List.append_assoc]
  rfl

/-- Where no tag matches, the next build has the name of the stub with the number 2, and the one after
it that with the number 3, where the pattern finds a number in the name of the stub. Each of them is
read so and is the latest one, unless an optional separator can take the new digit. -/
theorem bootstrap (h : ∀ tag ∈ tags, pattern.read tag.name = .ok none) :
    (pattern.parts? (Build.stub pattern.variant).name = none →
      ∃ head tail, (Build.stub pattern.variant).name = head ++ '1' :: tail ∧ '1' ∉ tail ∧
        nextName pattern tags = .ok (head ++ '2' :: tail)) ∧
    ∀ parts, pattern.parts? (Build.stub pattern.variant).name = some parts →
      nextName pattern tags = .ok (stubName pattern parts "2") ∧
      (IsOpen pattern.tokens (stubName pattern parts "2") parts.number.start →
        ∀ made : Tag, made.name = stubName pattern parts "2" →
          Advances pattern tags parts.version 2 made ∧
          nextName pattern (tags ++ [made]) = .ok (stubName pattern parts "3") ∧
          stubName pattern parts "3" ≠ made.name ∧
          (IsOpen pattern.tokens (stubName pattern parts "3") parts.number.start →
            ∀ made' : Tag, made'.name = stubName pattern parts "3" →
              Advances pattern (tags ++ [made]) parts.version 3 made')) := by
  have hl := latest_of_unmatched h
  refine ⟨nextName_stub_of_none hl, fun parts hp ↦ ⟨nextName_stub hl hp, fun hopen made hmade ↦ ?_⟩⟩
  have hr : pattern.read made.name = .ok (some (parts.version, 2)) :=
    hmade ▸ read_stubName hp (by decide) (by decide) hopen
  have hlt : (Build.stub pattern.variant).number < 2 := by
    have hn : (Build.stub pattern.variant).number = 1 := rfl
    omega
  have hl' := latest_append hl hlt hr
  have hp' : pattern.parts? made.name = some ⟨parts.version, ⟨parts.number.start, ['2']⟩⟩ :=
    hmade ▸ parts?_stubName hp (by decide) (by decide) hopen
  refine ⟨advances_of_read hl hlt hr, ?_, fun he ↦ ?_, fun hopen' made' hmade' ↦ ?_⟩
  · have hw : Numeral.write (2 + 1) = .ok "3" := rfl
    rw [nextName_of_latest hl', Build.successorName_eq rfl hp', Build.ofMatch, hw, hmade]
    exact congrArg Except.ok (splice_stubName hp ['2'] ['3'])
  · have hdigits := stubName_inj hp (he.trans hmade)
    revert hdigits
    decide
  · have hr' : pattern.read made'.name = .ok (some (parts.version, 3)) :=
      hmade' ▸ read_stubName hp (by decide) (by decide) hopen'
    exact advances_of_read hl' (by decide : (2 : Int) < 3) hr'

/-- The first two builds of a variant, beside a tag that does not match. -/
theorem debug_bootstrap : ∃ pattern, Pattern.ofTokens none "debug" = .ok pattern ∧
    (∀ tag ∈ [Tag.mk "nightly" "a" [] 0], pattern.read tag.name = .ok none) ∧
    nextName pattern [⟨"nightly", "a", [], 0⟩] = .ok "v0.0.2-debug" ∧
    Advances pattern [⟨"nightly", "a", [], 0⟩] "0.0" 2 ⟨"v0.0.2-debug", "b", [], 1⟩ ∧
    nextName pattern [⟨"nightly", "a", [], 0⟩, ⟨"v0.0.2-debug", "b", [], 1⟩] = .ok "v0.0.3-debug" ∧
    Advances pattern [⟨"nightly", "a", [], 0⟩, ⟨"v0.0.2-debug", "b", [], 1⟩] "0.0" 3
      ⟨"v0.0.3-debug", "c", [], 2⟩ := by
  let pattern : Pattern := ⟨Pattern.defaultTokens, "debug", by decide, by decide, by decide⟩
  have hopen (c : Char) (hc : c ≠ '-') (name : Text) (hname : name[5]? = some c) :
      IsOpen pattern.tokens name 5 := by
    refine Pattern.isOpen_of_notMem hname fun text ht ↦ ?_
    obtain rfl : text = ['-'] := by simpa [pattern, Pattern.defaultTokens] using ht
    simpa using hc
  have hread : ∀ tag ∈ [Tag.mk "nightly" "a" [] 0], pattern.read tag.name = .ok none := by
    intro tag ht
    obtain rfl := List.mem_singleton.1 ht
    rfl
  have hp : pattern.parts? (Build.stub pattern.variant).name = some ⟨"0.0", ⟨5, "1"⟩⟩ := rfl
  obtain ⟨hname, hfirst⟩ := (bootstrap hread).2 _ hp
  obtain ⟨hmade, hname', -, hsecond⟩ := hfirst (hopen '2' (by decide) _ rfl)
    ⟨"v0.0.2-debug", "b", [], 1⟩ rfl
  exact ⟨pattern, rfl, hread, hname, hmade, hname',
    hsecond (hopen '3' (by decide) _ rfl) ⟨"v0.0.3-debug", "c", [], 2⟩ rfl⟩

/-- Where the pattern finds no number in the name of the stub, and where an optional separator takes
the new digit, the next name is not read with a number. -/
theorem next_not_read :
    (∃ pattern, Pattern.ofTokens (some [.literal "cabinet", .separator "+", .anyBeforeDot,
        .buildVersion, .separator "-", .buildVariantName]) "debug" = .ok pattern ∧
      pattern.parts? (Build.stub pattern.variant).name = none ∧
      nextName pattern [] = .ok "v0.0.2-debug" ∧ pattern.read "v0.0.2-debug" = .ok none) ∧
    ∃ pattern, Pattern.ofTokens (some [.literal "v", .buildVariantName, .optionalSeparator ".0.2-",
        .optionalSeparator ".", .buildVersion, .anyOptionalSymbols]) "0" = .ok pattern ∧
      pattern.parts? (Build.stub pattern.variant).name = some ⟨"0", ⟨5, "1"⟩⟩ ∧
      nextName pattern [] = .ok "v0.0.2-0" ∧ pattern.read "v0.0.2-0" = .ok none := by
  have hnext (pattern : Pattern) :
      nextName pattern [] = (Build.stub pattern.variant).successorName (some pattern.tokens) :=
    nextName_of_latest (latest_of_unmatched (by simp))
  exact ⟨⟨⟨_, "debug", by decide, by decide, by decide⟩, Pattern.ofTokens_eq_ok_iff.2 ⟨rfl, rfl⟩,
      rfl, (hnext _).trans rfl, rfl⟩,
    ⟨_, "0", by decide, by decide, by decide⟩, Pattern.ofTokens_eq_ok_iff.2 ⟨rfl, rfl⟩,
      rfl, (hnext _).trans rfl, rfl⟩

end BuildTags.Train
