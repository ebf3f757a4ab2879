import BuildTags.Pattern.Basic
import BuildTags.Proofs.Numeral
import BuildTags.Proofs.Outcome
import BuildTags.Proofs.Pattern.Preference

namespace BuildTags.Pattern

variable {variant name : Text} {tokens : List Token} {cut : Cut} {part : Located} {parts : Parts}

theorem IsCut.exists_of_version? (h : IsCut variant tokens name cut) {position : Nat}
    (hv : Cut.version? position cut = some part) :
    ∃ before after, name = before ++ (part.text ++ after) ∧ part.start = position + before.length ∧
      IsVersion part.text := by
  induction h generalizing position with
  | nil => cases hv
  | @cons token piece tokens rest cut fits more ih =>
    have hlater (hv : Cut.version? (position + piece.text.length) cut = some part) :
        ∃ before after, piece.text ++ rest = before ++ (part.text ++ after) ∧
          part.start = position + before.length ∧ IsVersion part.text := by
      obtain ⟨before, after, rfl, hstart, h⟩ := ih hv
      exact ⟨piece.text ++ before, after, by simp, by simp [hstart, Nat.add_assoc], h⟩
    cases fits with
    | buildVersion h =>
      obtain rfl := Option.some.inj hv
      exact ⟨[], rest, rfl, rfl, h⟩
    | _ => exact hlater hv

theorem IsCut.exists_of_trailing? (h : IsCut variant tokens name cut) {position : Nat}
    (ht : Cut.trailing? position cut = some part) :
    ∃ before after, name = before ++ (part.text ++ after) ∧ part.start = position + before.length ∧
      part.text ≠ [] ∧ ∀ c ∈ part.text, Text.isDigit c = true := by
  induction h generalizing position with
  | nil => cases ht
  | @cons token piece tokens rest cut fits more ih =>
    have hlater (ht : Cut.trailing? (position + piece.text.length) cut = some part) :
        ∃ before after, piece.text ++ rest = before ++ (part.text ++ after) ∧
          part.start = position + before.length ∧
          part.text ≠ [] ∧ ∀ c ∈ part.text, Text.isDigit c = true := by
      obtain ⟨before, after, rfl, hstart, h⟩ := ih ht
      exact ⟨piece.text ++ before, after, by simp, by simp [hstart, Nat.add_assoc], h⟩
    cases fits with
    | buildVariantName h =>
      simp only [Cut.trailing?, Option.ite_none_left_eq_some, Option.some.injEq] at ht
      obtain ⟨hne, rfl⟩ := ht
      exact ⟨variant, rest, List.append_assoc _ _ _, rfl, hne, h⟩
    | _ => exact hlater ht

theorem IsCut.exists_version? (h : IsCut variant tokens name cut) (hm : .buildVersion ∈ tokens)
    (position : Nat) : ∃ part, Cut.version? position cut = some part := by
  induction h generalizing position with
  | nil => cases hm
  | @cons token piece tokens rest cut fits more ih =>
    cases fits with
    | buildVersion => exact ⟨_, rfl⟩
    | _ => exact ih (by simpa using hm) _

/-- The number of a cut is its digits after the variant name or else the last group of its version. -/
theorem cut_parts?_eq_some_iff : cut.parts? = some parts ↔
    ∃ version, Cut.version? 0 cut = some version ∧
      ((Cut.trailing? 0 cut = some parts.number ∧ parts.version = version.text) ∨
        (Cut.trailing? 0 cut = none ∧
          Text.cutLast? "." version.text = some (parts.version, parts.number.text) ∧
          parts.number.start = version.start + parts.version.length + 1)) := by
  obtain ⟨version, start, text⟩ := parts
  simp only [Cut.parts?, Option.bind_eq_bind, Option.bind_eq_some_iff]
  refine exists_congr fun v ↦ and_congr_right fun _ ↦ ?_
  cases Cut.trailing? 0 cut with
  | some digits => simp [eq_comm, and_comm]
  | none =>
    simp only [Option.bind_eq_some_iff, Prod.exists, Option.some.injEq, Parts.mk.injEq,
      Located.mk.injEq, reduceCtorEq, false_and, false_or, true_and]
    constructor
    · rintro ⟨head, last, h, rfl, rfl, rfl⟩
      exact ⟨h, rfl⟩
    · rintro ⟨h, rfl⟩
      exact ⟨_, _, h, rfl, rfl, rfl⟩

theorem IsCut.exists_of_parts? (h : IsCut variant tokens name cut) (hp : cut.parts? = some parts) :
    ∃ before after, name = before ++ (parts.number.text ++ after) ∧
      parts.number.start = before.length ∧
      parts.number.text ≠ [] ∧ ∀ c ∈ parts.number.text, Text.isDigit c = true := by
  obtain ⟨version, hv, ⟨ht, -⟩ | ⟨-, hc, hstart⟩⟩ := cut_parts?_eq_some_iff.1 hp
  · obtain ⟨before, after, hname, hstart, hd⟩ := h.exists_of_trailing? ht
    exact ⟨before, after, hname, hstart.trans (Nat.zero_add _), hd⟩
  · obtain ⟨before, after, rfl, hversion, hv⟩ := h.exists_of_version? hv
    obtain ⟨htext, -, hd⟩ := cutLast?_version hv hc
    refine ⟨before ++ (parts.version ++ ['.']), after, by simp [htext], ?_, hd⟩
    simp [hstart, hversion, Nat.add_assoc]

section

variable {pattern : Pattern}

theorem parts?_eq_some_iff : pattern.parts? name = some parts ↔
    ∃ cut, firstCut? pattern.variant pattern.tokens name = some cut ∧ cut.parts? = some parts :=
  Option.bind_eq_some_iff

theorem exists_of_parts? (h : pattern.parts? name = some parts) :
    ∃ before after, name = before ++ (parts.number.text ++ after) ∧
      parts.number.start = before.length ∧
      parts.number.text ≠ [] ∧ ∀ c ∈ parts.number.text, Text.isDigit c = true := by
  obtain ⟨cut, hc, hp⟩ := parts?_eq_some_iff.1 h
  exact (isFirst_of_firstCut? hc).1.exists_of_parts? hp

theorem numberSpan?_eq (pattern : Pattern) (name : Text) : pattern.numberSpan? name =
    (pattern.parts? name).map fun parts ↦ parts.number.borders := by
  cases hc : pattern.cut? name with
  | none => simp [numberSpan?, parts?, hc]
  | some cut =>
    have hcut : IsCut pattern.variant pattern.tokens name cut := (isFirst_of_firstCut? hc).1
    have hm : .buildVersion ∈ pattern.tokens := List.count_pos_iff.1 (by simp [pattern.one_version])
    obtain ⟨version, hv⟩ := hcut.exists_version? hm 0
    cases ht : Cut.trailing? 0 cut with
    | some digits => simp [numberSpan?, parts?, Cut.parts?, hc, hv, ht]
    | none =>
      obtain ⟨before, after, rfl, hstart, -⟩ := hcut.exists_of_version? hv
      have hborder : version.start = before.length := by omega
      have hdot := Text.lastIndex?_between '.' before version.text after
      have hcutLast : Text.cutLast? "." version.text = Text.cutLast? ['.'] version.text := rfl
      simp only [numberSpan?, parts?, Cut.parts?, hc, hv, ht, Located.borders, Located.stop, hborder,
        hdot, hcutLast,
        Option.bind_eq_bind, Option.bind_some]
      cases hl : Text.cutLast? ['.'] version.text with
      | none => simp
      | some cut =>
        obtain ⟨htext, -⟩ := Text.cutLast?_singleton_eq_some_iff.1 hl
        have hlength := congrArg List.length htext
        simp only [List.length_append, List.length_cons, Option.map_some, Option.bind_some,
          Option.some.injEq, Prod.mk.injEq, true_and] at hlength ⊢
        omega

theorem read_eq (h : pattern.parts? name = some parts) : pattern.read name =
    if Numeral.maxDigits < parts.number.text.length then
      .error (.tooLong parts.number.text.length)
    else .ok (some (parts.version, (Numeral.valueOf parts.number.text : Int))) := by
  obtain ⟨-, -, -, -, hne, hd⟩ := exists_of_parts? h
  rw [read, h]
  simp only [Numeral.read_digits hne hd]
  split <;> rfl

theorem read_eq_ok_some_iff {version : Text} {number : Int} :
    pattern.read name = .ok (some (version, number)) ↔
      ∃ parts, pattern.parts? name = some parts ∧ parts.version = version ∧
        parts.number.text.length ≤ Numeral.maxDigits ∧
        (Numeral.valueOf parts.number.text : Int) = number := by
  cases h : pattern.parts? name with
  | none => simp [read, h]
  | some parts =>
    rw [read_eq h]
    split
    · simp
      omega
    · simp
      omega

theorem eq_tooLong_of_read {fault : Numeral.Fault} (h : pattern.read name = .error fault) :
    ∃ digits, fault = .tooLong digits := by
  cases hp : pattern.parts? name with
  | none => simp [read, hp] at h
  | some parts =>
    rw [read_eq hp] at h
    split at h
    · cases h
      exact ⟨_, rfl⟩
    · cases h

end

end BuildTags.Pattern
