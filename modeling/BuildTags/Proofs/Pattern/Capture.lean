import BuildTags.Proofs.Pattern.Language
import BuildTags.Proofs.Pattern.Number

namespace BuildTags

namespace Regex.Cursor

variable {cursor cursor' cursor'' : Cursor} {text text' passed taken rest : Text} {index : Nat}

structure Between (cursor : Cursor) (passed rest : Text) : Prop where
  before : cursor.before = passed.reverse
  after : cursor.after = rest
  position : cursor.position = passed.length

theorem between_start (text : Text) : (start text).Between [] text := ⟨rfl, rfl, rfl⟩

theorem Between.skip (h : cursor.Between passed (taken ++ rest)) :
    (cursor.skip taken).Between (passed ++ taken) rest := by
  refine ⟨?_, after_skip h.after, ?_⟩
  · rw [Cursor.skip, h.before, List.reverse_append]
  · rw [Cursor.skip, h.position, List.length_append]

theorem Between.openGroup (h : cursor.Between passed rest) (index : Nat) :
    (cursor.openGroup index).Between passed rest := ⟨h.before, h.after, h.position⟩

theorem Between.closeGroup (h : cursor.Between passed rest) (index : Nat) :
    (cursor.closeGroup index).Between passed rest := ⟨h.before, h.after, h.position⟩

theorem Between.text_eq (h : cursor.Between passed rest) : cursor.text = passed ++ rest := by
  rw [text, h.before, h.after, List.reverse_reverse]

theorem Between.group?_eq (h : cursor.Between passed (taken ++ rest)) (index : Nat) :
    (((cursor.openGroup index).skip taken).closeGroup index).group? index =
      some (passed.length, passed.length + taken.length) := by
  simp [group?, border?, Cursor.openGroup, Cursor.skip, Cursor.closeGroup, h.position]

/-- How a cursor changes over a text: it keeps the groups but those from one index to another. -/
structure Moves (first last : Nat) (cursor : Cursor) (text : Text) (cursor' : Cursor) : Prop where
  le : first ≤ last
  between : ∀ passed rest, cursor.Between passed (text ++ rest) → cursor'.Between (passed ++ text) rest
  groups : ∀ index, index < first ∨ last ≤ index → cursor'.group? index = cursor.group? index

variable {first middle last : Nat}

theorem moves_skip (first : Nat) (cursor : Cursor) (text : Text) :
    Moves first first cursor text (cursor.skip text) :=
  ⟨Nat.le_refl _, fun _ _ h ↦ h.skip, fun _ _ ↦ rfl⟩

theorem moves_group (index : Nat) (cursor : Cursor) (text : Text) :
    Moves index (index + 1) cursor text
      (((cursor.openGroup index).skip text).closeGroup index) := by
  refine ⟨Nat.le_succ _, fun _ _ h ↦ (h.openGroup index).skip.closeGroup index, ?_⟩
  intro other ho
  have hne : ¬index = other := by omega
  simp [group?, border?, Cursor.openGroup, Cursor.skip, Cursor.closeGroup, hne]

theorem Moves.trans (h : Moves first middle cursor text cursor')
    (h' : Moves middle last cursor' text' cursor'') :
    Moves first last cursor (text ++ text') cursor'' := by
  have hle := h.le
  have hle' := h'.le
  refine ⟨by omega, ?_, ?_⟩
  · intro passed rest hb
    rw [List.append_assoc] at hb
    rw [← List.append_assoc]
    exact h'.between _ _ (h.between _ _ hb)
  · intro index hi
    rw [h'.groups index (by omega), h.groups index (by omega)]

end Regex.Cursor

namespace Pattern

open Regex

section

variable {variant name label : Text} {token : Token} {tokens : List Token} {piece : Piece} {cut : Cut}
  {cursor : Cursor} {passed rest : Text} {index : Nat}

theorem moves_passPiece (h : Fits variant token piece) (index : Nat) (cursor : Cursor) :
    cursor.Moves index (index + token.groupName?.toList.length) piece.text
      (passPiece index piece cursor) := by
  have hplain (text : Text) := Cursor.moves_skip index cursor text
  cases h with
  | buildVersion => exact Cursor.moves_group index cursor _
  | @buildVariantName digits =>
    rw [passPiece]
    split
    · rename_i hd
      have hname := hplain variant
      rw [Piece.text, hd, List.append_nil]
      refine ⟨Nat.le_succ _, hname.between, ?_⟩
      intro other _
      rfl
    · exact (hplain variant).trans (Cursor.moves_group index _ digits)
  | _ => exact hplain _

theorem exists_moves_passCut (h : IsCut variant tokens name cut) (index : Nat) (cursor : Cursor) :
    ∃ last, cursor.Moves index last name (passCut index cut cursor) := by
  induction h generalizing index cursor with
  | nil => exact ⟨index, Cursor.moves_skip index cursor []⟩
  | cons fits more ih =>
    obtain ⟨last, hmore⟩ := ih _ _
    rw [passCut_cons fits]
    exact ⟨last, (moves_passPiece fits index cursor).trans hmore⟩

theorem exists_mem_of_mem_groupNames {entry : Text × Nat} (h : entry ∈ groupNames index tokens) :
    ∃ token ∈ tokens, token.groupName? = some entry.1 := by
  induction tokens generalizing index with
  | nil => cases h
  | cons token tokens ih =>
    obtain h | h := List.mem_append.1 h
    · obtain ⟨other, ho, hn⟩ := ih h
      exact ⟨other, List.mem_cons_of_mem _ ho, hn⟩
    · obtain ⟨label, hl, rfl⟩ := List.mem_map.1 h
      exact ⟨token, List.mem_cons_self, Option.mem_toList.1 hl⟩

def namedGroup? (names : List (Text × Nat)) (label : Text) (cursor : Cursor) : Option (Nat × Nat) :=
  ((names.find? (·.1 = label)).map (·.2)).bind cursor.group?

theorem namedGroup?_cons_of_ne (h : token.groupName? ≠ some label) :
    namedGroup? (groupNames index (token :: tokens)) label cursor =
      namedGroup? (groupNames (index + token.groupName?.toList.length) tokens) label cursor := by
  have hnone : (token.groupName?.toList.map (·, index)).find? (·.1 = label) = none := by
    apply List.find?_eq_none.2
    intro entry he
    obtain ⟨other, ho, rfl⟩ := List.mem_map.1 he
    rw [Option.mem_toList.1 ho, Ne, Option.some.injEq] at h
    simpa using h
  rw [namedGroup?, groupNames, List.find?_append, hnone, Option.or_none, namedGroup?]

theorem namedGroup?_cons_of_eq (h : token.groupName? = some label) (honce : Once (token :: tokens)) :
    namedGroup? (groupNames index (token :: tokens)) label cursor = cursor.group? index := by
  have hnone : (groupNames (index + token.groupName?.toList.length) tokens).find? (·.1 = label) =
      none := by
    apply List.find?_eq_none.2
    intro entry he
    obtain ⟨other, ho, hn⟩ := exists_mem_of_mem_groupNames he
    have hne := (List.pairwise_cons.1 honce).1 other ho label h
    rw [hn, Ne, Option.some.injEq] at hne
    simpa using hne
  rw [namedGroup?, groupNames, List.find?_append, hnone, h]
  simp

theorem namedGroup?_passCut (h : IsCut variant tokens name cut) (honce : Once tokens)
    (hb : cursor.Between passed (name ++ rest)) (hfree : ∀ i, index ≤ i → cursor.group? i = none) :
    namedGroup? (groupNames index tokens) "version" (passCut index cut cursor) =
        (Cut.version? passed.length cut).map Located.borders ∧
      namedGroup? (groupNames index tokens) "build_number" (passCut index cut cursor) =
        (Cut.trailing? passed.length cut).map Located.borders := by
  induction h generalizing index cursor passed with
  | nil => exact ⟨rfl, rfl⟩
  | @cons token piece tokens rest' cut fits more ih =>
    rw [List.append_assoc] at hb
    have hpiece := moves_passPiece fits index cursor
    have hle := hpiece.le
    have hafter := hpiece.between _ _ hb
    obtain ⟨hversion, hnumber⟩ := ih (List.pairwise_cons.1 honce).2 hafter
      (fun i hi ↦ (hpiece.groups i (.inr hi)).trans (hfree i (by omega)))
    rw [List.length_append] at hversion hnumber
    obtain ⟨last, hmoves⟩ := exists_moves_passCut more (index + token.groupName?.toList.length)
      (passPiece index piece cursor)
    have hkept (hi : index < index + token.groupName?.toList.length) :=
      hmoves.groups index (.inl hi)
    rw [passCut_cons fits]
    cases fits with
    | @buildVersion text =>
      constructor
      · rw [namedGroup?_cons_of_eq rfl honce, hkept (Nat.lt_succ_self _)]
        exact hb.group?_eq index
      · rw [namedGroup?_cons_of_ne (by decide), hnumber]
        rfl
    | @buildVariantName digits =>
      constructor
      · rw [namedGroup?_cons_of_ne (by decide), hversion]
        rfl
      · rw [namedGroup?_cons_of_eq rfl honce, hkept (Nat.lt_succ_self _), passPiece, Cut.trailing?]
        split
        · exact hfree index (Nat.le_refl _)
        · rw [Piece.text, List.append_assoc] at hb
          rw [hb.skip.group?_eq index, List.length_append]
          rfl
    | _ =>
      rw [namedGroup?_cons_of_ne (by rintro ⟨⟩), namedGroup?_cons_of_ne (by rintro ⟨⟩)]
      exact ⟨hversion, hnumber⟩

end

def group? (pattern : Pattern) (label : Text) (cursor : Cursor) : Option (Nat × Nat) :=
  (groupIndex? pattern.expression label).bind cursor.group?

def captured? (pattern : Pattern) (label : Text) (cursor : Cursor) : Option Text :=
  (groupIndex? pattern.expression label).bind cursor.groupText?

variable {pattern : Pattern} {name label : Text} {cut : Cut} {cursor : Cursor} {part : Located}

theorem captured?_eq (pattern : Pattern) (label : Text) (cursor : Cursor) :
    pattern.captured? label cursor =
      (pattern.group? label cursor).map fun (start, stop) ↦
        (cursor.text.drop start).take (stop - start) := by
  rw [captured?, group?]
  cases groupIndex? pattern.expression label <;> rfl

/-- The expression of a pattern takes a name as its first cut does, group by group. -/
theorem exists_fullMatch?_borders (h : pattern.cut? name = some cut) : ∃ cursor,
    (regexOf pattern).fullMatch? name = some cursor ∧ cursor.text = name ∧
      pattern.group? "version" cursor = (Cut.version? 0 cut).map Located.borders ∧
      pattern.group? "build_number" cursor = (Cut.trailing? 0 cut).map Located.borders := by
  have hcut : IsCut pattern.variant pattern.tokens name cut := (isFirst_of_firstCut? h).1
  have honce := once_of_count pattern.one_version.le pattern.one_variant.le
  have hb : (Cursor.start name).Between [] (name ++ []) := by
    rw [List.append_nil]
    exact Cursor.between_start name
  have hfree : ∀ i, 1 ≤ i → (Cursor.start name).group? i = none := fun _ _ ↦ rfl
  have hnamed := namedGroup?_passCut hcut honce hb hfree
  obtain ⟨last, hmoves⟩ := exists_moves_passCut hcut 1 (Cursor.start name)
  refine ⟨passCut 1 cut (.start name), by rw [fullMatch?_regexOf, h, Option.map_some], ?_, ?_⟩
  · rw [(hmoves.between _ _ hb).text_eq, List.append_nil, List.nil_append]
  · rw [group?, group?, groupIndex?_expression, groupIndex?_expression]
    exact hnamed

theorem exists_fullMatch? (h : pattern.cut? name = some cut) : ∃ cursor,
    (regexOf pattern).fullMatch? name = some cursor ∧
      pattern.captured? "version" cursor = (Cut.version? 0 cut).map (·.text) ∧
      pattern.captured? "build_number" cursor = (Cut.trailing? 0 cut).map (·.text) := by
  have hcut : IsCut pattern.variant pattern.tokens name cut := (isFirst_of_firstCut? h).1
  have htext : ∀ part : Located, (∃ before after, name = before ++ (part.text ++ after) ∧
      part.start = before.length) →
      (name.drop part.start).take (part.stop - part.start) = part.text := by
    rintro part ⟨before, after, rfl, hstart⟩
    simp [Located.stop, hstart]
  obtain ⟨cursor, hmatch, hname, hversion, hnumber⟩ := exists_fullMatch?_borders h
  refine ⟨cursor, hmatch, ?_, ?_⟩
  · rw [captured?_eq, hname, hversion, Option.map_map]
    apply Option.map_congr
    intro part hp
    obtain ⟨before, after, hb, hs, -⟩ := hcut.exists_of_version? hp
    exact htext part ⟨before, after, hb, hs.trans (Nat.zero_add _)⟩
  · rw [captured?_eq, hname, hnumber, Option.map_map]
    apply Option.map_congr
    intro part hp
    obtain ⟨before, after, hb, hs, -⟩ := hcut.exists_of_trailing? hp
    exact htext part ⟨before, after, hb, hs.trans (Nat.zero_add _)⟩

end Pattern

end BuildTags
