import BuildTags.Proofs.Pattern.Choice

namespace BuildTags.Pattern

def Token.prefers : Token → Nat → Nat → Prop
  | .anyBeforeDot, first, second => first < second
  | _, first, second => second < first

theorem Token.prefers_or_eq_or (token : Token) (first second : Nat) :
    token.prefers first second ∨ first = second ∨ token.prefers second first := by
  cases token <;> simp only [Token.prefers] <;> omega

theorem Token.not_prefers_self (token : Token) {length : Nat} : ¬token.prefers length length := by
  cases token <;> exact Nat.lt_irrefl _

/-- Whether the first of two cuts is tried before the second one: the first piece in which they differ
decides. -/
inductive Precedes : List Token → Cut → Cut → Prop
  | here {token : Token} {tokens : List Token} {piece piece' : Piece} {cut cut' : Cut}
      (h : token.prefers piece.text.length piece'.text.length) :
      Precedes (token :: tokens) (piece :: cut) (piece' :: cut')
  | later {token : Token} {tokens : List Token} {piece : Piece} {cut cut' : Cut}
      (h : Precedes tokens cut cut') : Precedes (token :: tokens) (piece :: cut) (piece :: cut')

theorem Precedes.asymm {tokens : List Token} {cut cut' : Cut} (h : Precedes tokens cut cut') :
    ¬Precedes tokens cut' cut := by
  induction h with
  | @here token _ _ _ _ _ h =>
    intro h'
    cases h' with
    | here h' => cases token <;> simp only [Token.prefers] at h h' <;> omega
    | later => exact token.not_prefers_self h
  | @later token _ _ _ _ _ ih =>
    intro h'
    cases h' with
    | here h' => exact token.not_prefers_self h'
    | later h' => exact ih h'

def options (variant : Text) : Token → Text → List (Piece × Text)
  | .literal part, text | .separator part, text =>
    (Text.after? part text).toList.map (Piece.plain part, ·)
  | .optionalSeparator part, text =>
    (Text.after? part text).toList.map (Piece.plain part, ·) ++ [(.plain [], text)]
  | .anyBeforeDot, text => (stretches (· ≠ '.') text).map (Prod.map .plain id)
  | .buildVersion, text => (versionStretches text).reverse.map (Prod.map .version id)
  | .buildVariantName, text =>
    (Text.after? variant text).toList.flatMap fun rest ↦
      (stretches Text.isDigit rest).reverse.map (Prod.map (.variant variant) id)
  | .anyOptionalSymbols, text => (stretches (· ≠ '\n') text).reverse.map (Prod.map .plain id)

section

variable {variant : Text} {tokens : List Token}

def follow (variant : Text) (tokens : List Token) (option : Piece × Text) : Option Cut :=
  (firstCut? variant tokens option.2).map (option.1 :: ·)

theorem findSome?_follow_map (piece : Text → Piece) (found : List Stretch) :
    (found.map (Prod.map piece id)).findSome? (follow variant tokens) =
      (found.findSome? (attempt (firstCut? variant tokens))).map fun (taken, cut) ↦
        piece taken :: cut := by
  rw [List.findSome?_map, List.map_findSome?]
  congr 1
  funext stretch
  simp [follow, attempt, Function.comp_def]

theorem firstCut?_cons (token : Token) (text : Text) :
    firstCut? variant (token :: tokens) text =
      (options variant token text).findSome? (follow variant tokens) := by
  cases token with
  | literal part => cases h : Text.after? part text <;> simp [firstCut?, options, follow, h]
  | separator part => cases h : Text.after? part text <;> simp [firstCut?, options, follow, h]
  | optionalSeparator part =>
    cases h : Text.after? part text with
    | none => simp [firstCut?, options, follow, h]
    | some rest =>
      cases hc : firstCut? variant tokens rest <;> simp [firstCut?, options, follow, h, hc]
  | anyBeforeDot => simp only [firstCut?, options, findSome?_follow_map, takeLeast_eq]
  | buildVersion => simp only [firstCut?, options, findSome?_follow_map, takeVersion_eq]
  | buildVariantName =>
    cases h : Text.after? variant text with
    | none => simp [firstCut?, options, h]
    | some rest =>
      simp only [firstCut?, options, h, Option.bind_eq_bind, Option.bind_some, Option.toList_some,
        List.flatMap_singleton, findSome?_follow_map, takeMost_eq]
  | anyOptionalSymbols => simp only [firstCut?, options, findSome?_follow_map, takeMost_eq]

end

section

variable {variant text rest : Text} {token : Token} {tokens : List Token} {piece : Piece}

theorem mem_options_iff :
    (piece, rest) ∈ options variant token text ↔
      text = piece.text ++ rest ∧ Fits variant token piece := by
  constructor
  · intro h
    cases token with
    | literal part =>
      simp only [options, List.mem_map, Option.mem_toList, Prod.mk.injEq] at h
      obtain ⟨_, ha, rfl, rfl⟩ := h
      exact ⟨Text.eq_append_of_after? ha, .literal part⟩
    | separator part =>
      simp only [options, List.mem_map, Option.mem_toList, Prod.mk.injEq] at h
      obtain ⟨_, ha, rfl, rfl⟩ := h
      exact ⟨Text.eq_append_of_after? ha, .separator part⟩
    | optionalSeparator part =>
      simp only [options, List.mem_append, List.mem_map, Option.mem_toList, List.mem_singleton,
        Prod.mk.injEq] at h
      obtain ⟨_, ha, rfl, rfl⟩ | ⟨rfl, rfl⟩ := h
      · exact ⟨Text.eq_append_of_after? ha, .present part⟩
      · exact ⟨rfl, .absent part⟩
    | anyBeforeDot =>
      simp only [options, List.mem_map, Prod.exists, Prod.map, id, Prod.mk.injEq] at h
      obtain ⟨taken, _, hm, rfl, rfl⟩ := h
      obtain ⟨rfl, ht⟩ := mem_stretches.1 hm
      exact ⟨rfl, .anyBeforeDot fun hd ↦ by simpa using ht _ hd⟩
    | buildVersion =>
      simp only [options, List.mem_map, List.mem_reverse, Prod.exists, Prod.map, id,
        Prod.mk.injEq] at h
      obtain ⟨taken, _, hm, rfl, rfl⟩ := h
      obtain ⟨rfl, ht⟩ := mem_versionStretches.1 hm
      exact ⟨rfl, .buildVersion ht⟩
    | buildVariantName =>
      simp only [options, List.mem_flatMap, Option.mem_toList, List.mem_map, List.mem_reverse,
        Prod.exists, Prod.map, id, Prod.mk.injEq] at h
      obtain ⟨_, ha, taken, _, hm, rfl, rfl⟩ := h
      obtain ⟨rfl, ht⟩ := mem_stretches.1 hm
      exact ⟨by simpa [Piece.text] using Text.eq_append_of_after? ha, .buildVariantName ht⟩
    | anyOptionalSymbols =>
      simp only [options, List.mem_map, List.mem_reverse, Prod.exists, Prod.map, id,
        Prod.mk.injEq] at h
      obtain ⟨taken, _, hm, rfl, rfl⟩ := h
      obtain ⟨rfl, ht⟩ := mem_stretches.1 hm
      exact ⟨rfl, .anyOptionalSymbols fun hd ↦ by simpa using ht _ hd⟩
  · rintro ⟨rfl, h⟩
    cases h with
    | literal part => simp [options, Piece.text, Text.after?_append]
    | separator part => simp [options, Piece.text, Text.after?_append]
    | present part => simp [options, Piece.text, Text.after?_append]
    | absent part => simp [options, Piece.text]
    | anyBeforeDot h =>
      refine List.mem_map.2 ⟨(_, rest), mem_stretches.2 ⟨rfl, fun c hc ↦ ?_⟩, rfl⟩
      exact decide_eq_true fun he ↦ h (he ▸ hc)
    | buildVersion h =>
      exact List.mem_map.2 ⟨(_, rest), List.mem_reverse.2 (mem_versionStretches.2 ⟨rfl, h⟩), rfl⟩
    | buildVariantName h =>
      refine List.mem_flatMap.2 ⟨_, ?_, List.mem_map.2 ⟨(_, rest),
        List.mem_reverse.2 (mem_stretches.2 ⟨rfl, h⟩), rfl⟩⟩
      rw [Option.mem_toList, Piece.text, List.append_assoc]
      exact Text.after?_append _ _
    | anyOptionalSymbols h =>
      refine List.mem_map.2 ⟨(_, rest), List.mem_reverse.2 (mem_stretches.2 ⟨rfl, fun c hc ↦ ?_⟩), rfl⟩
      exact decide_eq_true fun he ↦ h (he ▸ hc)

theorem pairwise_options (variant : Text) (token : Token) (text : Text) :
    (options variant token text).Pairwise fun first second ↦
      ¬token.prefers second.1.text.length first.1.text.length := by
  cases token with
  | literal part => cases h : Text.after? part text <;> simp [options, h]
  | separator part => cases h : Text.after? part text <;> simp [options, h]
  | optionalSeparator part =>
    cases h : Text.after? part text <;> simp [options, h, Token.prefers, Piece.text]
  | anyBeforeDot =>
    refine List.pairwise_map.2 ((rising_stretches _ text).imp fun hl ↦ ?_)
    exact Nat.not_lt_of_gt hl
  | buildVersion =>
    refine List.pairwise_map.2 (List.pairwise_reverse.2 ((rising_versionStretches text).imp fun hl ↦ ?_))
    exact Nat.not_lt_of_gt hl
  | buildVariantName =>
    cases h : Text.after? variant text with
    | none => simp [options, h]
    | some rest =>
      rw [options, h, Option.toList_some, List.flatMap_singleton]
      refine List.pairwise_map.2 (List.pairwise_reverse.2 ((rising_stretches _ rest).imp fun hl ↦ ?_))
      simp only [Token.prefers, Prod.map, Piece.text, List.length_append]
      omega
  | anyOptionalSymbols =>
    refine List.pairwise_map.2 (List.pairwise_reverse.2 ((rising_stretches _ text).imp fun hl ↦ ?_))
    exact Nat.not_lt_of_gt hl

end

section

variable {variant text : Text} {tokens : List Token} {cut : Cut}

theorem Fits.eq_of_text {token : Token} {piece piece' : Piece} (h : Fits variant token piece)
    (h' : Fits variant token piece') (ht : piece.text = piece'.text) : piece = piece' := by
  cases h <;> cases h' <;> simp_all [Piece.text]

theorem isCut_nil_iff : IsCut variant [] text cut ↔ text = [] ∧ cut = [] := by
  constructor
  · rintro ⟨⟩
    exact ⟨rfl, rfl⟩
  · rintro ⟨rfl, rfl⟩
    exact .nil

theorem isCut_cons_iff {token : Token} :
    IsCut variant (token :: tokens) text cut ↔ ∃ piece rest cut', cut = piece :: cut' ∧
      text = piece.text ++ rest ∧ Fits variant token piece ∧ IsCut variant tokens rest cut' := by
  constructor
  · rintro ⟨⟩
    exact ⟨_, _, _, rfl, rfl, ‹_›, ‹_›⟩
  · rintro ⟨piece, rest, cut', rfl, rfl, fits, more⟩
    exact .cons fits more

theorem IsCut.firstCut?_isSome (h : IsCut variant tokens text cut) :
    (firstCut? variant tokens text).isSome := by
  induction h with
  | nil => rfl
  | @cons token piece tokens rest cut fits more ih =>
    rw [firstCut?_cons, List.findSome?_isSome_iff]
    refine ⟨(piece, rest), mem_options_iff.2 ⟨rfl, fits⟩, ?_⟩
    simpa [follow] using ih

/-- A cut that fits, and that is tried before all others that fit. -/
def IsFirst (variant : Text) (tokens : List Token) (text : Text) (cut : Cut) : Prop :=
  IsCut variant tokens text cut ∧
    ∀ other, IsCut variant tokens text other → other = cut ∨ Precedes tokens cut other

theorem IsFirst.not_precedes {other : Cut} (h : IsFirst variant tokens text cut)
    (ho : IsCut variant tokens text other) : ¬Precedes tokens other cut := by
  intro hp
  obtain rfl | hp' := h.2 other ho
  · exact hp.asymm hp
  · exact hp.asymm hp'

theorem IsFirst.eq {cut' : Cut} (h : IsFirst variant tokens text cut)
    (h' : IsFirst variant tokens text cut') : cut = cut' := by
  obtain rfl | hp := h.2 cut' h'.1
  · rfl
  · exact absurd hp (h'.not_precedes h.1)

theorem isFirst_of_firstCut? (h : firstCut? variant tokens text = some cut) :
    IsFirst variant tokens text cut := by
  induction tokens generalizing text cut with
  | nil =>
    simp only [firstCut?, Option.ite_none_right_eq_some, Option.some.injEq] at h
    obtain ⟨rfl, rfl⟩ := h
    exact ⟨.nil, fun other ho ↦ by cases ho; exact .inl rfl⟩
  | cons token tokens ih =>
    rw [firstCut?_cons, List.findSome?_eq_some_iff] at h
    obtain ⟨earlier, ⟨piece, rest⟩, later, hl, hf, hnone⟩ := h
    obtain ⟨cut, hc, rfl⟩ := Option.map_eq_some_iff.1 hf
    obtain ⟨rfl, hfit⟩ := mem_options_iff.1 (hl ▸ List.mem_append_cons_self)
    obtain ⟨hcut, hfirst⟩ := ih hc
    refine ⟨.cons hfit hcut, fun other ho ↦ ?_⟩
    generalize htext : piece.text ++ rest = text at ho hl
    cases ho with
    | @cons _ piece' _ rest' cut' hfit' hcut' =>
      obtain hp | hlen | hp := token.prefers_or_eq_or piece.text.length piece'.text.length
      · exact .inr (.here hp)
      · obtain ⟨ht, rfl⟩ := List.append_inj htext hlen
        obtain rfl := hfit.eq_of_text hfit' ht
        exact (hfirst cut' hcut').imp (congrArg _) .later
      · -- The other piece is preferred, so that it was tried before, and in vain.
        have hm : (piece', rest') ∈ earlier ++ (piece, rest) :: later :=
          hl ▸ mem_options_iff.2 ⟨rfl, hfit'⟩
        have hpair := pairwise_options variant token (piece'.text ++ rest')
        rw [hl] at hpair
        obtain he | he := List.mem_append.1 hm
        · have hn := hnone _ he
          simp only [follow, Option.map_eq_none_iff] at hn
          exact absurd hcut'.firstCut?_isSome (by simp [hn])
        · obtain he | he := List.mem_cons.1 he
          · obtain ⟨rfl, -⟩ := Prod.mk.inj he
            exact absurd hp token.not_prefers_self
          · exact absurd hp ((List.pairwise_cons.1 (List.pairwise_append.1 hpair).2.1).1 _ he)

theorem firstCut?_eq_some_iff :
    firstCut? variant tokens text = some cut ↔ IsFirst variant tokens text cut := by
  refine ⟨isFirst_of_firstCut?, fun h ↦ ?_⟩
  obtain ⟨cut', hc⟩ := Option.isSome_iff_exists.1 h.1.firstCut?_isSome
  rw [hc, (isFirst_of_firstCut? hc).eq h]

theorem firstCut?_isSome_iff :
    (firstCut? variant tokens text).isSome ↔ ∃ cut, IsCut variant tokens text cut := by
  refine ⟨fun h ↦ ?_, fun ⟨_, h⟩ ↦ h.firstCut?_isSome⟩
  obtain ⟨cut, hc⟩ := Option.isSome_iff_exists.1 h
  exact ⟨cut, (isFirst_of_firstCut? hc).1⟩

end

end BuildTags.Pattern
