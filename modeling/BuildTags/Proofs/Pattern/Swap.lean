import BuildTags.Proofs.Pattern.Preference

namespace BuildTags.Pattern

section

variable {c : Char} {start rest digits : Text}

/-- From one of its digits on a version is a version, and any other one may stand in its place. -/
theorem IsVersion.split (h : IsVersion (start ++ c :: rest)) (hc : Text.isDigit c = true) :
    IsVersion (c :: rest) ∧ ∀ version, IsVersion version → IsVersion (start ++ version) := by
  generalize htext : start ++ c :: rest = text at h
  induction h generalizing start with
  | @digit d hd =>
    cases start with
    | nil =>
      rw [List.nil_append] at htext
      exact ⟨htext ▸ .digit hd, fun _ hv ↦ hv⟩
    | cons e start => simp at htext
  | @more d text hd hm ih =>
    cases start with
    | nil =>
      rw [List.nil_append] at htext
      exact ⟨htext ▸ .more hd hm, fun _ hv ↦ hv⟩
    | cons e start =>
      obtain ⟨rfl, ht⟩ := List.cons.inj htext
      obtain ⟨hrest, hstart⟩ := ih ht
      exact ⟨hrest, fun version hv ↦ .more hd (hstart version hv)⟩
  | @group d text hd hm ih =>
    match start with
    | [] =>
      rw [List.nil_append] at htext
      exact ⟨htext ▸ .group hd hm, fun _ hv ↦ hv⟩
    | [e] =>
      obtain ⟨-, ht⟩ := List.cons.inj htext
      obtain ⟨rfl, -⟩ := List.cons.inj ht
      rw [isDigit_dot] at hc
      cases hc
    | e :: f :: start =>
      obtain ⟨rfl, ht⟩ := List.cons.inj htext
      obtain ⟨rfl, ht'⟩ := List.cons.inj ht
      obtain ⟨hrest, hstart⟩ := ih ht'
      exact ⟨hrest, fun version hv ↦ .group hd (hstart version hv)⟩

theorem continues_digits_append (hd : ∀ c ∈ digits, Text.isDigit c = true) (h : Continues rest) :
    Continues (digits ++ rest) := by
  induction digits with
  | nil => exact h
  | cons c digits ih =>
    obtain ⟨hc, hd⟩ := List.forall_mem_cons.1 hd
    exact .inr (.inl (isVersion_cons_iff.2 ⟨hc, ih hd⟩))

theorem IsVersion.replace (h : IsVersion (start ++ c :: rest)) (hc : Text.isDigit c = true)
    (hne : digits ≠ []) (hd : ∀ c ∈ digits, Text.isDigit c = true) :
    IsVersion (start ++ (digits ++ rest)) := by
  obtain ⟨hrest, hstart⟩ := h.split hc
  refine hstart _ ?_
  cases digits with
  | nil => exact absurd rfl hne
  | cons e digits =>
    obtain ⟨he, hd⟩ := List.forall_mem_cons.1 hd
    exact isVersion_cons_iff.2 ⟨he, continues_digits_append hd (isVersion_cons_iff.1 hrest).2⟩

end

/-- A cut of a name and the cut that comes of it when digits take the place of one character. -/
inductive Swaps (variant : Text) (c : Char) (digits : Text) :
    List Token → (before after : Text) → Cut → Cut → Prop
  | here {token : Token} {tokens : List Token} {before after more rest : Text} {piece piece' : Piece}
      {cut : Cut} (fits : Fits variant token piece) (fits' : Fits variant token piece')
      (text : piece.text = before ++ c :: more) (text' : piece'.text = before ++ (digits ++ more))
      (hafter : after = more ++ rest) (hcut : IsCut variant tokens rest cut) :
      Swaps variant c digits (token :: tokens) before after (piece :: cut) (piece' :: cut)
  | later {token : Token} {tokens : List Token} {before before' after : Text} {piece : Piece}
      {cut cut' : Cut} (fits : Fits variant token piece) (hbefore : before = piece.text ++ before')
      (more : Swaps variant c digits tokens before' after cut cut') :
      Swaps variant c digits (token :: tokens) before after (piece :: cut) (piece :: cut')

section

variable {variant before after digits : Text} {c : Char} {tokens : List Token} {cut cut' : Cut}

theorem Swaps.isCut (h : Swaps variant c digits tokens before after cut cut') :
    IsCut variant tokens (before ++ c :: after) cut := by
  induction h with
  | here fits fits' text text' hafter hcut =>
    have he := IsCut.cons fits hcut
    rw [text] at he
    simpa [hafter] using he
  | later fits hbefore more ih =>
    rw [hbefore, List.append_assoc]
    exact .cons fits ih

theorem Swaps.isCut' (h : Swaps variant c digits tokens before after cut cut') :
    IsCut variant tokens (before ++ (digits ++ after)) cut' := by
  induction h with
  | here fits fits' text text' hafter hcut =>
    have he := IsCut.cons fits' hcut
    rw [text'] at he
    simpa [hafter] using he
  | later fits hbefore more ih =>
    rw [hbefore, List.append_assoc]
    exact .cons fits ih

theorem Swaps.head {token : Token} {piece piece' : Piece}
    (h : Swaps variant c digits (token :: tokens) before after (piece :: cut) (piece' :: cut')) :
    piece.text.length ≤ before.length ∧ piece' = piece ∨
      before.length < piece.text.length ∧
        piece'.text.length + 1 = piece.text.length + digits.length := by
  cases h with
  | here fits fits' text text' hafter hcut =>
    have hl := congrArg List.length text
    have hl' := congrArg List.length text'
    simp only [List.length_append, List.length_cons] at hl hl'
    exact .inr ⟨by omega, by omega⟩
  | later fits hbefore more =>
    have hl := congrArg List.length hbefore
    rw [List.length_append] at hl
    exact .inl ⟨by omega, rfl⟩

theorem Swaps.tail {token : Token} {piece piece₁ piece₂ : Piece} {cut₁ cut₁' cut₂ cut₂' : Cut}
    (h : Swaps variant c digits (token :: tokens) before after (piece :: cut₁) (piece₁ :: cut₁'))
    (h' : Swaps variant c digits (token :: tokens) before after (piece :: cut₂) (piece₂ :: cut₂')) :
    piece₁ = piece₂ ∧ (cut₁' = cut₁ ∧ cut₂' = cut₂ ∨
      ∃ before', Swaps variant c digits tokens before' after cut₁ cut₁' ∧
        Swaps variant c digits tokens before' after cut₂ cut₂') := by
  cases h with
  | here fits fits' text text' hafter hcut =>
    cases h' with
    | here ofits ofits' otext otext' _ _ =>
      have hmore := List.append_cancel_left (otext.symm.trans text)
      obtain ⟨-, rfl⟩ := List.cons.inj hmore
      exact ⟨fits'.eq_of_text ofits' (text'.trans otext'.symm), .inl ⟨rfl, rfl⟩⟩
    | later _ hbefore _ =>
      have hl := congrArg List.length text
      have hb := congrArg List.length hbefore
      simp only [List.length_append, List.length_cons] at hl hb
      omega
  | later _ hbefore more =>
    cases h' with
    | here _ _ text _ _ _ =>
      have hl := congrArg List.length text
      have hb := congrArg List.length hbefore
      simp only [List.length_append, List.length_cons] at hl hb
      omega
    | later _ hbefore' more' =>
      obtain rfl := List.append_cancel_left (hbefore.symm.trans hbefore')
      exact ⟨rfl, .inr ⟨_, more, more'⟩⟩

theorem Swaps.exists_cons {token : Token} {piece : Piece} {cut' : Cut}
    (h : Swaps variant c digits (token :: tokens) before after (piece :: cut) cut') :
    ∃ piece' rest, cut' = piece' :: rest := by
  cases h <;> exact ⟨_, _, rfl⟩

/-- Of two cuts with the character the preferred one is still preferred with the digits. -/
theorem Swaps.precedes {other other' : Cut} (h : Swaps variant c digits tokens before after cut cut')
    (ho : Swaps variant c digits tokens before after other other') (hne : digits ≠ [])
    (hp : Precedes tokens other cut) : Precedes tokens other' cut' := by
  have hpos := List.length_pos_iff.2 hne
  induction hp generalizing before cut' other' with
  | @here token tokens piece piece₂ cut cut₂ hpref =>
    obtain ⟨piece', rest, rfl⟩ := h.exists_cons
    obtain ⟨piece₂', rest₂, rfl⟩ := ho.exists_cons
    refine .here ?_
    obtain ⟨hl, rfl⟩ | ⟨hl, hl'⟩ := h.head <;> obtain ⟨hol, rfl⟩ | ⟨hol, hol'⟩ := ho.head <;>
      cases token <;> simp only [Token.prefers] at hpref ⊢ <;> omega
  | @later token tokens piece cut cut₂ hpref ih =>
    obtain ⟨piece', rest, rfl⟩ := h.exists_cons
    obtain ⟨piece₂', rest₂, rfl⟩ := ho.exists_cons
    obtain ⟨rfl, ⟨rfl, rfl⟩ | ⟨before', hmore, hmore'⟩⟩ := h.tail ho
    · exact .later hpref
    · exact .later (ih hmore hmore')

theorem IsCut.swaps {token : Token} {tokens₁ tokens₂ : List Token} {name₁ name₂ more : Text}
    {piece piece' : Piece} {cut₁ cut₂ : Cut} (h₁ : IsCut variant tokens₁ name₁ cut₁)
    (h₂ : IsCut variant tokens₂ name₂ cut₂) (fits : Fits variant token piece)
    (fits' : Fits variant token piece') (text : piece.text = before ++ c :: more)
    (text' : piece'.text = before ++ (digits ++ more)) :
    Swaps variant c digits (tokens₁ ++ token :: tokens₂) (name₁ ++ before) (more ++ name₂)
      (cut₁ ++ piece :: cut₂) (cut₁ ++ piece' :: cut₂) := by
  induction h₁ with
  | nil => exact .here fits fits' text text' rfl h₂
  | cons fits₁ _ ih => exact .later fits₁ (List.append_assoc _ _ _) ih

def Token.fixed (variant : Text) : Token → Text
  | .literal text | .separator text | .optionalSeparator text => text
  | .buildVariantName => variant
  | _ => []

/-- Whether the character between two texts stands, in a cut, in the part of a piece that cannot be
otherwise. -/
def IsRigid (variant : Text) (c : Char) (tokens : List Token) (before after : Text) (cut : Cut)
    (token : Token) : Prop :=
  ∃ tokens₁ tokens₂ cut₁ cut₂ name start rest more, tokens = tokens₁ ++ token :: tokens₂ ∧
    cut = cut₁ ++ cut₂ ∧ IsCut variant tokens₁ name cut₁ ∧ before = name ++ start ∧
    token.fixed variant = start ++ c :: rest ∧ after = rest ++ more

theorem IsRigid.here {token : Token} {rest more : Text}
    (h : token.fixed variant = before ++ c :: rest) (hafter : after = rest ++ more) :
    IsRigid variant c (token :: tokens) before after cut token :=
  ⟨[], tokens, [], cut, [], before, rest, more, rfl, rfl, .nil, rfl, h, hafter⟩

theorem IsRigid.later {token token' : Token} {piece : Piece} (fits : Fits variant token' piece)
    (h : IsRigid variant c tokens before after cut token) :
    IsRigid variant c (token' :: tokens) (piece.text ++ before) after (piece :: cut) token := by
  obtain ⟨tokens₁, tokens₂, cut₁, cut₂, name, start, rest, more, rfl, rfl, hcut, rfl, he⟩ := h
  exact ⟨token' :: tokens₁, tokens₂, piece :: cut₁, cut₂, piece.text ++ name, start, rest, more, rfl,
    rfl, .cons fits hcut, (List.append_assoc _ _ _).symm, he⟩

/-- Digits may take the place of a digit in a piece unless it is in the part that cannot be
otherwise. -/
theorem Fits.exists_replace {token : Token} {piece : Piece} {more : Text}
    (fits : Fits variant token piece) (hc : Text.isDigit c = true) (hne : digits ≠ [])
    (hd : ∀ c ∈ digits, Text.isDigit c = true) (text : piece.text = before ++ c :: more) :
    (∃ piece', Fits variant token piece' ∧ piece'.text = before ++ (digits ++ more)) ∨
      ∃ rest end', token.fixed variant = before ++ c :: rest ∧ more = rest ++ end' := by
  cases fits with
  | literal part => exact .inr ⟨more, [], text, (List.append_nil _).symm⟩
  | separator part => exact .inr ⟨more, [], text, (List.append_nil _).symm⟩
  | present part => exact .inr ⟨more, [], text, (List.append_nil _).symm⟩
  | absent part => simp [Piece.text] at text
  | anyBeforeDot h =>
    obtain rfl : _ = before ++ c :: more := text
    refine .inl ⟨.plain (before ++ (digits ++ more)), .anyBeforeDot fun hm ↦ ?_, rfl⟩
    simp only [List.mem_append, List.mem_cons, not_or] at h hm
    exact hm.elim h.1 fun hm ↦ hm.elim (notMem_of_isDigit hd (by decide)) h.2.2
  | buildVersion h =>
    obtain rfl : _ = before ++ c :: more := text
    exact .inl ⟨.version (before ++ (digits ++ more)), .buildVersion (h.replace hc hne hd), rfl⟩
  | @buildVariantName trailing h =>
    have htrailing (start : Text) (hb : before = variant ++ start)
        (ht : trailing = start ++ c :: more) :
        ∃ piece', Fits variant .buildVariantName piece' ∧ piece'.text = before ++ (digits ++ more) := by
      refine ⟨.variant variant (start ++ (digits ++ more)), .buildVariantName fun d hm ↦ ?_, by
        simp [Piece.text, hb]⟩
      simp only [ht, List.mem_append, List.mem_cons] at h hm
      obtain hm | hm | hm := hm
      · exact h d (.inl hm)
      · exact hd d hm
      · exact h d (.inr (.inr hm))
    obtain ⟨start, hb, ht⟩ | ⟨rest, hv, ht⟩ := List.append_eq_append_iff.1 text
    · exact .inl (htrailing start hb ht)
    · cases rest with
      | nil => exact .inl (htrailing [] (by simp [hv]) ht.symm)
      | cons d rest =>
        obtain ⟨rfl, hmore⟩ := List.cons.inj ht
        exact .inr ⟨rest, trailing, hv, hmore⟩
  | anyOptionalSymbols h =>
    obtain rfl : _ = before ++ c :: more := text
    refine .inl ⟨.plain (before ++ (digits ++ more)), .anyOptionalSymbols fun hm ↦ ?_, rfl⟩
    simp only [List.mem_append, List.mem_cons, not_or] at h hm
    exact hm.elim h.1 fun hm ↦ hm.elim (notMem_of_isDigit hd (by decide)) h.2.2

theorem exists_swaps_or_isRigid (hc : Text.isDigit c = true) (hne : digits ≠ [])
    (hd : ∀ c ∈ digits, Text.isDigit c = true)
    (h : IsCut variant tokens (before ++ c :: after) cut) :
    (∃ cut', Swaps variant c digits tokens before after cut cut') ∨
      ∃ token, IsRigid variant c tokens before after cut token := by
  generalize hname : before ++ c :: after = name at h
  induction h generalizing before with
  | nil => simp at hname
  | @cons token piece tokens rest cut fits hmore ih =>
    have hlater (before' : Text) (hr : rest = before' ++ c :: after) :
        (∃ cut', Swaps variant c digits (token :: tokens) (piece.text ++ before') after
          (piece :: cut) cut') ∨
        ∃ token', IsRigid variant c (token :: tokens) (piece.text ++ before') after (piece :: cut)
          token' := by
      obtain ⟨cut', hs⟩ | ⟨token', hr⟩ := ih hr.symm
      · exact .inl ⟨_, .later fits rfl hs⟩
      · exact .inr ⟨token', hr.later fits⟩
    obtain ⟨before', rfl, hr⟩ | ⟨more, text, hr⟩ := List.append_eq_append_iff.1 hname.symm
    · exact hlater before' hr
    · cases more with
      | nil =>
        have hb := hlater [] hr.symm
        rwa [List.append_nil, show piece.text = before by simpa using text] at hb
      | cons d more =>
        obtain ⟨rfl, hafter⟩ := List.cons.inj hr
        obtain ⟨piece', fits', text'⟩ | ⟨more', end', hfixed, rfl⟩ := fits.exists_replace hc hne hd text
        · exact .inl ⟨_, .here fits fits' text text' hafter hmore⟩
        · exact .inr ⟨token, .here hfixed (hafter.trans (List.append_assoc _ _ _))⟩

/-- If the cut with the digits is the first one, so is the cut with the character, unless a cut before
it holds the character where it cannot be otherwise. -/
theorem Swaps.isFirst (h : Swaps variant c digits tokens before after cut cut')
    (hfirst : IsFirst variant tokens (before ++ (digits ++ after)) cut')
    (hc : Text.isDigit c = true) (hne : digits ≠ []) (hd : ∀ c ∈ digits, Text.isDigit c = true)
    (hrigid : ∀ other token, Precedes tokens other cut →
      ¬IsRigid variant c tokens before after other token) :
    IsFirst variant tokens (before ++ c :: after) cut := by
  obtain ⟨other, ho⟩ := Option.isSome_iff_exists.1 h.isCut.firstCut?_isSome
  have hother := isFirst_of_firstCut? ho
  obtain rfl | hp := hother.2 cut h.isCut
  · exact hother
  · obtain ⟨other', hs⟩ | ⟨token, hr⟩ := exists_swaps_or_isRigid hc hne hd hother.1
    · have hp' := h.precedes hs hne hp
      exact absurd hp' (hfirst.not_precedes hs.isCut')
    · exact absurd hr (hrigid other token hp)

end

end BuildTags.Pattern
