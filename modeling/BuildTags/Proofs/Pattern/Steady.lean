import BuildTags.Proofs.Pattern.Default
import BuildTags.Proofs.Pattern.HasNumber

namespace BuildTags.Pattern

/-- The position where the piece of a token begins, in a cut whose first piece stands at a position. -/
def Cut.startOf? (token : Token) : (position : Nat) → List Token → Cut → Option Nat
  | position, other :: tokens, piece :: cut =>
    if other = token then some position
    else Cut.startOf? token (position + piece.text.length) tokens cut
  | _, _, _ => none

variable {variant name name₁ name₂ name₂' text text' digits digits' : Text} {token : Token}
  {tokens tokens₁ tokens₂ : List Token} {piece piece' : Piece} {cut cut₁ cut₂ cut₂' first : Cut}

theorem IsCut.startOf?_append (h : IsCut variant tokens₁ name₁ cut₁) (hn : token ∉ tokens₁)
    (position : Nat) : Cut.startOf? token position (tokens₁ ++ tokens₂) (cut₁ ++ cut₂) =
      Cut.startOf? token (position + name₁.length) tokens₂ cut₂ := by
  induction h generalizing position with
  | nil => rfl
  | cons fits more ih =>
    rw [List.mem_cons, not_or] at hn
    rw [List.length_append, ← Nat.add_assoc, ← ih hn.2]
    exact if_neg (Ne.symm hn.1)

theorem IsCut.version_unique (h : IsCut variant tokens name cut)
    (hc : tokens.count .buildVersion ≤ 1) (hm : .version text ∈ cut) (hm' : .version text' ∈ cut) :
    text = text' := by
  have he := (h.version?_of_mem hc hm 0).symm.trans (h.version?_of_mem hc hm' 0)
  exact Option.some.inj he

theorem IsCut.digits_unique (h : IsCut variant tokens name cut)
    (hc : tokens.count .buildVariantName ≤ 1) (hm : .variant variant digits ∈ cut)
    (hm' : .variant variant digits' ∈ cut) : digits = digits' := by
  have he := (h.trailing?_of_mem hc hm 0).symm.trans (h.trailing?_of_mem hc hm' 0)
  split at he <;> split at he <;> simp_all

theorem IsFirst.text_prefix
    (hf : IsFirst variant (tokens₁ ++ token :: tokens₂) name (cut₁ ++ piece :: cut₂))
    (h₁ : IsCut variant tokens₁ name₁ cut₁) (hname : name = name₁ ++ (piece.text ++ name₂))
    (hname' : name = name₁ ++ (piece'.text ++ name₂')) (fits : Fits variant token piece')
    (h₂ : IsCut variant tokens₂ name₂' cut₂') (hmost : token ≠ .anyBeforeDot) :
    piece'.text <+: piece.text := by
  have hle : piece'.text.length ≤ piece.text.length := by
    have hpref := hf.not_prefers h₁ hname' fits h₂
    cases token <;> first | exact absurd rfl hmost | exact Nat.le_of_not_lt hpref
  have hsame : piece.text ++ name₂ = piece'.text ++ name₂' :=
    List.append_cancel_left (hname.symm.trans hname')
  apply List.prefix_of_prefix_length_le ⟨name₂', hsame.symm⟩ _ hle
  exact List.prefix_append _ _

theorem IsFirst.exists_prefix (hf : IsFirst variant tokens name first)
    (hc : IsCut variant tokens name cut) (hm : token ∈ tokens) (hmost : token ≠ .anyBeforeDot)
    (hs : Cut.startOf? token 0 tokens first = Cut.startOf? token 0 tokens cut) :
    ∃ piece ∈ first, ∃ piece' ∈ cut, Fits variant token piece ∧ Fits variant token piece' ∧
      piece'.text <+: piece.text := by
  obtain ⟨tokens₁, tokens₂, rfl, hn⟩ := List.eq_append_cons_of_mem hm
  obtain ⟨name₁, name₂, cut₁, piece, cut₂, hname, rfl, h₁, fits, -⟩ := hf.1.exists_split
  obtain ⟨name₁', name₂', cut₁', piece', cut₂', hname', rfl, h₁', fits', h₂'⟩ := hc.exists_split
  rw [h₁.startOf?_append hn, h₁'.startOf?_append hn, Cut.startOf?, Cut.startOf?, if_pos rfl,
    if_pos rfl, Option.some.injEq] at hs
  have hlen : name₁.length = name₁'.length := by omega
  obtain ⟨rfl, -⟩ := List.append_inj (hname.symm.trans hname') hlen
  refine ⟨piece, List.mem_append_cons_self, piece', List.mem_append_cons_self, fits, fits', ?_⟩
  exact hf.text_prefix h₁ hname hname' fits' h₂' hmost

theorem prefix_of_variant_prefix
    (h : (Piece.variant variant digits').text <+: (Piece.variant variant digits).text) :
    digits' <+: digits :=
  (List.prefix_append_right_inj variant).1 h

/-- The first cut has a number if it begins a piece where another cut has one with a number. -/
theorem IsFirst.hasNumber (hf : IsFirst variant tokens name first)
    (hv : tokens.count .buildVersion = 1) (hn : tokens.count .buildVariantName = 1)
    (hc : IsCut variant tokens name cut) (hm : piece ∈ cut) (hfits : Fits variant token piece)
    (hnumber : piece.HasNumber)
    (hs : Cut.startOf? token 0 tokens first = Cut.startOf? token 0 tokens cut) :
    first.HasNumber := by
  cases hfits with
  | @buildVersion text =>
    have ht : .buildVersion ∈ tokens := List.count_pos_iff.1 (by omega)
    obtain ⟨_, hp, _, hp', fits, fits', hprefix⟩ := hf.exists_prefix hc ht nofun hs
    cases fits
    cases fits'
    obtain rfl := hc.version_unique (Nat.le_of_eq hv) hm hp'
    exact ⟨_, hp, hprefix.subset hnumber⟩
  | @buildVariantName digits =>
    have ht : .buildVariantName ∈ tokens := List.count_pos_iff.1 (by omega)
    obtain ⟨_, hp, _, hp', fits, fits', hprefix⟩ := hf.exists_prefix hc ht nofun hs
    cases fits
    cases fits'
    obtain rfl := hc.digits_unique (Nat.le_of_eq hn) hm hp'
    refine ⟨_, hp, ?_⟩
    intro hnil
    have hdigits := prefix_of_variant_prefix hprefix
    rw [hnil] at hdigits
    exact hnumber (List.prefix_nil.1 hdigits)
  | _ => cases hnumber

inductive IsFixed : List Token → Text → Prop
  | nil : IsFixed [] []
  | literal (text : Text) {tokens : List Token} {rest : Text} (h : IsFixed tokens rest) :
      IsFixed (.literal text :: tokens) (text ++ rest)
  | separator (text : Text) {tokens : List Token} {rest : Text} (h : IsFixed tokens rest) :
      IsFixed (.separator text :: tokens) (text ++ rest)

theorem IsFixed.eq (h : IsFixed tokens text) (hc : IsCut variant tokens name cut) : name = text := by
  induction h generalizing name cut with
  | nil => exact (isCut_nil_iff.1 hc).1
  | literal text h ih =>
    obtain ⟨_, _, _, rfl, rfl, fits, hrest⟩ := isCut_cons_iff.1 hc
    cases fits
    rw [ih hrest, Piece.text]
  | separator text h ih =>
    obtain ⟨_, _, _, rfl, rfl, fits, hrest⟩ := isCut_cons_iff.1 hc
    cases fits
    rw [ih hrest, Piece.text]

theorem IsFixed.notMem (h : IsFixed tokens text) (ht : token = .buildVersion ∨ token = .buildVariantName) :
    token ∉ tokens := by
  induction h with
  | nil => exact List.not_mem_nil
  | _ => obtain rfl | rfl := ht <;> simp_all

/-- Tokens that leave no choice where the version and the variant name begin: only fixed texts stand
before them and, after the version, no digit that could be one of its own. -/
inductive IsSteady (variant : Text) : List Token → Prop
  | versionFirst {before between after : List Token} {start middle : Text} (hb : IsFixed before start)
      (hm : IsFixed between middle) (hd : BeginsNoDigit (middle ++ variant)) :
      IsSteady variant (before ++ .buildVersion :: (between ++ .buildVariantName :: after))
  | variantFirst {before between after : List Token} {start middle : Text} (hb : IsFixed before start)
      (hm : IsFixed between middle) :
      IsSteady variant (before ++ .buildVariantName :: (between ++ .buildVersion :: after))

theorem mem_dot_of_longer {rest more : Text} {c : Char} (hv : IsVersion (text ++ c :: more))
    (hd : BeginsNoDigit text') (hne : text' ≠ []) (he : c :: more ++ name = text' ++ rest) :
    '.' ∈ text ++ c :: more := by
  obtain ⟨d, tail, rfl⟩ := List.exists_cons_of_ne_nil hne
  obtain ⟨rfl, -⟩ := List.cons.inj he
  have hm : c ∈ text ++ c :: more := List.mem_append_cons_self
  obtain hdigit | rfl := hv.isDigit_or_eq hm
  · rw [hd c tail rfl] at hdigit
    cases hdigit
  · exact hm

section

variable {token token' : Token} {before between after : List Token} {start middle : Text}

theorem IsFixed.exists_split (hb : IsFixed before start) (hm : IsFixed between middle)
    (hc : IsCut variant (before ++ token :: (between ++ token' :: after)) name cut) :
    ∃ cut₁ piece cut₂ piece' cut₃ rest,
      name = start ++ (piece.text ++ (middle ++ (piece'.text ++ rest))) ∧
      cut = cut₁ ++ piece :: (cut₂ ++ piece' :: cut₃) ∧
      IsCut variant before start cut₁ ∧ Fits variant token piece ∧
      IsCut variant between middle cut₂ ∧ Fits variant token' piece' ∧
      IsCut variant after rest cut₃ := by
  obtain ⟨_, _, cut₁, piece, _, rfl, rfl, h₁, fits, hrest⟩ := hc.exists_split
  obtain ⟨_, rest, cut₂, piece', cut₃, rfl, rfl, h₂, fits', h₃⟩ := hrest.exists_split
  obtain rfl := hb.eq h₁
  obtain rfl := hm.eq h₂
  exact ⟨cut₁, piece, cut₂, piece', cut₃, rest, rfl, rfl, h₁, fits, h₂, fits', h₃⟩

theorem startOf?_two {cut₁ cut₂ cut₃ : Cut} (h₁ : IsCut variant before start cut₁)
    (h₂ : IsCut variant between middle cut₂) (hb : token ∉ before) (hb' : token' ∉ before)
    (hm : token' ∉ between) (hne : token ≠ token') :
    Cut.startOf? token 0 (before ++ token :: (between ++ token' :: after))
        (cut₁ ++ piece :: (cut₂ ++ piece' :: cut₃)) = some (0 + start.length) ∧
      Cut.startOf? token' 0 (before ++ token :: (between ++ token' :: after))
        (cut₁ ++ piece :: (cut₂ ++ piece' :: cut₃)) =
          some (0 + start.length + piece.text.length + middle.length) := by
  constructor
  · rw [h₁.startOf?_append hb, Cut.startOf?, if_pos rfl]
  · rw [h₁.startOf?_append hb', Cut.startOf?, if_neg hne, h₂.startOf?_append hm, Cut.startOf?,
      if_pos rfl]

end

/-- The first cut of steady tokens has a number, or begins the version and the variant name where any
other cut does. -/
theorem IsSteady.hasNumber_or_startOf?_eq (h : IsSteady variant tokens) (hne : variant ≠ [])
    (hf : IsFirst variant tokens name first) (hc : IsCut variant tokens name cut) :
    first.HasNumber ∨ ∀ token, token = .buildVersion ∨ token = .buildVariantName →
      Cut.startOf? token 0 tokens first = Cut.startOf? token 0 tokens cut := by
  cases h with
  | versionFirst hb hm hd =>
    obtain ⟨cut₁, _, cut₂, _, _, _, hname, rfl, h₁, fits, h₂, -, -⟩ := hb.exists_split hm hf.1
    obtain ⟨cut₁', _, cut₂', _, _, _, hname', rfl, h₁', fits', h₂', fitsVariant, h₃'⟩ :=
      hb.exists_split hm hc
    have hprefix := hf.text_prefix h₁ hname hname' fits' (h₂'.append (.cons fitsVariant h₃')) (by decide)
    cases fits with | @buildVersion version hversion => ?_
    cases fits' with | @buildVersion version' => ?_
    obtain ⟨more, hmore⟩ := hprefix
    obtain rfl : version' ++ more = version := hmore
    cases more with
    | nil =>
      have hv := hb.notMem (.inl rfl)
      have hn := hb.notMem (.inr rfl)
      have hn' := hm.notMem (.inr rfl)
      right
      rintro token (rfl | rfl)
      · rw [(startOf?_two h₁ h₂ hv hn hn' (by decide)).1, (startOf?_two h₁' h₂' hv hn hn' (by decide)).1]
      · rw [(startOf?_two h₁ h₂ hv hn hn' (by decide)).2, (startOf?_two h₁' h₂' hv hn hn' (by decide)).2,
          List.append_nil]
    | cons c more =>
      -- The longer version goes on where the other cut has the text before the variant name.
      cases fitsVariant with | @buildVariantName digits => ?_
      have he := List.append_cancel_left (hname.symm.trans hname')
      simp only [Piece.text, List.append_assoc] at he
      have hfollows := List.append_cancel_left he
      rw [← List.append_assoc _ variant] at hfollows
      have hdot := mem_dot_of_longer hversion hd (by simp [hne]) hfollows
      exact .inl ⟨_, List.mem_append_cons_self, hdot⟩
  | variantFirst hb hm =>
    obtain ⟨cut₁, _, cut₂, _, _, _, hname, rfl, h₁, fits, h₂, -, -⟩ := hb.exists_split hm hf.1
    obtain ⟨cut₁', _, cut₂', _, _, _, hname', rfl, h₁', fits', h₂', fitsVersion, h₃'⟩ :=
      hb.exists_split hm hc
    have hprefix := hf.text_prefix h₁ hname hname' fits' (h₂'.append (.cons fitsVersion h₃')) (by decide)
    cases fits with | @buildVariantName digits => ?_
    cases fits' with | @buildVariantName digits' => ?_
    by_cases hdigits : digits = []
    · have hnone := prefix_of_variant_prefix hprefix
      rw [hdigits, List.prefix_nil] at hnone
      have hv := hb.notMem (.inl rfl)
      have hn := hb.notMem (.inr rfl)
      have hv' := hm.notMem (.inl rfl)
      subst hdigits hnone
      right
      rintro token (rfl | rfl)
      · rw [(startOf?_two h₁ h₂ hn hv hv' (by decide)).2, (startOf?_two h₁' h₂' hn hv hv' (by decide)).2]
      · rw [(startOf?_two h₁ h₂ hn hv hv' (by decide)).1, (startOf?_two h₁' h₂' hn hv hv' (by decide)).1]
    · exact .inl ⟨_, List.mem_append_cons_self, hdigits⟩

/-- A name with short groups has a version and a number if and only if its first cut has a number. This
is so if a piece of another cut has one, provided that the first cut begins the piece of this token
where that one does, or that the tokens leave no choice there. -/
theorem exists_read_of_hasNumber (pattern : Pattern) (name : Text) (hs : name.HasShortGroups) :
    ((∃ version number, pattern.read name = .ok (some (version, number))) ↔
      ∃ first, IsFirst pattern.variant pattern.tokens name first ∧ first.HasNumber) ∧
    ∀ cut token piece, IsCut pattern.variant pattern.tokens name cut → piece ∈ cut →
      Fits pattern.variant token piece → piece.HasNumber →
      (IsSteady pattern.variant pattern.tokens ∨
        ∀ first, IsFirst pattern.variant pattern.tokens name first →
          Cut.startOf? token 0 pattern.tokens first = Cut.startOf? token 0 pattern.tokens cut) →
      ∃ version number, pattern.read name = .ok (some (version, number)) := by
  refine ⟨exists_read_iff hs, ?_⟩
  intro cut token piece hc hm hfits hnumber hbegins
  obtain ⟨first, hfirst⟩ := Option.isSome_iff_exists.1 hc.firstCut?_isSome
  have hf := isFirst_of_firstCut? hfirst
  have hstart : first.HasNumber ∨
      Cut.startOf? token 0 pattern.tokens first = Cut.startOf? token 0 pattern.tokens cut := by
    obtain hsteady | halike := hbegins
    · obtain h | h := hsteady.hasNumber_or_startOf?_eq pattern.variant_ne_nil hf hc
      · exact .inl h
      · refine .inr (h token ?_)
        cases hfits with
        | buildVersion => exact .inl rfl
        | buildVariantName => exact .inr rfl
        | _ => cases hnumber
    · exact .inr (halike first hf)
  apply (exists_read_iff hs).2
  refine ⟨first, hf, ?_⟩
  obtain h | h := hstart
  · exact h
  · exact hf.hasNumber pattern.one_version pattern.one_variant hc hm hfits hnumber h

/-- The number of a name that begins with a fixed text is found, whatever follows the variant name. -/
theorem steady_debug_read :
    ∃ pattern, ofTokens (some [.literal "v", .buildVersion, .separator "-", .buildVariantName,
        .anyOptionalSymbols]) "debug" = .ok pattern ∧
      IsSteady pattern.variant pattern.tokens ∧ Text.HasShortGroups "v1-debug7-2.0-debug" ∧
      ∃ version number, pattern.read "v1-debug7-2.0-debug" = .ok (some (version, number)) := by
  let pattern : Pattern := ⟨[.literal "v", .buildVersion, .separator "-", .buildVariantName,
    .anyOptionalSymbols], "debug", by decide, by decide, by decide⟩
  have hsteady : IsSteady pattern.variant pattern.tokens := by
    refine @IsSteady.versionFirst "debug" [.literal "v"] [.separator "-"] [.anyOptionalSymbols]
      "v" "-" (.literal "v" .nil) (.separator "-" .nil) ?_
    intro c tail he
    obtain ⟨rfl, -⟩ := List.cons.inj he
    decide
  have hs : Text.HasShortGroups "v1-debug7-2.0-debug" := Text.hasShortGroups_of_length_le (by decide)
  have hversion : IsVersion "1" := .digit (by decide)
  have hdigits : ∀ c ∈ ("7" : Text), Text.isDigit c = true := List.all_eq_true.1 (by decide)
  have htail : '\n' ∉ ("-2.0-debug" : Text) := by decide
  let cut : Cut := [.plain "v", .version "1", .plain "-", .variant "debug" "7", .plain "-2.0-debug"]
  have hcut : IsCut pattern.variant pattern.tokens "v1-debug7-2.0-debug" cut :=
    .cons (.literal "v") (.cons (.buildVersion hversion) (.cons (.separator "-")
      (.cons (.buildVariantName hdigits) (.cons (.anyOptionalSymbols htail) .nil))))
  have hm : .variant "debug" "7" ∈ cut := by decide
  have hnumber : Piece.HasNumber (.variant "debug" "7") := by
    simp [Piece.HasNumber]
  refine ⟨pattern, rfl, hsteady, hs, ?_⟩
  exact (exists_read_of_hasNumber pattern _ hs).2 cut _ _ hcut hm (.buildVariantName hdigits) hnumber
    (.inl hsteady)

/-- The first cut of a name takes the leading digit as the version and finds no number, while another
cut has one. -/
theorem leading_digit_not_read :
    ∃ pattern, ofTokens none "debug" = .ok pattern ∧ Text.HasShortGroups "1-debug-2.0-debug" ∧
      (∃ cut, IsCut pattern.variant pattern.tokens "1-debug-2.0-debug" cut ∧ cut.HasNumber) ∧
      pattern.read "1-debug-2.0-debug" = .ok none := by
  let pattern : Pattern := ⟨defaultTokens, "debug", by decide, by decide, by decide⟩
  have hreads : ReadsAs "debug" "1-debug-2.0-debug" "1-debug-" "2.0" [] :=
    ⟨rfl, by decide, .group (by decide) (.digit (by decide)), by decide⟩
  have hcut : IsCut pattern.variant pattern.tokens "1-debug-2.0-debug"
      (defaultCut "debug" "1-debug-" "2.0" [] [] []) :=
    isCut_default_iff.2 ⟨_, _, _, _, _, rfl, hreads, nofun, .inr rfl⟩
  have hnumber : Piece.HasNumber (.version "2.0") := by
    simp [Piece.HasNumber]
  refine ⟨pattern, rfl, Text.hasShortGroups_of_length_le (by decide), ⟨_, hcut, ?_⟩, ?_⟩
  · exact ⟨_, by simp [defaultCut], hnumber⟩
  · decide +kernel

end BuildTags.Pattern
