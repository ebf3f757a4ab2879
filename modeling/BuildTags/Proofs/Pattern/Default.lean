import BuildTags.Pattern.Basic
import BuildTags.Proofs.Pattern.Preference
import Mathlib.Data.List.TakeWhile
import Mathlib.Data.Nat.Find

namespace BuildTags.Pattern

/-- A way to read a name by the default tokens: characters without a dot, a version, a dash, the
variant name, and anything in one line. -/
structure ReadsAs (variant name before version after : Text) : Prop where
  eq : name = before ++ (version ++ '-' :: (variant ++ after))
  noDot : '.' ∉ before
  isVersion : IsVersion version
  oneLine : '\n' ∉ after

def ReadsFirst (variant name before version after : Text) : Prop :=
  ReadsAs variant name before version after ∧
    ∀ before' version' after', ReadsAs variant name before' version' after' →
      before.length ≤ before'.length

section

variable {variant name before version after : Text}

def defaultCut (variant before version digits dash tail : Text) : Cut :=
  [.plain before, .version version, .plain "-", .variant variant digits, .plain dash, .plain tail]

theorem isCut_default_iff {cut : Cut} :
    IsCut variant defaultTokens name cut ↔ ∃ before version digits dash tail,
      cut = defaultCut variant before version digits dash tail ∧
      ReadsAs variant name before version (digits ++ (dash ++ tail)) ∧
      (∀ c ∈ digits, Text.isDigit c = true) ∧ (dash = "-" ∨ dash = []) := by
  constructor
  · intro h₁
    obtain ⟨_, _, _, rfl, rfl, fits, h₂⟩ := isCut_cons_iff.1 h₁
    cases fits with | anyBeforeDot noDot => ?_
    obtain ⟨_, _, _, rfl, rfl, fits, h₃⟩ := isCut_cons_iff.1 h₂
    cases fits with | buildVersion isVersion => ?_
    obtain ⟨_, _, _, rfl, rfl, fits, h₄⟩ := isCut_cons_iff.1 h₃
    cases fits with | separator => ?_
    obtain ⟨_, _, _, rfl, rfl, fits, h₅⟩ := isCut_cons_iff.1 h₄
    cases fits with | buildVariantName digits => ?_
    obtain ⟨_, _, _, rfl, rfl, dash, h₆⟩ := isCut_cons_iff.1 h₅
    obtain ⟨_, _, _, rfl, rfl, fits, h₇⟩ := isCut_cons_iff.1 h₆
    cases fits with | anyOptionalSymbols oneLine => ?_
    obtain ⟨rfl, rfl⟩ := isCut_nil_iff.1 h₇
    cases dash with
    | present =>
      refine ⟨_, _, _, _, _, rfl, ⟨by simp [Piece.text], noDot, isVersion, ?_⟩, digits, .inl rfl⟩
      simp [newline_notMem digits, oneLine]
    | absent =>
      refine ⟨_, _, _, _, _, rfl, ⟨by simp [Piece.text], noDot, isVersion, ?_⟩, digits, .inr rfl⟩
      simp [newline_notMem digits, oneLine]
  · rintro ⟨before, version, digits, dash, tail, rfl, ⟨rfl, noDot, isVersion, oneLine⟩, hd, hdash⟩
    have ht : '\n' ∉ tail := fun hm ↦ oneLine (by simp [hm])
    have hfits : Fits variant (.optionalSeparator "-") (.plain dash) := by
      obtain rfl | rfl := hdash
      · exact .present _
      · exact .absent _
    have hcut : IsCut variant defaultTokens _
        (defaultCut variant before version digits dash tail) :=
      .cons (.anyBeforeDot noDot) (.cons (.buildVersion isVersion) (.cons (.separator "-")
        (.cons (.buildVariantName hd) (.cons hfits (.cons (.anyOptionalSymbols ht) .nil)))))
    simpa [Piece.text] using hcut

theorem isDigit_dash : Text.isDigit '-' = false := by decide

/-- The beginning of a name settles the version and what follows the variant name. -/
theorem ReadsAs.unique {before' version' after' : Text}
    (h : ReadsAs variant name before version after)
    (h' : ReadsAs variant name before' version' after') (hl : before.length = before'.length) :
    before = before' ∧ version = version' ∧ after = after' := by
  obtain ⟨hb, he⟩ := List.append_inj (h.eq.symm.trans h'.eq) hl
  obtain ⟨hv, ha⟩ := Text.append_cons_inj (h.isVersion.notMem isDigit_dash (by decide))
    (h'.isVersion.notMem isDigit_dash (by decide)) he
  exact ⟨hb, hv, List.append_cancel_left ha⟩

theorem ReadsAs.readsFirst_of_singleton {c : Char} (hc : Text.isDigit c = false)
    (h : ReadsAs variant name [c] version after) : ReadsFirst variant name [c] version after := by
  refine ⟨h, fun before' version' after' h' ↦ ?_⟩
  cases before' with
  | cons d before' => exact Nat.succ_le_succ (Nat.zero_le _)
  | nil =>
    have he := h.eq.symm.trans h'.eq
    cases version' with
    | nil => exact absurd rfl h'.isVersion.ne_nil
    | cons d version' =>
      obtain ⟨rfl, -⟩ := List.cons.inj he
      rw [(isVersion_cons_iff.1 h'.isVersion).1] at hc
      cases hc

def BeginsNoDigit (text : Text) : Prop := ∀ c tail, text = c :: tail → Text.isDigit c = false

theorem beginsNoDigit_nil : BeginsNoDigit [] := by
  intro c tail h
  cases h

theorem beginsNoDigit_dropWhile (text : Text) : BeginsNoDigit (text.dropWhile Text.isDigit) := by
  intro c tail h
  have hp := List.head?_dropWhile_not Text.isDigit text
  rw [h] at hp
  simpa using hp

theorem exists_digits_append (text : Text) : ∃ digits rest, text = digits ++ rest ∧
    (∀ c ∈ digits, Text.isDigit c = true) ∧ BeginsNoDigit rest :=
  ⟨text.takeWhile Text.isDigit, text.dropWhile Text.isDigit,
    List.takeWhile_append_dropWhile.symm, fun _ hc ↦ List.mem_takeWhile_imp hc,
    beginsNoDigit_dropWhile text⟩

theorem exists_dash_append (text : Text) : ∃ dash tail : Text, text = dash ++ tail ∧
    (dash = "-" ∨ dash = [] ∧ ∀ tail', tail ≠ '-' :: tail') := by
  cases text with
  | nil => exact ⟨[], [], rfl, .inr ⟨rfl, nofun⟩⟩
  | cons c text =>
    by_cases hc : c = '-'
    · exact ⟨"-", text, by rw [hc]; rfl, .inl rfl⟩
    · exact ⟨[], c :: text, rfl, .inr ⟨rfl, fun _ ht ↦ hc (List.cons.inj ht).1⟩⟩

variable {digits rest : Text}

/-- The first cut has the shortest beginning, and all digits that follow the variant name. -/
theorem ReadsFirst.firstCut?_eq (h : ReadsFirst variant name before version (digits ++ rest))
    (hd : ∀ c ∈ digits, Text.isDigit c = true) (hr : BeginsNoDigit rest) :
    ∃ dash tail, rest = dash ++ tail ∧ firstCut? variant defaultTokens name =
      some (defaultCut variant before version digits dash tail) := by
  obtain ⟨dash, tail, rfl, hdash⟩ := exists_dash_append rest
  refine ⟨dash, tail, rfl, firstCut?_eq_some_iff.2 ⟨isCut_default_iff.2
    ⟨_, _, _, _, _, rfl, h.1, hd, hdash.imp id And.left⟩, fun other ho ↦ ?_⟩⟩
  obtain ⟨before', version', digits', dash', tail', rfl, h', hd', hdash'⟩ := isCut_default_iff.1 ho
  obtain hlt | heq := Nat.lt_or_eq_of_le (h.2 _ _ _ h')
  · exact .inr (.here hlt)
  obtain ⟨rfl, rfl, ha⟩ := h.1.unique h' heq
  obtain hlt | heq | hgt := Nat.lt_trichotomy digits'.length digits.length
  · exact .inr (.later (.later (.later (.here (by simpa [Token.prefers, Piece.text] using hlt)))))
  · obtain ⟨rfl, he⟩ := List.append_inj ha.symm heq
    obtain rfl | ⟨rfl, hno⟩ := hdash
    · obtain rfl | rfl := hdash'
      · rw [List.append_cancel_left he]
        exact .inl rfl
      · exact .inr (.later (.later (.later (.later (.here (by simp [Token.prefers, Piece.text]))))))
    · obtain rfl | rfl := hdash'
      · exact absurd he.symm (hno _)
      · rw [show tail' = tail from he]
        exact .inl rfl
  · -- The other digits would go on where no digit follows.
    obtain ⟨more, hm, hrest⟩ | ⟨more, hm, hrest⟩ := List.append_eq_append_iff.1 ha
    · cases more with
      | nil => simp [hm] at hgt
      | cons c more =>
        have hc : Text.isDigit c = true := hd' c (by simp [hm])
        rw [hr c _ hrest] at hc
        cases hc
    · have hlen := congrArg List.length hm
      rw [List.length_append] at hlen
      omega

theorem exists_readsFirst (h : ReadsAs variant name before version after) :
    ∃ before version after, ReadsFirst variant name before version after := by
  classical
  have hex : ∃ n before version after, ReadsAs variant name before version after ∧
      before.length = n := ⟨_, _, _, _, h, rfl⟩
  obtain ⟨before', version', after', h', hn⟩ := Nat.find_spec hex
  refine ⟨before', version', after', h', fun b v a hb ↦ ?_⟩
  rw [hn]
  exact Nat.find_min' hex ⟨b, v, a, hb, rfl⟩

theorem firstCut?_default_isSome_iff : (firstCut? variant defaultTokens name).isSome ↔
    ∃ before version after, ReadsAs variant name before version after := by
  rw [firstCut?_isSome_iff]
  constructor
  · rintro ⟨cut, hc⟩
    obtain ⟨_, _, _, _, _, _, h, -⟩ := isCut_default_iff.1 hc
    exact ⟨_, _, _, h⟩
  · rintro ⟨before, version, after, h⟩
    obtain ⟨before, version, after, h⟩ := exists_readsFirst h
    obtain ⟨digits, rest, rfl, hd, hr⟩ := exists_digits_append after
    obtain ⟨dash, tail, -, hc⟩ := h.firstCut?_eq hd hr
    exact ⟨_, (isFirst_of_firstCut? hc).1⟩

theorem exists_of_firstCut?_default {cut : Cut} (h : firstCut? variant defaultTokens name = some cut) :
    ∃ before version digits rest dash tail, cut = defaultCut variant before version digits dash tail ∧
      ReadsFirst variant name before version (digits ++ rest) ∧
      (∀ c ∈ digits, Text.isDigit c = true) ∧ BeginsNoDigit rest := by
  obtain ⟨_, _, _, hr⟩ := firstCut?_default_isSome_iff.1 (Option.isSome_of_eq_some h)
  obtain ⟨before, version, after, hf⟩ := exists_readsFirst hr
  obtain ⟨digits, rest, rfl, hd, hn⟩ := exists_digits_append after
  obtain ⟨dash, tail, -, hc⟩ := hf.firstCut?_eq hd hn
  rw [h, Option.some.injEq] at hc
  exact ⟨before, version, digits, rest, dash, tail, hc, hf, hd, hn⟩

def defaultParts? (variant before version digits : Text) : Option Parts :=
  if digits = [] then
    (Text.cutLast? "." version).map fun (head, last) ↦
      ⟨head, ⟨before.length + head.length + 1, last⟩⟩
  else some ⟨version, ⟨before.length + version.length + 1 + variant.length, digits⟩⟩

theorem parts?_defaultCut (variant before version digits dash tail : Text) :
    Cut.parts? (defaultCut variant before version digits dash tail) =
      defaultParts? variant before version digits := by
  by_cases hd : digits = []
  · simp only [defaultCut, defaultParts?, Cut.parts?, Cut.version?, Cut.trailing?, Piece.text, hd,
      if_true, Nat.zero_add, Option.bind_eq_bind, Option.bind_some]
    cases Text.cutLast? "." version <;> rfl
  · simp [defaultCut, defaultParts?, Cut.parts?, Cut.version?, Cut.trailing?, Piece.text, hd]

theorem ReadsFirst.parts?_eq (h : ReadsFirst variant name before version (digits ++ rest))
    (hd : ∀ c ∈ digits, Text.isDigit c = true) (hr : BeginsNoDigit rest) :
    (firstCut? variant defaultTokens name).bind Cut.parts? =
      defaultParts? variant before version digits := by
  obtain ⟨dash, tail, -, hc⟩ := h.firstCut?_eq hd hr
  rw [hc, Option.bind_some, parts?_defaultCut]

end

end BuildTags.Pattern
