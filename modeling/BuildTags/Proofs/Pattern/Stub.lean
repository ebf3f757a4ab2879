import BuildTags.Proofs.Pattern.Renumber
import BuildTags.Proofs.Pattern.Split
import BuildTags.Proofs.Pattern.Swap

namespace BuildTags.Pattern

/-- Whether everything from one digit of a text to a later one is a version. -/
def JoinsDigits (text : Text) : Prop :=
  ∀ before first between last after, text = before ++ first :: (between ++ last :: after) →
    Text.isDigit first = true → Text.isDigit last = true → IsVersion (first :: (between ++ [last]))

theorem IsVersion.joinsDigits {before version after : Text} (h : IsVersion version)
    (hb : ∀ c ∈ before, Text.isDigit c = false) (ha : ∀ c ∈ after, Text.isDigit c = false) :
    JoinsDigits (before ++ (version ++ after)) := by
  intro before' first between last after' he hf hl
  obtain ⟨more, -, hmore⟩ := Text.exists_append_of_notMem (notMem_of_isDigit hb hf) he
  have hmore' : version ++ after = (more ++ first :: between) ++ last :: after' := by simpa using hmore
  obtain ⟨rest, rfl, -⟩ := Text.exists_cons_append_of_notMem (notMem_of_isDigit ha hl) hmore'
  rw [List.append_assoc] at h
  have hfrom : IsVersion (first :: between ++ last :: rest) := (h.split hf).1
  exact (hfrom.split hl).2 _ (.digit hl)

theorem JoinsDigits.isVersion {before version between digits after : Text}
    (h : JoinsDigits (before ++ (version ++ (between ++ (digits ++ after))))) (hv : IsVersion version)
    (hne : digits ≠ []) (hd : ∀ c ∈ digits, Text.isDigit c = true) :
    IsVersion (version ++ (between ++ digits)) := by
  obtain rfl | ⟨start, last, rfl⟩ := List.eq_nil_or_concat' digits
  · exact absurd rfl hne
  cases version with
  | nil => exact absurd hv not_isVersion_nil
  | cons first more =>
    have hj := h before first (more ++ (between ++ start)) last after (by simp)
      (isVersion_cons_iff.1 hv).1 (hd last (by simp))
    simpa using hj

def StandsOver (text name : Text) (position : Nat) : Prop :=
  ∃ before after, name = before ++ (text ++ after) ∧ before.length ≤ position ∧
    position < before.length + text.length

/-- Whether no optional separator can stand over a position of a name. -/
def IsOpen (tokens : List Token) (name : Text) (position : Nat) : Prop :=
  ∀ text, .optionalSeparator text ∈ tokens → ¬StandsOver text name position

theorem isOpen_of_notMem {c : Char} {tokens : List Token} {name : Text} {position : Nat}
    (hc : name[position]? = some c) (h : ∀ text, .optionalSeparator text ∈ tokens → c ∉ text) :
    IsOpen tokens name position := by
  rintro text hm ⟨before, after, rfl, hle, hlt⟩
  rw [List.getElem?_append_right hle, List.getElem?_append_left (by omega)] at hc
  exact h text hm (List.mem_of_getElem? hc)

variable {c : Char} {head variant : Text} {token : Token}
  {tokens tokens₁ tokens₂ : List Token} {cut : Cut}

theorem IsCut.count_variant_le {name : Text} (h : IsCut variant tokens name cut)
    (hm : .buildVariantName ∈ tokens) : variant.count c ≤ name.count c := by
  obtain ⟨tokens₁, tokens₂, rfl⟩ := List.append_of_mem hm
  obtain ⟨_, _, _, piece, _, rfl, -, -, fits, -⟩ := h.exists_split
  cases fits
  simp only [Piece.text, List.count_append]
  omega

/-- A character that stands only in the variant name is in the piece of the variant name. -/
theorem IsCut.notMem_of_ne (h : IsCut variant (tokens₁ ++ token :: tokens₂) (head ++ variant) cut)
    (hhead : c ∉ head) (hm : .buildVariantName ∈ tokens₁ ++ token :: tokens₂)
    (ht : token ≠ .buildVariantName) : ∃ piece, Fits variant token piece ∧ c ∉ piece.text := by
  obtain ⟨name₁, name₂, _, piece, _, he, -, h₁, fits, h₂⟩ := h.exists_split
  refine ⟨piece, fits, fun hc ↦ ?_⟩
  have hcount := congrArg (List.count c) he
  have hpos := List.count_pos_iff.2 hc
  simp only [List.count_append, List.count_eq_zero.2 hhead] at hcount
  obtain hm | hm := List.mem_append.1 hm
  · have hle := h₁.count_variant_le (c := c) hm
    omega
  · have hle := h₂.count_variant_le (c := c) ((List.mem_cons.1 hm).resolve_left ht.symm)
    omega

/-- The only part that cannot be otherwise and can hold the character is the variant name. -/
theorem IsRigid.eq_buildVariantName {before after : Text} {other : Cut}
    (h : IsRigid variant c tokens before after other token)
    (hcut : IsCut variant tokens (head ++ variant) cut) (hhead : c ∉ head)
    (hm : .buildVariantName ∈ tokens)
    (hopen : IsOpen tokens (before ++ c :: after) before.length) :
    token = .buildVariantName ∧ c ∈ variant := by
  obtain ⟨tokens₁, tokens₂, -, -, name, start, rest, more, rfl, -, -, rfl, hfixed, rfl⟩ := h
  have hc : c ∈ token.fixed variant := hfixed ▸ List.mem_append_right _ List.mem_cons_self
  by_cases ht : token = .buildVariantName
  · subst ht
    exact ⟨rfl, hc⟩
  · obtain ⟨piece, fits, hn⟩ := hcut.notMem_of_ne hhead hm ht
    cases fits with
    | literal text => exact absurd hc hn
    | separator text => exact absurd hc hn
    | present text => exact absurd hc hn
    | absent text =>
      obtain rfl : text = start ++ c :: rest := hfixed
      exact absurd ⟨name, more, by simp, by simp, by simp⟩ (hopen _ (List.mem_append_cons_self))
    | buildVariantName => exact absurd rfl ht
    | _ => exact absurd hc List.not_mem_nil

variable {after digits group last name₁ name₂ : Text} {cut₁ cut₂ : Cut}

theorem isFirst_replace_trailing (hhead : c ∉ head) (hc : Text.isDigit c = true)
    (hopen : IsOpen (tokens₁ ++ .buildVariantName :: tokens₂) ((name₁ ++ variant) ++ c :: name₂)
      (name₁ ++ variant).length)
    (h₁ : IsCut variant tokens₁ name₁ cut₁) (h₂ : IsCut variant tokens₂ name₂ cut₂)
    (hne : digits ≠ []) (hd : ∀ c ∈ digits, Text.isDigit c = true)
    (hname : head ++ variant = name₁ ++ (variant ++ (digits ++ name₂)))
    (hfirst : IsFirst variant (tokens₁ ++ .buildVariantName :: tokens₂) (head ++ variant)
      (cut₁ ++ .variant variant digits :: cut₂)) :
    IsFirst variant (tokens₁ ++ .buildVariantName :: tokens₂) ((name₁ ++ variant) ++ c :: name₂)
      (cut₁ ++ .variant variant [c] :: cut₂) := by
  have hs : Swaps variant c digits (tokens₁ ++ .buildVariantName :: tokens₂) (name₁ ++ variant)
      ([] ++ name₂) (cut₁ ++ .variant variant [c] :: cut₂) (cut₁ ++ .variant variant digits :: cut₂) :=
    h₁.swaps h₂ (.buildVariantName (by simpa using hc)) (.buildVariantName hd) rfl
      (by simp [Piece.text])
  have hf := hfirst
  rw [hname, ← List.append_assoc] at hf
  refine hs.isFirst hf hc hne hd fun other token _ hr ↦ ?_
  obtain ⟨-, hv⟩ := hr.eq_buildVariantName hfirst.1 hhead (by simp) hopen
  obtain ⟨-, hnil⟩ := Text.eq_of_append_append_eq hv hhead hname.symm
  exact hne (List.append_eq_nil_iff.1 hnil).1

/-- If the variant name holds a character that does not stand before it, its piece comes after the
version, with nothing after it. -/
theorem exists_between (hhead : c ∉ head) (hv : c ∈ variant) {version : Text}
    (h₁ : IsCut variant tokens₁ name₁ cut₁) (h₂ : IsCut variant tokens₂ name₂ cut₂)
    (hne : version ≠ []) (hname : head ++ variant = name₁ ++ (version ++ name₂))
    {tokens₃ tokens₄ : List Token}
    (ht : tokens₁ ++ .buildVersion :: tokens₂ = tokens₃ ++ .buildVariantName :: tokens₄) :
    ∃ between name cut cut', tokens₃ = tokens₁ ++ .buildVersion :: between ∧
      tokens₂ = between ++ .buildVariantName :: tokens₄ ∧ head = name₁ ++ (version ++ name) ∧
      IsCut variant between name cut ∧ IsCut variant (.buildVariantName :: tokens₄) variant cut' := by
  obtain ⟨more, rfl, he⟩ | ⟨more, rfl, he⟩ := List.append_eq_append_iff.1 ht
  · cases more with
    | nil => cases (List.cons.inj he).1
    | cons token between =>
      obtain ⟨rfl, rfl⟩ := List.cons.inj he
      obtain ⟨name, rest, cut, piece, cut', rfl, -, hcut, fits, hcut'⟩ := h₂.exists_split
      cases fits with
      | @buildVariantName digits hd =>
        have hsame : (name₁ ++ (version ++ name)) ++ (variant ++ (digits ++ rest)) = head ++ variant := by
          simp [hname, Piece.text]
        obtain ⟨hstart, hnil⟩ := Text.eq_of_append_append_eq hv hhead hsame
        obtain ⟨rfl, rfl⟩ := List.append_eq_nil_iff.1 hnil
        have hc : IsCut variant (.buildVariantName :: tokens₄) ((variant ++ []) ++ [])
            (.variant variant [] :: cut') := .cons (.buildVariantName hd) hcut'
        rw [List.append_nil, List.append_nil] at hc
        exact ⟨between, name, cut, _, rfl, rfl, hstart.symm, hcut, hc⟩
  · cases more with
    | nil => cases (List.cons.inj he).1
    | cons token more =>
      obtain ⟨rfl, rfl⟩ := List.cons.inj he
      obtain ⟨start, rest, -, piece, -, rfl, -, -, fits, -⟩ := h₁.exists_split
      cases fits with
      | @buildVariantName digits hd =>
        have hsame : start ++ (variant ++ (digits ++ (rest ++ (version ++ name₂)))) =
            head ++ variant := by simp [hname, Piece.text]
        obtain ⟨-, hnil⟩ := Text.eq_of_append_append_eq hv hhead hsame
        simp [hne] at hnil

/-- A cut that is preferred to the one with a new last group of the version does not have the new
group in the variant name. -/
theorem not_isRigid_of_precedes (hhead : c ∉ head) (hjoin : JoinsDigits head) (hv : c ∈ variant)
    (h₁ : IsCut variant tokens₁ name₁ cut₁) (h₂ : IsCut variant tokens₂ name₂ cut₂)
    (hne : last ≠ []) (hd : ∀ c ∈ last, Text.isDigit c = true)
    (hname : head ++ variant = name₁ ++ ((group ++ '.' :: last) ++ name₂))
    (hfirst : IsFirst variant (tokens₁ ++ .buildVersion :: tokens₂) (head ++ variant)
      (cut₁ ++ .version (group ++ '.' :: last) :: cut₂))
    (hp : Precedes (tokens₁ ++ .buildVersion :: tokens₂) cut
      (cut₁ ++ .version (group ++ '.' :: [c]) :: cut₂)) :
    ¬IsRigid variant c (tokens₁ ++ .buildVersion :: tokens₂) (name₁ ++ (group ++ ['.'])) after cut
      .buildVariantName := by
  rintro ⟨tokens₃, tokens₄, cut₃, cut₄, name₃, start, -, -, ht, rfl, h₃, hbefore, -, -⟩
  obtain ⟨between, name, cut, cut', rfl, rfl, rfl, hcut, hcut'⟩ :=
    exists_between hhead hv h₁ h₂ (by simp) hname ht
  obtain ⟨name₅, name₆, cut₅, _, cut₆, rfl, rfl, h₅, fits, -⟩ := h₃.exists_split
  cases fits with
  | @buildVersion version hversion =>
    rw [List.append_assoc] at hp
    obtain ⟨rfl, hsame⟩ | hall := Precedes.append_cases h₅.length_eq h₁.length_eq hp
    · -- The other version ends before the character, so that it is the shorter one.
      obtain rfl : name₅ = name₁ := h₅.text_eq.symm.trans h₁.text_eq
      have hlen := congrArg List.length hbefore
      simp only [Piece.text, List.length_append, List.length_singleton] at hlen
      have hlt : version.length < (group ++ '.' :: [c]).length := by
        simp only [List.length_append, List.length_cons, List.length_nil]
        omega
      cases hsame with
      | here hpref => exact absurd hpref (Nat.not_lt_of_gt hlt)
      | later => exact absurd hlt (Nat.lt_irrefl _)
    · -- With a version that goes on to the old number the other cut is preferred in the old name too.
      have hhead' : name₁ ++ ((group ++ '.' :: last) ++ name) =
          name₅ ++ (version ++ ((name₆ ++ start) ++ (last ++ name))) := by
        have he := congrArg (· ++ (last ++ name)) hbefore
        simpa [Piece.text] using he
      have hversion' := (hhead' ▸ hjoin).isVersion hversion hne hd
      have hother := h₅.append (.cons (.buildVersion hversion') (hcut.append hcut'))
      have htext : name₅ ++ (Piece.text (.version (version ++ ((name₆ ++ start) ++ last))) ++
          (name ++ variant)) = (name₁ ++ ((group ++ '.' :: last) ++ name)) ++ variant := by
        rw [hhead']
        simp [Piece.text]
      rw [htext] at hother
      have hp' := hall (.version (version ++ ((name₆ ++ start) ++ last)) :: (cut ++ cut'))
        (.version (group ++ '.' :: last) :: cut₂)
      exact hfirst.not_precedes hother hp'

theorem isFirst_replace_group (hhead : c ∉ head) (hjoin : JoinsDigits head)
    (hc : Text.isDigit c = true)
    (hopen : IsOpen (tokens₁ ++ .buildVersion :: tokens₂)
      ((name₁ ++ (group ++ ['.'])) ++ c :: name₂) (name₁ ++ (group ++ ['.'])).length)
    (hm : .buildVariantName ∈ tokens₁ ++ .buildVersion :: tokens₂)
    (h₁ : IsCut variant tokens₁ name₁ cut₁) (h₂ : IsCut variant tokens₂ name₂ cut₂)
    (hgroup : IsVersion group) (hne : last ≠ []) (hd : ∀ c ∈ last, Text.isDigit c = true)
    (hname : head ++ variant = name₁ ++ ((group ++ '.' :: last) ++ name₂))
    (hfirst : IsFirst variant (tokens₁ ++ .buildVersion :: tokens₂) (head ++ variant)
      (cut₁ ++ .version (group ++ '.' :: last) :: cut₂)) :
    IsFirst variant (tokens₁ ++ .buildVersion :: tokens₂)
      ((name₁ ++ (group ++ ['.'])) ++ c :: name₂) (cut₁ ++ .version (group ++ '.' :: [c]) :: cut₂) := by
  have hs : Swaps variant c last (tokens₁ ++ .buildVersion :: tokens₂) (name₁ ++ (group ++ ['.']))
      ([] ++ name₂) (cut₁ ++ .version (group ++ '.' :: [c]) :: cut₂)
      (cut₁ ++ .version (group ++ '.' :: last) :: cut₂) :=
    h₁.swaps h₂ (.buildVersion (isVersion_append_dot_iff.2 ⟨hgroup, .digit hc⟩))
      (.buildVersion (isVersion_append_dot_iff.2 ⟨hgroup, isVersion_of_digits hne hd⟩))
      (by simp [Piece.text]) (by simp [Piece.text])
  have hsame : head ++ variant = (name₁ ++ (group ++ ['.'])) ++ (last ++ name₂) := by simp [hname]
  refine hs.isFirst (hsame ▸ hfirst) hc hne hd fun other token hp hr ↦ ?_
  obtain ⟨rfl, hv⟩ := hr.eq_buildVariantName hfirst.1 hhead hm hopen
  exact not_isRigid_of_precedes hhead hjoin hv h₁ h₂ hne hd hname hfirst hp hr

section

variable {parts : Parts} {version : Located}

theorem parts?_splice_trailing (hhead : c ∉ head) (hc : Text.isDigit c = true)
    (hm : .buildVariantName ∈ tokens) (hopen : IsOpen tokens
      (Build.splice (head ++ variant) parts.number.start parts.number.stop [c]) parts.number.start)
    (hfirst : IsFirst variant tokens (head ++ variant) cut)
    (hversion : Cut.version? 0 cut = some version) (ht : Cut.trailing? 0 cut = some parts.number)
    (hpv : parts.version = version.text) :
    (firstCut? variant tokens
      (Build.splice (head ++ variant) parts.number.start parts.number.stop [c])).bind Cut.parts? =
        some ⟨parts.version, ⟨parts.number.start, [c]⟩⟩ := by
  obtain ⟨tokens₁, tokens₂, rfl, hn⟩ := List.eq_append_cons_of_mem hm
  obtain ⟨name₁, name₂, cut₁, _, cut₂, hname, rfl, h₁, fits, h₂⟩ := hfirst.1.exists_split
  cases fits with
  | @buildVariantName digits hd =>
    rw [h₁.trailing?_append hn, Nat.zero_add] at ht
    simp only [Cut.trailing?, Option.ite_none_left_eq_some, Option.some.injEq] at ht
    obtain ⟨hne, hnumber⟩ := ht
    rw [Piece.text, List.append_assoc] at hname
    have hsplice := splice_eq [c] (hname.trans (List.append_assoc _ _ _).symm) List.length_append.symm
    rw [← hnumber, Located.stop, hsplice, ← List.length_append] at hopen
    have hnew := isFirst_replace_trailing hhead hc hopen h₁ h₂ hne hd hname hfirst
    obtain ⟨version', hversion', htext⟩ := Option.map_eq_some_iff.1
      ((map_version?_variant cut₁ cut₂ variant [c] digits 0 0).trans
        (congrArg (Option.map (·.text)) hversion))
    rw [← hnumber, Located.stop, hsplice]
    refine Option.bind_eq_some_iff.2 ⟨_, firstCut?_eq_some_iff.2 hnew,
      cut_parts?_eq_some_iff.2 ⟨version', hversion', .inl ⟨?_, hpv.trans htext.symm⟩⟩⟩
    rw [h₁.trailing?_append hn, Nat.zero_add]
    rfl

theorem parts?_splice_group (hhead : c ∉ head) (hjoin : JoinsDigits head)
    (hc : Text.isDigit c = true) (hm : .buildVersion ∈ tokens) (hm' : .buildVariantName ∈ tokens)
    (hopen : IsOpen tokens
      (Build.splice (head ++ variant) parts.number.start parts.number.stop [c]) parts.number.start)
    (hfirst : IsFirst variant tokens (head ++ variant) cut)
    (hversion : Cut.version? 0 cut = some version) (hnone : Cut.trailing? 0 cut = none)
    (hlast : Text.cutLast? "." version.text = some (parts.version, parts.number.text))
    (hstart : parts.number.start = version.start + parts.version.length + 1) :
    (firstCut? variant tokens
      (Build.splice (head ++ variant) parts.number.start parts.number.stop [c])).bind Cut.parts? =
        some ⟨parts.version, ⟨parts.number.start, [c]⟩⟩ := by
  obtain ⟨tokens₁, tokens₂, rfl, hn⟩ := List.eq_append_cons_of_mem hm
  obtain ⟨name₁, name₂, cut₁, _, cut₂, hname, rfl, h₁, fits, h₂⟩ := hfirst.1.exists_split
  cases fits with
  | @buildVersion text htext =>
    rw [h₁.version?_append hn, Nat.zero_add] at hversion
    obtain rfl := Option.some.inj hversion
    obtain ⟨rfl, hgroup, hne, hd⟩ := cutLast?_version htext hlast
    have hlen : parts.number.start = (name₁ ++ (parts.version ++ ['.'])).length := by
      simp only [hstart, List.length_append, List.length_singleton, Nat.add_assoc]
    have hsame : head ++ variant =
        (name₁ ++ (parts.version ++ ['.'])) ++ (parts.number.text ++ name₂) := by
      simpa [Piece.text] using hname
    have hsplice := splice_eq [c] hsame hlen
    rw [Located.stop, hsplice, hlen] at hopen
    have hnew := isFirst_replace_group hhead hjoin hc hopen hm' h₁ h₂ hgroup hne hd hname hfirst
    rw [Located.stop, hsplice]
    refine Option.bind_eq_some_iff.2 ⟨_, firstCut?_eq_some_iff.2 hnew, cut_parts?_eq_some_iff.2
      ⟨⟨name₁.length, parts.version ++ '.' :: [c]⟩, ?_,
        .inr ⟨trailing?_version _ _ _ _ 0 0 hnone, cutLast?_digits _ (by simpa using hc), hstart⟩⟩⟩
    rw [h₁.version?_append hn, Nat.zero_add]
    rfl

theorem parts?_splice_of_stub (hhead : c ∉ head) (hjoin : JoinsDigits head)
    (hc : Text.isDigit c = true) (hm : .buildVersion ∈ tokens) (hm' : .buildVariantName ∈ tokens)
    (hopen : IsOpen tokens
      (Build.splice (head ++ variant) parts.number.start parts.number.stop [c]) parts.number.start)
    (h : (firstCut? variant tokens (head ++ variant)).bind Cut.parts? = some parts) :
    (firstCut? variant tokens
      (Build.splice (head ++ variant) parts.number.start parts.number.stop [c])).bind Cut.parts? =
        some ⟨parts.version, ⟨parts.number.start, [c]⟩⟩ := by
  obtain ⟨cut, hcut, hp⟩ := Option.bind_eq_some_iff.1 h
  have hfirst := isFirst_of_firstCut? hcut
  obtain ⟨version, hversion, ⟨ht, hpv⟩ | ⟨hnone, hlast, hstart⟩⟩ := cut_parts?_eq_some_iff.1 hp
  · exact parts?_splice_trailing hhead hc hm' hopen hfirst hversion ht hpv
  · exact parts?_splice_group hhead hjoin hc hm hm' hopen hfirst hversion hnone hlast hstart

end

end BuildTags.Pattern
