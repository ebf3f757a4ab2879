import BuildTags.Proofs.Pattern.Descriptor

namespace BuildTags.Pattern

namespace Descriptor

/-- Whether neither white space at the ends of a text nor quotes around it can be taken away. -/
structure IsBare (text : Text) : Prop where
  isTrimmed : Text.IsTrimmed text
  unquoted : ∀ mark inner, IsQuote mark → text ≠ mark :: (inner ++ [mark])

variable {text argument : Text}

theorem Holds.of_isBare (h : IsBare text) : Holds text text := by
  have hnil : Text.blank [] = true := rfl
  have hholds := Holds.intro hnil hnil h.isTrimmed (.plain h.unquoted)
  simpa using hholds

theorem Holds.eq_or_length_lt (h : Holds argument text) :
    text = argument ∧ IsBare argument ∨ text.length < argument.length := by
  obtain @⟨start, core, stop, _, -, -, htrim, hu⟩ := h
  cases hu with
  | quoted hq text =>
    right
    simp only [List.length_append, List.length_cons]
    omega
  | plain hp =>
    by_cases he : start = [] ∧ stop = []
    · obtain ⟨rfl, rfl⟩ := he
      rw [List.nil_append, List.append_nil]
      exact .inl ⟨rfl, htrim, hp⟩
    · right
      have hlength : 0 < start.length ∨ 0 < stop.length := by
        simpa only [List.length_pos_iff, Ne, ← not_and_or] using he
      simp only [List.length_append]
      omega

theorem holds_self_iff : Holds text text ↔ IsBare text := by
  constructor
  · intro h
    rcases h.eq_or_length_lt with ⟨-, hb⟩ | hlt
    · exact hb
    · omega
  · exact .of_isBare

theorem withoutQuotes_eq_self_iff : withoutQuotes text = text ↔ IsBare text :=
  withoutQuotes_eq_iff.trans holds_self_iff

theorem length_withoutQuotes_lt (h : ¬IsBare text) :
    (withoutQuotes text).length < text.length := by
  rcases (withoutQuotes_eq_iff.1 (rfl : withoutQuotes text = _)).eq_or_length_lt with ⟨-, hb⟩ | hlt
  · exact absurd hb h
  · exact hlt

end Descriptor

open Descriptor (IsBare Writes withoutQuotes)

namespace Token

def text? : Token → Option Text
  | .literal text | .separator text | .optionalSeparator text => some text
  | _ => none

def withText (text : Text) : Token → Token
  | .literal _ => .literal text
  | .separator _ => .separator text
  | .optionalSeparator _ => .optionalSeparator text
  | token => token

def form : Token → Descriptor
  | .literal text => ⟨"literal", text⟩
  | .separator text => ⟨"separator", text⟩
  | .optionalSeparator text => ⟨"optionalSeparator", text⟩
  | .anyBeforeDot => ⟨"anyBeforeDot", []⟩
  | .buildVersion => ⟨"buildVersion", []⟩
  | .buildVariantName => ⟨"buildVariantName", []⟩
  | .anyOptionalSymbols => ⟨"anyOptionalSymbols", []⟩

/-- Whether a token has no text, or one that is kept when the token is read. -/
def IsKept (token : Token) : Prop := ∀ text ∈ token.text?, text ≠ [] ∧ IsBare text

variable {token : Token} {text : Text}

theorem write_eq (token : Token) :
    token.write = token.form.name ++ '(' :: (token.form.argument ++ [')']) := by
  cases token <;> rfl

theorem isName_form (token : Token) : Descriptor.IsName token.form.name := by
  have hne : token.form.name ≠ [] := by cases token <;> exact List.cons_ne_nil _ _
  have hall : token.form.name.all Descriptor.isNameChar = true := by cases token <;> rfl
  exact ⟨hne, fun c hc ↦ Descriptor.isNameChar_iff.1 (List.all_eq_true.1 hall c hc)⟩

theorem writes_write (token : Token) : Writes token.form token.write := by
  have hnil : Text.blank [] = true := rfl
  have h := Writes.intro hnil .absent token.isName_form hnil hnil
  rw [write_eq]
  simpa using h

theorem read_write_of_none (h : token.text? = none) : read token.write = .ok token := by
  cases token with
  | literal | separator | optionalSeparator => cases h
  | _ => rfl

theorem read_write_of_some (h : token.text? = some text) : read token.write =
    if withoutQuotes text = [] then .error (.textMissing token.write)
    else .ok (token.withText (withoutQuotes text)) := by
  have hw := token.writes_write
  cases token with
  | literal argument | separator argument | optionalSeparator argument =>
    obtain rfl := Option.some.inj h
    exact read_of_withText hw (Descriptor.withoutQuotes_eq_iff.1 rfl) rfl
  | _ => cases h

theorem withText_eq_self_iff {text' : Text} (h : token.text? = some text) :
    token.withText text' = token ↔ text' = text := by
  cases token with
  | literal | separator | optionalSeparator =>
    obtain rfl := Option.some.inj h
    simp [withText]
  | _ => cases h

theorem read_write_eq_self_iff : read token.write = .ok token ↔ token.IsKept := by
  cases h : token.text? with
  | none => simp [IsKept, h, read_write_of_none h]
  | some text =>
    have hkept : token.IsKept ↔ text ≠ [] ∧ IsBare text := by simp [IsKept, h]
    rw [hkept, read_write_of_some h, ← Descriptor.withoutQuotes_eq_self_iff]
    by_cases he : withoutQuotes text = []
    · rw [if_pos he, he]
      constructor
      · nofun
      · rintro ⟨hne, rfl⟩
        exact absurd rfl hne
    · rw [if_neg he, Except.ok.injEq, withText_eq_self_iff h]
      constructor
      · intro hself
        exact ⟨hself ▸ he, hself⟩
      · exact fun hself ↦ hself.2

theorem read_write_of_not_isKept (h : ¬token.IsKept) :
    read token.write = .error (.textMissing token.write) ∨
      ∃ text text', token.text? = some text ∧ text'.length < text.length ∧
        read token.write = .ok (token.withText text') := by
  cases ht : token.text? with
  | none => exact absurd (by simp [IsKept, ht]) h
  | some text =>
    rw [read_write_of_some ht]
    by_cases he : withoutQuotes text = []
    · exact .inl (if_pos he)
    · refine .inr ⟨text, withoutQuotes text, rfl, ?_, if_neg he⟩
      apply Descriptor.length_withoutQuotes_lt
      intro hb
      apply h
      intro text' ht'
      obtain rfl : text = text' := Option.some.inj (ht.symm.trans ht')
      exact ⟨Descriptor.withoutQuotes_eq_self_iff.2 hb ▸ he, hb⟩

theorem readTokens_map_write_iff {tokens : List Token} :
    readTokens (tokens.map write) = .ok tokens ↔ ∀ token ∈ tokens, token.IsKept := by
  rw [readTokens_eq_ok_iff, List.forall₂_map_left_iff, List.forall₂_same]
  simp only [read_write_eq_self_iff]

/-- A token that is written and read again is the same just if it has no text, or one that is not
empty, has no white space at its ends and stands in no quotes; lists of such tokens come back in
order. Of every other token a shorter text is left, or none at all, and then it is refused. -/
theorem written_tokens_read_back :
    (∀ token : Token, read token.write = .ok token ↔ token.IsKept) ∧
    (∀ tokens : List Token,
      readTokens (tokens.map write) = .ok tokens ↔ ∀ token ∈ tokens, token.IsKept) ∧
    ∀ token : Token, ¬token.IsKept → read token.write = .error (.textMissing token.write) ∨
      ∃ text text', token.text? = some text ∧ text'.length < text.length ∧
        read token.write = .ok (token.withText text') :=
  ⟨fun _ ↦ read_write_eq_self_iff, fun _ ↦ readTokens_map_write_iff,
    fun _ ↦ read_write_of_not_isKept⟩

/-- Brackets, a quote on its own and the subject are kept as text; of quotes around white space only
the white space is left. -/
theorem odd_texts_read_back :
    readTokens ([.literal "it.)'(\n\"", .separator "'", .buildVersion, .buildVariantName].map write) =
      .ok [.literal "it.)'(\n\"", .separator "'", .buildVersion, .buildVariantName] ∧
    ¬(optionalSeparator "' '").IsKept ∧
    ∃ text text', (optionalSeparator "' '").text? = some text ∧ text'.length < text.length ∧
      read (optionalSeparator "' '").write = .ok (.optionalSeparator text') := by
  obtain ⟨hself, hlist, hother⟩ := written_tokens_read_back
  have hliteral := (hself (.literal "it.)'(\n\"")).1 (by decide)
  have hseparator := (hself (.separator "'")).1 (by decide)
  have hnot : ¬(optionalSeparator "' '").IsKept := fun h ↦ absurd ((hself _).2 h) (by decide)
  refine ⟨(hlist _).2 ?_, hnot, ?_⟩
  · simp only [List.forall_mem_cons]
    exact ⟨hliteral, hseparator, nofun, nofun, nofun⟩
  · rcases hother _ hnot with herror | hshorter
    · exact absurd herror (by decide)
    · exact hshorter

end Token

end BuildTags.Pattern
