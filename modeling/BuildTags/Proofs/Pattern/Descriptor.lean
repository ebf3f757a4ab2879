import BuildTags.Pattern.Descriptor
import BuildTags.Proofs.List
import BuildTags.Proofs.Outcome
import BuildTags.Proofs.Text.Trim
import Mathlib.Data.List.Forall2

namespace BuildTags.Pattern

namespace Descriptor

/-- A leading subject, with white space around its dot, or nothing. -/
inductive IsSubject : Text → Prop
  | absent : IsSubject []
  | present {before after : Text} (h : Text.blank before = true) (h' : Text.blank after = true) :
      IsSubject ("it" ++ (before ++ '.' :: after))

structure IsName (name : Text) : Prop where
  ne_nil : name ≠ []
  letters : ∀ c ∈ name, c.isAlpha = true ∨ c = '_'

inductive Writes (form : Descriptor) : Text → Prop
  | intro {start subject middle stop : Text} (hs : Text.blank start = true)
      (isSubject : IsSubject subject) (isName : IsName form.name) (hm : Text.blank middle = true)
      (ht : Text.blank stop = true) :
      Writes form (start ++ (subject ++
        (form.name ++ (middle ++ '(' :: (form.argument ++ ')' :: stop)))))

variable {text rest more middle name : Text} {form : Descriptor} {c : Char}

theorem isNameChar_iff : isNameChar c = true ↔ c.isAlpha = true ∨ c = '_' := by
  rw [isNameChar, Bool.or_eq_true, decide_eq_true_eq]

theorem not_blank_of_isNameChar (h : isNameChar c = true) : Text.isBlank c = false := by
  rcases isNameChar_iff.1 h with h | rfl
  · have hc := Text.toNat_of_isAlpha h
    exact Text.isBlank_of_visible (by omega) (by omega)
  · decide

theorem IsName.isNameChar (h : IsName name) : ∀ c ∈ name, isNameChar c = true :=
  fun c hc ↦ isNameChar_iff.2 (h.letters c hc)

theorem IsName.trimStart_append (h : IsName name) (rest : Text) :
    Text.trimStart (name ++ rest) = name ++ rest := by
  obtain ⟨c, letters, rfl⟩ := List.exists_cons_of_ne_nil h.ne_nil
  have hc := h.isNameChar c List.mem_cons_self
  exact Text.trimStart_cons_of_not_blank (not_blank_of_isNameChar hc) (letters ++ rest)

theorem IsSubject.trimStart_append {subject : Text} (h : IsSubject subject) (hn : IsName name)
    (rest : Text) :
    Text.trimStart (subject ++ (name ++ rest)) = subject ++ (name ++ rest) := by
  cases h with
  | absent => exact hn.trimStart_append rest
  | present _ _ => exact Text.trimStart_cons_of_not_blank (by decide) _

theorem trimStart_bracket (hm : Text.blank middle = true) (rest : Text) :
    Text.trimStart (middle ++ '(' :: rest) = '(' :: rest := by
  rw [Text.trimStart_append_of_blank hm]
  exact Text.trimStart_cons_of_not_blank (by decide) rest

theorem dropWhile_bracket (hm : Text.blank middle = true) (rest : Text) :
    (middle ++ '(' :: rest).dropWhile isNameChar = middle ++ '(' :: rest := by
  cases middle with
  | nil => exact List.dropWhile_cons_of_neg (by decide)
  | cons c middle =>
    refine List.dropWhile_cons_of_neg fun hc ↦ ?_
    have hblank := (Text.blank_cons_iff.1 hm).1
    rw [not_blank_of_isNameChar hc] at hblank
    cases hblank

section

variable (hn : ∀ c ∈ name, isNameChar c = true) (hm : Text.blank middle = true)

include hn hm

theorem dropWhile_name (rest : Text) :
    (name ++ (middle ++ '(' :: rest)).dropWhile isNameChar = middle ++ '(' :: rest := by
  rw [List.dropWhile_append_of_pos hn, dropWhile_bracket hm]

theorem takeWhile_name (rest : Text) :
    (name ++ (middle ++ '(' :: rest)).takeWhile isNameChar = name := by
  have h := List.takeWhile_append_dropWhile (p := isNameChar) (l := name ++ (middle ++ '(' :: rest))
  rw [dropWhile_name hn hm] at h
  exact List.append_cancel_right h

/-- After letters of a name and a bracket no dot comes first. -/
theorem trimStart_name_ne (rest more : Text) :
    Text.trimStart (name ++ (middle ++ '(' :: rest)) ≠ '.' :: more := by
  intro h
  cases name with
  | nil =>
    rw [List.nil_append, trimStart_bracket hm] at h
    cases h
  | cons c name =>
    have hc := hn c List.mem_cons_self
    rw [List.cons_append, Text.trimStart_cons_of_not_blank (not_blank_of_isNameChar hc)] at h
    cases h
    cases hc

theorem withoutSubject_name (rest : Text) :
    withoutSubject (name ++ (middle ++ '(' :: rest)) = name ++ (middle ++ '(' :: rest) := by
  rw [withoutSubject]
  split
  · rename_i after ha
    -- The letters of the subject are those that the name begins with.
    have htext := Text.eq_append_of_after? ha
    have hdrop := dropWhile_name hn hm rest
    have hsubject : ∀ c ∈ ("it" : Text), isNameChar c = true := List.all_eq_true.1 (by decide)
    rw [htext, List.dropWhile_append_of_pos hsubject] at hdrop
    have hafter := List.takeWhile_append_dropWhile (p := isNameChar) (l := after)
    rw [hdrop] at hafter
    split
    · rename_i more hmore
      rw [← hafter] at hmore
      exact absurd hmore (trimStart_name_ne (fun c hc ↦ List.mem_takeWhile_imp hc) hm rest more)
    · rfl
  · rfl

end

theorem IsSubject.withoutSubject_append {subject : Text} (h : IsSubject subject) (hn : IsName name)
    (hm : Text.blank middle = true) (rest : Text) :
    withoutSubject (subject ++ (name ++ (middle ++ '(' :: rest))) =
      name ++ (middle ++ '(' :: rest) := by
  cases h with
  | absent => exact withoutSubject_name hn.isNameChar hm rest
  | @present before after hb ha =>
    have hdot : Text.trimStart (before ++ '.' :: (after ++ (name ++ (middle ++ '(' :: rest)))) =
        '.' :: (after ++ (name ++ (middle ++ '(' :: rest))) := by
      rw [Text.trimStart_append_of_blank hb]
      exact Text.trimStart_cons_of_not_blank (by decide) _
    rw [withoutSubject, List.append_assoc, List.append_assoc, List.cons_append, Text.after?_append]
    simp only [hdot, Text.trimStart_append_of_blank ha, hn.trimStart_append]

theorem exists_subject (text : Text) :
    ∃ subject, IsSubject subject ∧ text = subject ++ withoutSubject text := by
  rw [withoutSubject]
  split
  · rename_i rest hr
    obtain rfl := Text.eq_append_of_after? hr
    split
    · rename_i more hmore
      obtain ⟨before, hb, hbefore⟩ := Text.exists_trimStart rest
      obtain ⟨after, ha, hafter⟩ := Text.exists_trimStart more
      refine ⟨_, .present hb ha, ?_⟩
      rw [List.append_assoc, List.append_assoc, List.cons_append, ← hafter, ← hmore, ← hbefore]
    · exact ⟨[], .absent, rfl⟩
  · exact ⟨[], .absent, rfl⟩

theorem read?_eq_some_iff_parts : read? text = some form ↔ ∃ rest,
    (withoutSubject (Text.trimStart text)).takeWhile isNameChar = form.name ∧ form.name ≠ [] ∧
    Text.trimStart ((withoutSubject (Text.trimStart text)).dropWhile isNameChar) = '(' :: rest ∧
    Text.trimEnd rest = form.argument ++ [')'] := by
  obtain ⟨name, argument⟩ := form
  rw [read?]
  constructor
  · intro h
    split at h
    · cases h
    · rename_i letters rest hrest hne
      split at h
      · rename_i reversed hr
        cases h
        refine ⟨rest, rfl, hne, hrest, ?_⟩
        rw [← List.reverse_cons, ← hr, List.reverse_reverse]
      · cases h
    · cases h
  · rintro ⟨rest, hname, hne, hrest, hargument⟩
    simp only at hname hne hargument
    obtain ⟨c, letters, rfl⟩ := List.exists_cons_of_ne_nil hne
    rw [hname, hrest]
    simp [hargument]

theorem read?_eq_some_iff : read? text = some form ↔ Writes form text := by
  rw [read?_eq_some_iff_parts]
  constructor
  · rintro ⟨rest, hname, hne, hrest, hargument⟩
    obtain ⟨start, hs, hstart⟩ := Text.exists_trimStart text
    obtain ⟨subject, hsubject, hbody⟩ := exists_subject (Text.trimStart text)
    have hsplit := List.takeWhile_append_dropWhile (p := isNameChar)
      (l := withoutSubject (Text.trimStart text))
    obtain ⟨middle, hm, hmiddle⟩ := Text.exists_trimStart
      ((withoutSubject (Text.trimStart text)).dropWhile isNameChar)
    obtain ⟨stop, ht, hstop⟩ := Text.exists_trimEnd rest
    rw [hargument, List.append_assoc, List.singleton_append] at hstop
    rw [hrest, hstop] at hmiddle
    rw [hname, hmiddle] at hsplit
    have hletters : IsName form.name := by
      refine ⟨hne, fun c hc ↦ isNameChar_iff.1 ?_⟩
      rw [← hname] at hc
      exact List.mem_takeWhile_imp hc
    rw [hstart, hbody, ← hsplit]
    exact .intro hs hsubject hletters hm ht
  · rintro @⟨start, subject, middle, stop, hs, hsubject, hname, hm, ht⟩
    have hbody : withoutSubject (Text.trimStart (start ++ (subject ++
        (form.name ++ (middle ++ '(' :: (form.argument ++ ')' :: stop)))))) =
          form.name ++ (middle ++ '(' :: (form.argument ++ ')' :: stop)) := by
      rw [Text.trimStart_append_of_blank hs, hsubject.trimStart_append hname,
        hsubject.withoutSubject_append hname hm]
    have hargument : Text.trimEnd (form.argument ++ ')' :: stop) = form.argument ++ [')'] := by
      rw [Text.trimEnd_append_cons (by decide), ← List.nil_append stop,
        Text.trimEnd_append_of_blank [] ht]
      rfl
    refine ⟨form.argument ++ ')' :: stop, ?_, hname.ne_nil, ?_, hargument⟩
    · rw [hbody, takeWhile_name hname.isNameChar hm]
    · rw [hbody, dropWhile_name hname.isNameChar hm, trimStart_bracket hm]

theorem Writes.unique {form' : Descriptor} (h : Writes form text) (h' : Writes form' text) :
    form = form' :=
  Option.some.inj ((read?_eq_some_iff.2 h).symm.trans (read?_eq_some_iff.2 h'))

def IsQuote (c : Char) : Prop := c = '\x27' ∨ c = '"'

inductive Unquotes : Text → Text → Prop
  | quoted {mark : Char} (h : IsQuote mark) (text : Text) : Unquotes (mark :: (text ++ [mark])) text
  | plain {text : Text} (h : ∀ mark inner, IsQuote mark → text ≠ mark :: (inner ++ [mark])) :
      Unquotes text text

/-- Whether an argument holds a text: without the white space at the ends of the argument, and then
without quotes. -/
inductive Holds : Text → Text → Prop
  | intro {start core stop text : Text} (hs : Text.blank start = true) (ht : Text.blank stop = true)
      (isTrimmed : Text.IsTrimmed core) (unquotes : Unquotes core text) :
      Holds (start ++ (core ++ stop)) text

theorem unquotes_trim (argument : Text) : Unquotes (Text.trim argument) (withoutQuotes argument) := by
  rw [withoutQuotes]
  cases Text.trim argument with
  | nil => exact .plain nofun
  | cons mark rest =>
    simp only
    split
    · rename_i h
      obtain ⟨inner, rfl⟩ := List.getLast?_eq_some_iff.1 h.2
      rw [List.dropLast_concat]
      exact .quoted h.1 inner
    · rename_i h
      refine .plain fun mark' inner hq he ↦ h ?_
      cases he
      exact ⟨hq, List.getLast?_concat⟩

theorem Unquotes.unique {core text text' : Text} (h : Unquotes core text) (h' : Unquotes core text') :
    text = text' := by
  cases h with
  | @quoted mark hq text =>
    generalize he : mark :: (text ++ [mark]) = core at h'
    cases h' with
    | quoted hq' text' =>
      obtain ⟨rfl, hinner⟩ := List.cons.inj he
      exact List.append_cancel_right hinner
    | plain hp => exact absurd he.symm (hp mark text hq)
  | plain hp =>
    cases h' with
    | quoted hq' text' => exact absurd rfl (hp _ text' hq')
    | plain _ => rfl

theorem withoutQuotes_eq_iff {argument : Text} :
    withoutQuotes argument = text ↔ Holds argument text := by
  constructor
  · rintro rfl
    obtain ⟨start, stop, hs, ht, he⟩ := Text.exists_trim argument
    have h := Holds.intro hs ht (Text.isTrimmed_trim argument) (unquotes_trim argument)
    rwa [← he] at h
  · rintro @⟨start, core, stop, _, hs, ht, htrim, hu⟩
    have h := unquotes_trim (start ++ (core ++ stop))
    rw [htrim.trim_append hs ht] at h
    exact h.unique hu

end Descriptor

open Descriptor (Writes Holds plainName)

inductive Token.Named (name text : Text) : Token → Prop
  | literal (hn : name = "literal") (ht : text ≠ []) : Named name text (.literal text)
  | separator (hn : name = "separator") (ht : text ≠ []) : Named name text (.separator text)
  | optionalSeparator (hn : name = "optionalseparator") (ht : text ≠ []) :
      Named name text (.optionalSeparator text)
  | anyBeforeDot (hn : name = "anybeforedot") (ht : text = []) : Named name text .anyBeforeDot
  | buildVersion (hn : name = "buildversion") (ht : text = []) : Named name text .buildVersion
  | buildVariantName (hn : name = "buildvariantname") (ht : text = []) :
      Named name text .buildVariantName
  | anyOptionalSymbols (hn : name = "anyoptionalsymbols") (ht : text = []) :
      Named name text .anyOptionalSymbols

def namesWithText : List Text := ["literal", "separator", "optionalseparator"]

def namesWithoutText : List Text :=
  ["anybeforedot", "buildversion", "buildvariantname", "anyoptionalsymbols"]

namespace Token

/-- Whether a descriptor stands for a token: its name, in small letters and without low lines, is the
one of the token, and its argument holds the text of the token. -/
inductive StandsFor (descriptor : Text) : Token → Prop
  | intro {form : Descriptor} {text : Text} {token : Token} (writes : form.Writes descriptor)
      (holds : Holds form.argument text) (named : Named (plainName form.name) text token) :
      StandsFor descriptor token

inductive Refused (descriptor : Text) : Fault → Prop
  | unwritten (h : ∀ form : Descriptor, ¬form.Writes descriptor) :
      Refused descriptor (.invalidDescriptor descriptor)
  | empty {form : Descriptor} (writes : form.Writes descriptor)
      (hn : plainName form.name ∈ namesWithText) (holds : Holds form.argument []) :
      Refused descriptor (.textMissing descriptor)
  | argument {form : Descriptor} {text : Text} (writes : form.Writes descriptor)
      (hn : plainName form.name ∈ namesWithoutText) (holds : Holds form.argument text)
      (ht : text ≠ []) : Refused descriptor (.argumentUnexpected descriptor)
  | unknown {form : Descriptor} (writes : form.Writes descriptor)
      (hn : plainName form.name ∉ namesWithText ++ namesWithoutText) :
      Refused descriptor (.unknownToken form.name descriptor)

variable {name text key descriptor : Text} {token : Token} {make : Text → Token} {fault : Fault}
  {form : Descriptor}

theorem named_of_find?_withText (h : tokensWithText.find? (·.1 = name) = some (key, make))
    (ht : text ≠ []) : Named name text (make text) := by
  have hm := mem_of_find?_key (congrArg (Option.map (·.2)) h)
  simp only [tokensWithText, List.mem_cons, Prod.mk.injEq, List.not_mem_nil, or_false] at hm
  rcases hm with ⟨rfl, rfl⟩ | ⟨rfl, rfl⟩ | ⟨rfl, rfl⟩
  · exact .literal rfl ht
  · exact .separator rfl ht
  · exact .optionalSeparator rfl ht

theorem named_of_find?_withoutText (h : tokensWithoutText.find? (·.1 = name) = some (key, token)) :
    Named name [] token := by
  have hm := mem_of_find?_key (congrArg (Option.map (·.2)) h)
  simp only [tokensWithoutText, List.mem_cons, Prod.mk.injEq, List.not_mem_nil, or_false] at hm
  rcases hm with ⟨rfl, rfl⟩ | ⟨rfl, rfl⟩ | ⟨rfl, rfl⟩ | ⟨rfl, rfl⟩
  · exact .anyBeforeDot rfl rfl
  · exact .buildVersion rfl rfl
  · exact .buildVariantName rfl rfl
  · exact .anyOptionalSymbols rfl rfl

theorem read_of_unwritten (h : ∀ form : Descriptor, ¬form.Writes descriptor) :
    read descriptor = .error (.invalidDescriptor descriptor) := by
  have hnone : Descriptor.read? descriptor = none := by
    apply Option.eq_none_iff_forall_ne_some.2
    intro form hform
    exact h form (Descriptor.read?_eq_some_iff.1 hform)
  rw [read, hnone]

theorem read_of_unknown (hw : form.Writes descriptor) (h : plainName form.name ∉ namesWithText)
    (h' : plainName form.name ∉ namesWithoutText) :
    read descriptor = .error (.unknownToken form.name descriptor) := by
  simp only [read, Descriptor.read?_eq_some_iff.2 hw, (find?_key_eq_none_iff tokensWithText).2 h,
    (find?_key_eq_none_iff tokensWithoutText).2 h']

section

variable (hw : form.Writes descriptor) (hh : Holds form.argument text)

include hw hh

theorem read_of_withText
    (h : tokensWithText.find? (·.1 = plainName form.name) = some (key, make)) :
    read descriptor =
      if text = [] then .error (.textMissing descriptor) else .ok (make text) := by
  simp only [read, Descriptor.read?_eq_some_iff.2 hw, Descriptor.withoutQuotes_eq_iff.2 hh, h]

theorem read_of_withoutText (h : plainName form.name ∉ namesWithText)
    (h' : tokensWithoutText.find? (·.1 = plainName form.name) = some (key, token)) :
    read descriptor =
      if text = [] then .ok token else .error (.argumentUnexpected descriptor) := by
  simp only [read, Descriptor.read?_eq_some_iff.2 hw, Descriptor.withoutQuotes_eq_iff.2 hh,
    (find?_key_eq_none_iff tokensWithText).2 h, h']

theorem read_of_named (hn : Named (plainName form.name) text token) :
    read descriptor = .ok token := by
  cases hn with
  | literal hn ht | separator hn ht | optionalSeparator hn ht =>
    rw [read_of_withText hw hh (by rw [hn]; rfl), if_neg ht]
  | anyBeforeDot hn ht | buildVersion hn ht | buildVariantName hn ht | anyOptionalSymbols hn ht =>
    rw [read_of_withoutText hw hh (by rw [hn]; decide) (by rw [hn]; rfl), if_pos ht]

/-- The names are told apart, and then those whose text is there from those whose text is missing. -/
theorem read_cases_of_writes :
    (∃ token, read descriptor = .ok token ∧ StandsFor descriptor token) ∨
      ∃ fault, read descriptor = .error fault ∧ Refused descriptor fault := by
  by_cases hn : plainName form.name ∈ namesWithText
  · obtain ⟨found, hfound⟩ := (find?_key_ne_none_iff tokensWithText).2 hn
    rw [read_of_withText hw hh hfound]
    by_cases ht : text = []
    · exact .inr ⟨_, if_pos ht, .empty hw hn (ht ▸ hh)⟩
    · exact .inl ⟨_, if_neg ht, .intro hw hh (named_of_find?_withText hfound ht)⟩
  · by_cases hm : plainName form.name ∈ namesWithoutText
    · obtain ⟨found, hfound⟩ := (find?_key_ne_none_iff tokensWithoutText).2 hm
      rw [read_of_withoutText hw hh hn hfound]
      by_cases ht : text = []
      · exact .inl ⟨_, if_pos ht, .intro hw (ht ▸ hh) (named_of_find?_withoutText hfound)⟩
      · exact .inr ⟨_, if_neg ht, .argument hw hm hh ht⟩
    · rw [read_of_unknown hw hn hm]
      exact .inr ⟨_, rfl, .unknown hw (by simp [hn, hm])⟩

end

theorem read_cases (descriptor : Text) :
    (∃ token, read descriptor = .ok token ∧ StandsFor descriptor token) ∨
      ∃ fault, read descriptor = .error fault ∧ Refused descriptor fault := by
  by_cases hform : ∃ form : Descriptor, form.Writes descriptor
  · obtain ⟨form, hw⟩ := hform
    exact read_cases_of_writes hw (Descriptor.withoutQuotes_eq_iff.1 rfl)
  · have hnone := not_exists.1 hform
    exact .inr ⟨_, read_of_unwritten hnone, .unwritten hnone⟩

theorem read_eq_ok_iff : read descriptor = .ok token ↔ StandsFor descriptor token := by
  constructor
  · intro h
    rcases read_cases descriptor with ⟨token', hr, hs⟩ | ⟨fault, hr, -⟩
    · rw [h] at hr
      cases hr
      exact hs
    · rw [h] at hr
      cases hr
  · rintro ⟨hw, hh, hn⟩
    exact read_of_named hw hh hn

theorem read_of_refused (h : Refused descriptor fault) : read descriptor = .error fault := by
  cases h with
  | unwritten h => exact read_of_unwritten h
  | empty hw hn hh =>
    obtain ⟨found, hfound⟩ := (find?_key_ne_none_iff tokensWithText).2 hn
    rw [read_of_withText hw hh hfound, if_pos rfl]
  | argument hw hn hh ht =>
    have hapart : ∀ name ∈ namesWithoutText, name ∉ namesWithText := by decide
    obtain ⟨found, hfound⟩ := (find?_key_ne_none_iff tokensWithoutText).2 hn
    rw [read_of_withoutText hw hh (hapart _ hn) hfound, if_neg ht]
  | unknown hw hn =>
    rw [List.mem_append, not_or] at hn
    exact read_of_unknown hw hn.1 hn.2

theorem read_eq_error_iff : read descriptor = .error fault ↔ Refused descriptor fault := by
  constructor
  · intro h
    rcases read_cases descriptor with ⟨token, hr, -⟩ | ⟨fault', hr, hrefused⟩
    · rw [h] at hr
      cases hr
    · rw [h] at hr
      cases hr
      exact hrefused
  · exact read_of_refused

/-- A descriptor gives a token just if it stands for one; its name and its argument are unique, and
every other descriptor is refused. -/
theorem descriptor_grammar (descriptor : Text) :
    (∀ token, read descriptor = .ok token ↔ StandsFor descriptor token) ∧
    (∀ form form' : Descriptor, form.Writes descriptor → form'.Writes descriptor → form = form') ∧
    (∀ fault, read descriptor = .error fault ↔ Refused descriptor fault) ∧
    ((∀ token, ¬StandsFor descriptor token) → ∃ fault, read descriptor = .error fault) := by
  refine ⟨fun _ ↦ read_eq_ok_iff, fun _ _ ↦ Writes.unique, fun _ ↦ read_eq_error_iff, fun h ↦ ?_⟩
  rcases read_cases descriptor with ⟨token, -, hs⟩ | ⟨fault, hr, -⟩
  · exact absurd hs (h token)
  · exact ⟨fault, hr⟩

/-- Brackets, quotes and white space inside of an argument belong to the text. -/
theorem quoted_brackets_read :
    ∃ form : Descriptor, form.Writes "\t it . Optional_SEPARATOR ( \" it's)(\" ) \n" ∧
      (∀ form' : Descriptor,
        form'.Writes "\t it . Optional_SEPARATOR ( \" it's)(\" ) \n" → form' = form) ∧
      form = ⟨"Optional_SEPARATOR", " \" it's)(\" "⟩ ∧
      StandsFor "\t it . Optional_SEPARATOR ( \" it's)(\" ) \n" (.optionalSeparator " it's)(") ∧
      Refused "literal('')" (.textMissing "literal('')") := by
  let form : Descriptor := ⟨"Optional_SEPARATOR", " \" it's)(\" "⟩
  obtain ⟨hread, hunique, -, -⟩ := descriptor_grammar "\t it . Optional_SEPARATOR ( \" it's)(\" ) \n"
  obtain ⟨-, -, hrefused, -⟩ := descriptor_grammar "literal('')"
  have hw : form.Writes "\t it . Optional_SEPARATOR ( \" it's)(\" ) \n" :=
    Descriptor.read?_eq_some_iff.1 (by decide)
  exact ⟨form, hw, fun form' h ↦ hunique form' form h hw, rfl, (hread _).1 (by decide),
    (hrefused _).1 (by decide)⟩

end Token

theorem readTokens_eq_ok_iff {descriptors : List Text} {tokens : List Token} :
    readTokens descriptors = .ok tokens ↔
      List.Forall₂ (fun descriptor token ↦ Token.read descriptor = .ok token) descriptors tokens := by
  induction descriptors generalizing tokens with
  | nil => cases tokens <;> simp [readTokens]
  | cons descriptor descriptors ih =>
    rw [readTokens, bind_eq_ok_iff]
    constructor
    · rintro ⟨token, ht, h⟩
      obtain ⟨rest, hr, h⟩ := bind_eq_ok_iff.1 h
      cases h
      exact .cons ht (ih.1 hr)
    · intro h
      cases h with
      | cons ht hr => exact ⟨_, ht, bind_eq_ok_iff.2 ⟨_, ih.2 hr, rfl⟩⟩

end BuildTags.Pattern
