import BuildTags.CommandLine.Word
import BuildTags.Proofs.List
import BuildTags.Proofs.Outcome
import BuildTags.Proofs.Text.Cut
import Mathlib.Data.List.Infix
import Mathlib.Data.List.Nodup

namespace BuildTags.CommandLine

/-- Whether a text names a setting: with its full name, or with the beginning of it and of no other
one. -/
def Setting.IsNamed (setting : Setting) (name : Text) : Prop :=
  ∃ entry ∈ settingWords, entry.2 = setting ∧ name <+: entry.1 ∧
    ∀ other ∈ settingWords, name <+: other.1 → other = entry

def written (name : Text) : (value : Option Text) → Text
  | none => name
  | some value => name ++ '=' :: value

def Setting.IsWritten (setting : Setting) (value : Option Text) (word : Text) : Prop :=
  ∃ name, setting.IsNamed name ∧ word = written name value

instance (setting : Setting) (name : Text) : Decidable (setting.IsNamed name) :=
  inferInstanceAs (Decidable (∃ entry ∈ settingWords, entry.2 = setting ∧ name <+: entry.1 ∧
    ∀ other ∈ settingWords, name <+: other.1 → other = entry))

variable {setting : Setting} {value : Option Text} {word name : Text}

theorem isNamed_of_mem : ∀ entry ∈ settingWords, entry.2.IsNamed entry.1 := by decide +kernel

theorem eq_or_exists_of_isNamed (h : setting.IsNamed name) :
    name = "-h" ∧ setting = .help ∨ ∃ rest, name = '-' :: '-' :: rest := by
  have hall : ∀ entry ∈ settingWords, ∀ name ∈ entry.1.inits, entry.2.IsNamed name →
      name = "-h" ∧ entry.2 = .help ∨ name.take 2 = ['-', '-'] := by decide +kernel
  obtain ⟨entry, hm, rfl, hp, -⟩ := id h
  obtain he | htake := hall entry hm name ((List.mem_inits _ _).2 hp) h
  · exact .inl he
  · exact .inr ⟨name.drop 2, by rw [← List.take_append_drop 2 name, htake]; rfl⟩

theorem notMem_of_isNamed (h : setting.IsNamed name) : '=' ∉ name := by
  have hall : ∀ entry ∈ settingWords, '=' ∉ entry.1 := by decide
  obtain ⟨entry, hm, -, hp, -⟩ := h
  exact fun he ↦ hall entry hm (hp.subset he)

theorem Setting.IsNamed.unique {setting' : Setting} (h : setting.IsNamed name)
    (h' : setting'.IsNamed name) : setting = setting' := by
  obtain ⟨entry, hm, rfl, hp, -⟩ := h
  obtain ⟨entry', -, rfl, -, hu⟩ := h'
  rw [hu entry hm hp]

theorem startsWith_iff {start text : Text} : Text.startsWith start text = true ↔ start <+: text := by
  rw [Text.startsWith, Option.isSome_iff_exists]
  exact exists_congr fun rest ↦ Text.after?_eq_some_iff.trans eq_comm

theorem atEquals_written (h : '=' ∉ name) (value : Option Text) :
    atEquals (written name value) = (name, value) := by
  cases value with
  | none =>
    have hcut : Text.cutFirst? "=" name = none := Text.cutFirst?_singleton_eq_none_iff.2 h
    rw [written, atEquals, hcut]
  | some value =>
    have hcut : Text.cutFirst? "=" (name ++ '=' :: value) = some (name, value) :=
      Text.cutFirst?_singleton_eq_some_iff.2 ⟨rfl, h⟩
    rw [written, atEquals, hcut]

theorem eq_of_atEquals (h : atEquals word = (name, value)) : word = written name value := by
  rw [atEquals] at h
  split at h
  · rename_i hcut
    obtain ⟨rfl, rfl⟩ := Prod.mk.inj h
    exact (Text.cutFirst?_singleton_eq_some_iff.1 hcut).1
  · obtain ⟨rfl, rfl⟩ := Prod.mk.inj h
    rfl

theorem mem_of_settingOf? (h : settingOf? word = some setting) : (word, setting) ∈ settingWords :=
  mem_of_find?_key h

theorem filter_of_isNamed (h : setting.IsNamed name) : ∃ full,
    (settingWords.filter fun (other, _) ↦ Text.startsWith name other) = [(full, setting)] := by
  obtain ⟨entry, hm, rfl, hp, hu⟩ := h
  refine ⟨entry.1, List.perm_singleton.1 ?_⟩
  apply (List.perm_ext_iff_of_nodup (List.Nodup.filter _ (by decide)) (List.nodup_singleton _)).2
  intro other
  rw [List.mem_filter, startsWith_iff, List.mem_singleton]
  constructor
  · rintro ⟨hm', hp'⟩
    exact hu other hm' hp'
  · rintro rfl
    exact ⟨hm, hp⟩

theorem isNamed_of_filter {full : Text}
    (h : (settingWords.filter fun (other, _) ↦ Text.startsWith name other) = [(full, setting)]) :
    setting.IsNamed name := by
  have hmem : ∀ other ∈ settingWords, name <+: other.1 ↔ other = (full, setting) := by
    intro other hm
    rw [← List.mem_singleton, ← h, List.mem_filter, startsWith_iff]
    exact ⟨fun hp ↦ ⟨hm, hp⟩, fun hp ↦ hp.2⟩
  have hfull : (full, setting) ∈ settingWords := by
    have hm : (full, setting) ∈ [(full, setting)] := List.mem_singleton_self _
    rw [← h] at hm
    exact (List.mem_filter.1 hm).1
  exact ⟨_, hfull, rfl, (hmem _ hfull).2 rfl, fun other hm ↦ (hmem other hm).1⟩

theorem isNamed_of_settingOf? (h : settingOf? word = some setting) : setting.IsNamed word :=
  isNamed_of_mem _ (mem_of_settingOf? h)

theorem settingOf?_written (name text : Text) : settingOf? (written name (some text)) = none := by
  apply Option.eq_none_iff_forall_ne_some.2
  intro setting h
  exact notMem_of_isNamed (isNamed_of_settingOf? h) (by simp [written])

theorem roleOf_of_dashes {rest : Text} (h : word = '-' :: '-' :: rest) :
    roleOf word = match settingOf? word, settingOf? (atEquals word).1 with
      | some setting, _ => .ok (.setting setting none)
      | none, some setting => .ok (.setting setting (atEquals word).2)
      | none, none =>
        match settingWords.filter fun (other, _) ↦ Text.startsWith (atEquals word).1 other with
        | [] => .ok (strayRole word)
        | [(_, setting)] => .ok (.setting setting (atEquals word).2)
        | several => .error (.ambiguous word (several.map (·.1))) := by
  subst h
  rfl

theorem Setting.IsWritten.unique {setting' : Setting} {value' : Option Text}
    (h : setting.IsWritten value word) (h' : setting'.IsWritten value' word) :
    setting = setting' ∧ value = value' := by
  obtain ⟨name, hn, rfl⟩ := h
  obtain ⟨name', hn', hw⟩ := h'
  have hat := atEquals_written (notMem_of_isNamed hn) value
  rw [hw, atEquals_written (notMem_of_isNamed hn')] at hat
  obtain ⟨rfl, rfl⟩ := Prod.mk.inj hat
  exact ⟨hn.unique hn', rfl⟩

theorem roleOf_written {rest : Text} (hn : setting.IsNamed name) (hd : name = '-' :: '-' :: rest)
    (value : Option Text) : roleOf (written name value) = .ok (.setting setting value) := by
  have hdashes : ∃ rest, written name value = '-' :: '-' :: rest := by
    rw [hd]
    cases value with
    | none => exact ⟨_, rfl⟩
    | some value => exact ⟨_, rfl⟩
  obtain ⟨rest', hword⟩ := hdashes
  rw [roleOf_of_dashes hword, atEquals_written (notMem_of_isNamed hn)]
  split
  · rename_i other ho
    cases value with
    | none => rw [(isNamed_of_settingOf? ho).unique hn]
    | some value =>
      rw [settingOf?_written] at ho
      cases ho
  · rename_i other _ ho
    rw [(isNamed_of_settingOf? ho).unique hn]
  · obtain ⟨full, hfilter⟩ := filter_of_isNamed hn
    rw [hfilter]

theorem roleOf_helpLetter (text : Text) :
    roleOf (written "-h" (some text)) = .ok (.letter text true) := by
  have hword : settingOf? ('-' :: 'h' :: '=' :: text) = none := settingOf?_written "-h" text
  have hat : atEquals ('-' :: 'h' :: '=' :: text) = (['-', 'h'], some text) :=
    atEquals_written (show '=' ∉ ['-', 'h'] by decide) (some text)
  show roleOf ('-' :: 'h' :: '=' :: text) = _
  simp only [roleOf, hword, hat]
  rfl

theorem not_isWritten_of_plain (h : roleOf word = .ok .plain) (setting : Setting)
    (value : Option Text) : ¬setting.IsWritten value word := by
  rintro ⟨name, hn, rfl⟩
  obtain ⟨rfl, rfl⟩ | ⟨rest, hd⟩ := eq_or_exists_of_isNamed hn
  · cases value with
    | none => exact absurd h (by decide)
    | some text =>
      rw [roleOf_helpLetter] at h
      cases h
  · rw [roleOf_written hn hd] at h
    cases h

theorem strayRole_eq (word : Text) : strayRole word = .plain ∨ strayRole word = .unknown := by
  rw [strayRole]
  split
  · exact .inl rfl
  · exact .inr rfl

theorem roleOf_cases {role : Role} (h : roleOf word = .ok role) :
    (role = .plain ∨ role = .unknown) ∨ (∃ value equals, role = .letter value equals) ∨
      ∃ setting value, role = .setting setting value ∧ setting.IsWritten value word := by
  have hword : word = written (atEquals word).1 (atEquals word).2 := eq_of_atEquals rfl
  have hstray := strayRole_eq word
  unfold roleOf at h
  split at h
  · cases h
    exact .inl (.inl rfl)
  · cases h
    exact .inl (.inl rfl)
  · dsimp only at h
    split at h
    · rename_i hs
      cases h
      exact .inr (.inr ⟨_, _, rfl, _, isNamed_of_settingOf? hs, rfl⟩)
    · rename_i hs
      split at h
      · cases h
        exact .inr (.inr ⟨_, _, rfl, _, isNamed_of_settingOf? hs, hword⟩)
      · cases h
        exact .inr (.inl ⟨_, _, rfl⟩)
    · split at h
      · split at h
        · cases h
          exact .inl hstray
        · rename_i hfilter
          cases h
          exact .inr (.inr ⟨_, _, rfl, _, isNamed_of_filter hfilter, hword⟩)
        · cases h
      · split at h
        · cases h
          exact .inr (.inl ⟨_, _, rfl⟩)
        · cases h
          exact .inl hstray
  · cases h
    exact .inl (.inl rfl)

theorem isWritten_of_roleOf (h : roleOf word = .ok (.setting setting value)) :
    setting.IsWritten value word := by
  obtain (hr | hr) | ⟨text, equals, hr⟩ | ⟨setting, value, hr, hw⟩ := roleOf_cases h
  · cases hr
  · cases hr
  · cases hr
  · cases hr
    exact hw

theorem roleOf_ne_stopMark (word : Text) : roleOf word ≠ .ok .stopMark := by
  intro h
  obtain (hr | hr) | ⟨text, equals, hr⟩ | ⟨setting, value, hr, -⟩ := roleOf_cases h <;> cases hr

end BuildTags.CommandLine
