import BuildTags.Proofs.CommandLine.Word

namespace BuildTags.CommandLine

inductive Item
  | command (command : Command)
  | value (setting : Setting) (text : Text)
  | debug
  deriving DecidableEq

def IsPlain (word : Text) : Prop :=
  word ≠ "--" ∧ ∀ (setting : Setting) (value : Option Text), ¬setting.IsWritten value word

/-- Whether words begin with those that say one thing: a setting and its value, in one word or in two,
that debug notes are wanted, or the command, which may follow two dashes if nothing follows it. -/
inductive Opens : (words : List Text) → Item → (rest : List Text) → Prop
  | joined {setting : Setting} {word text : Text} {words : List Text}
      (h : setting.IsWritten (some text) word) (ht : setting.takesValue = true) :
      Opens (word :: words) (.value setting text) words
  | apart {setting : Setting} {word text : Text} {words : List Text}
      (h : setting.IsWritten none word) (ht : setting.takesValue = true) (hp : IsPlain text) :
      Opens (word :: text :: words) (.value setting text) words
  | debug {word : Text} {words : List Text} (h : Setting.debug.IsWritten none word) :
      Opens (word :: words) .debug words
  | command {word : Text} {command : Command} {words : List Text}
      (h : Command.ofName? word = some command) : Opens (word :: words) (.command command) words
  | marked {word : Text} {command : Command} (h : Command.ofName? word = some command) :
      Opens ["--", word] (.command command) []

/-- The things that words say, in their order. Two dashes at the end say nothing. -/
inductive Says : List Text → List Item → Prop
  | nil : Says [] []
  | mark : Says ["--"] []
  | step {words rest : List Text} {item : Item} {items : List Item} (h : Opens words item rest)
      (hr : Says rest items) : Says words (item :: items)

def Setting.IsGiven (setting : Setting) (words : List Text) : Prop :=
  ∃ word ∈ words, ∃ value, setting.IsWritten value word

def GivesCommand (words : List Text) : Prop :=
  ∃ items command, Says words items ∧ .command command ∈ items

def Item.valueOf? (setting : Setting) : Item → Option Text
  | .value other text => if other = setting then some text else none
  | _ => none

def Item.command? : Item → Option Command
  | .command name => some name
  | _ => none

def lastValue? (setting : Setting) (items : List Item) : Option Text :=
  (items.filterMap (Item.valueOf? setting)).getLast?

def firstCommand? (items : List Item) : Option Command := (items.filterMap Item.command?).head?

variable {words rest rest' : List Text} {item item' : Item} {items items' : List Item} {word : Text}
  {setting : Setting} {value : Option Text} {text : Text} {command : Command}

theorem isPlain_of_ofName? (h : Command.ofName? word = some command) : IsPlain word := by
  have hall : ∀ entry ∈ Command.named, entry.1 ≠ "--" ∧ roleOf entry.1 = .ok .plain := by
    decide +kernel
  obtain ⟨hmark, hrole⟩ := hall _ (mem_of_find?_key h)
  exact ⟨hmark, not_isWritten_of_plain hrole⟩

theorem not_isWritten_mark (setting : Setting) (value : Option Text) :
    ¬setting.IsWritten value "--" := by
  have hall : ∀ setting ∈ settingWords.map (·.2), ¬setting.IsNamed "--" := by decide +kernel
  rintro ⟨name, hn, hw⟩
  cases value with
  | none =>
    obtain ⟨entry, hm, rfl, -⟩ := id hn
    rw [written] at hw
    rw [← hw] at hn
    exact hall _ (List.mem_map_of_mem hm) hn
  | some text =>
    have hmem : '=' ∈ ("--" : Text) := by
      rw [hw]
      simp [written]
    exact absurd hmem (by decide)

theorem Opens.of_isWritten (h : Opens (word :: words) item rest) (hw : setting.IsWritten value word) :
    (∃ text, item = .value setting text ∧ setting.takesValue = true ∧
        (value = some text ∧ rest = words ∨ value = none ∧ IsPlain text ∧ words = text :: rest)) ∨
      item = .debug ∧ setting = .debug ∧ value = none ∧ rest = words := by
  cases h with
  | joined hw' ht =>
    obtain ⟨rfl, rfl⟩ := hw.unique hw'
    exact .inl ⟨_, rfl, ht, .inl ⟨rfl, rfl⟩⟩
  | apart hw' ht hp =>
    obtain ⟨rfl, rfl⟩ := hw.unique hw'
    exact .inl ⟨_, rfl, ht, .inr ⟨rfl, hp, rfl⟩⟩
  | debug hw' =>
    obtain ⟨rfl, rfl⟩ := hw.unique hw'
    exact .inr ⟨rfl, rfl, rfl, rfl⟩
  | command hc => exact absurd hw ((isPlain_of_ofName? hc).2 _ _)
  | marked => exact absurd hw (not_isWritten_mark _ _)

theorem Opens.of_isPlain (h : Opens (word :: words) item rest) (hp : IsPlain word) :
    rest = words ∧ ∃ command, Command.ofName? word = some command ∧ item = .command command := by
  cases h with
  | joined hw => exact absurd hw (hp.2 _ _)
  | apart hw => exact absurd hw (hp.2 _ _)
  | debug hw => exact absurd hw (hp.2 _ _)
  | command hc => exact ⟨rfl, _, hc, rfl⟩
  | marked => exact absurd rfl hp.1

theorem Opens.of_mark (h : Opens ("--" :: words) item rest) :
    ∃ word command, words = [word] ∧ rest = [] ∧ Command.ofName? word = some command ∧
      item = .command command := by
  cases h with
  | joined hw => exact absurd hw (not_isWritten_mark _ _)
  | apart hw => exact absurd hw (not_isWritten_mark _ _)
  | debug hw => exact absurd hw (not_isWritten_mark _ _)
  | command hc => exact absurd rfl (isPlain_of_ofName? hc).1
  | marked hc => exact ⟨_, _, rfl, rfl, hc, rfl⟩

theorem Opens.unique (h : Opens words item rest) (h' : Opens words item' rest') :
    item = item' ∧ rest = rest' := by
  cases h with
  | joined hw ht =>
    obtain ⟨text, rfl, -, ⟨hv, rfl⟩ | ⟨hv, -⟩⟩ | ⟨-, rfl, -⟩ := h'.of_isWritten hw
    · cases hv
      exact ⟨rfl, rfl⟩
    · cases hv
    · cases ht
  | apart hw ht =>
    obtain ⟨text, rfl, -, ⟨hv, -⟩ | ⟨-, -, hwords⟩⟩ | ⟨-, rfl, -⟩ := h'.of_isWritten hw
    · cases hv
    · cases hwords
      exact ⟨rfl, rfl⟩
    · cases ht
  | debug hw =>
    obtain ⟨text, -, ht, -⟩ | ⟨rfl, -, -, rfl⟩ := h'.of_isWritten hw
    · cases ht
    · exact ⟨rfl, rfl⟩
  | command hc =>
    obtain ⟨rfl, command, hc', rfl⟩ := h'.of_isPlain (isPlain_of_ofName? hc)
    rw [hc] at hc'
    cases hc'
    exact ⟨rfl, rfl⟩
  | marked hc =>
    obtain ⟨word, command, hwords, rfl, hc', rfl⟩ := h'.of_mark
    cases hwords
    rw [hc] at hc'
    cases hc'
    exact ⟨rfl, rfl⟩

theorem Says.unique (h : Says words items) (h' : Says words items') : items = items' := by
  induction h generalizing items' with
  | nil =>
    cases h' with
    | nil => rfl
    | step hopens => cases hopens
  | mark =>
    cases h' with
    | mark => rfl
    | step hopens =>
      obtain ⟨word, command, hwords, -⟩ := hopens.of_mark
      cases hwords
  | step hopens hr ih =>
    cases h' with
    | nil => cases hopens
    | mark =>
      obtain ⟨word, command, hwords, -⟩ := hopens.of_mark
      cases hwords
    | step hopens' hr' =>
      obtain ⟨rfl, rfl⟩ := hopens.unique hopens'
      rw [ih hr']

/-- A word that is written as a setting is what is said, or is left for later. -/
theorem Opens.of_mem (h : Opens words item rest) (hm : word ∈ words)
    (hw : setting.IsWritten value word) :
    (setting.takesValue = true ∧ ∃ text, item = .value setting text) ∨
      (setting = .debug ∧ item = .debug) ∨ word ∈ rest := by
  cases h with
  | joined hw' ht =>
    obtain rfl | hm := List.mem_cons.1 hm
    · obtain ⟨rfl, -⟩ := hw.unique hw'
      exact .inl ⟨ht, _, rfl⟩
    · exact .inr (.inr hm)
  | apart hw' ht hp =>
    obtain rfl | hm := List.mem_cons.1 hm
    · obtain ⟨rfl, -⟩ := hw.unique hw'
      exact .inl ⟨ht, _, rfl⟩
    · obtain rfl | hm := List.mem_cons.1 hm
      · exact absurd hw (hp.2 _ _)
      · exact .inr (.inr hm)
  | debug hw' =>
    obtain rfl | hm := List.mem_cons.1 hm
    · obtain ⟨rfl, -⟩ := hw.unique hw'
      exact .inr (.inl ⟨rfl, rfl⟩)
    · exact .inr (.inr hm)
  | command hc =>
    obtain rfl | hm := List.mem_cons.1 hm
    · exact absurd hw ((isPlain_of_ofName? hc).2 _ _)
    · exact .inr (.inr hm)
  | marked hc =>
    obtain rfl | hm := List.mem_cons.1 hm
    · exact absurd hw (not_isWritten_mark _ _)
    · obtain rfl := List.mem_singleton.1 hm
      exact absurd hw ((isPlain_of_ofName? hc).2 _ _)

theorem Says.of_isGiven (h : Says words items) (hg : setting.IsGiven words) :
    (setting.takesValue = true ∧ ∃ text, .value setting text ∈ items) ∨
      (setting = .debug ∧ .debug ∈ items) := by
  obtain ⟨word, hm, value, hw⟩ := hg
  induction h with
  | nil => cases hm
  | mark =>
    obtain rfl := List.mem_singleton.1 hm
    exact absurd hw (not_isWritten_mark _ _)
  | step hopens hr ih =>
    obtain ⟨ht, text, rfl⟩ | ⟨hs, rfl⟩ | hm := hopens.of_mem hm hw
    · exact .inl ⟨ht, text, List.mem_cons_self⟩
    · exact .inr ⟨hs, List.mem_cons_self⟩
    · obtain ⟨ht, text, hm⟩ | ⟨hs, hm⟩ := ih hm
      · exact .inl ⟨ht, text, List.mem_cons_of_mem _ hm⟩
      · exact .inr ⟨hs, List.mem_cons_of_mem _ hm⟩

theorem Opens.suffix (h : Opens words item rest) : rest <:+ words := by
  cases h with
  | joined | debug | command => exact List.suffix_cons _ _
  | apart => exact (List.suffix_cons _ _).trans (List.suffix_cons _ _)
  | marked => exact List.nil_suffix

theorem Says.exists_opens (h : Says words items) (hm : item ∈ items) :
    ∃ words' rest, words' <:+ words ∧ Opens words' item rest := by
  induction h with
  | nil => cases hm
  | mark => cases hm
  | step hopens hr ih =>
    obtain rfl | hm := List.mem_cons.1 hm
    · exact ⟨_, _, List.suffix_refl _, hopens⟩
    · obtain ⟨words', rest, hsuffix, hopens'⟩ := ih hm
      exact ⟨words', rest, hsuffix.trans hopens.suffix, hopens'⟩

theorem Says.isGiven (h : Says words items) (hm : .value setting text ∈ items) :
    setting.IsGiven words := by
  obtain ⟨words', rest, hsuffix, hopens⟩ := h.exists_opens hm
  cases hopens with
  | joined hw => exact ⟨_, hsuffix.subset List.mem_cons_self, _, hw⟩
  | apart hw => exact ⟨_, hsuffix.subset List.mem_cons_self, _, hw⟩

theorem Says.exists_name (h : Says words items) (hm : .command command ∈ items) :
    ∃ word ∈ words, Command.ofName? word = some command := by
  obtain ⟨words', rest, hsuffix, hopens⟩ := h.exists_opens hm
  cases hopens with
  | command hc => exact ⟨_, hsuffix.subset List.mem_cons_self, hc⟩
  | marked hc => exact ⟨_, hsuffix.subset (List.mem_cons_of_mem _ List.mem_cons_self), hc⟩

theorem lastValue?_cons : lastValue? setting (item :: items) =
    (lastValue? setting items).or (item.valueOf? setting) := by
  rw [lastValue?, lastValue?, List.filterMap_cons]
  cases item.valueOf? setting with
  | none => exact (Option.or_none).symm
  | some text =>
    rw [List.getLast?_cons]
    cases (items.filterMap (Item.valueOf? setting)).getLast? <;> rfl

theorem mem_of_lastValue? (h : lastValue? setting items = some text) :
    .value setting text ∈ items := by
  obtain ⟨item, hm, hitem⟩ := List.mem_filterMap.1 (List.mem_of_getLast? h)
  cases item with
  | value other text' =>
    rw [Item.valueOf?, Option.ite_none_right_eq_some] at hitem
    obtain ⟨rfl, he⟩ := hitem
    cases he
    exact hm
  | command => cases hitem
  | debug => cases hitem

theorem mem_of_firstCommand? (h : firstCommand? items = some command) :
    .command command ∈ items := by
  obtain ⟨item, hm, hitem⟩ := List.mem_filterMap.1 (List.mem_of_head? h)
  cases item with
  | command other =>
    cases hitem
    exact hm
  | value => cases hitem
  | debug => cases hitem

theorem Says.isGiven_iff (h : Says words items) (ht : setting.takesValue = true) :
    setting.IsGiven words ↔ (lastValue? setting items).isSome := by
  constructor
  · intro hg
    obtain ⟨-, text, hm⟩ | ⟨rfl, -⟩ := h.of_isGiven hg
    · have htext : text ∈ items.filterMap (Item.valueOf? setting) :=
        List.mem_filterMap.2 ⟨_, hm, if_pos rfl⟩
      exact List.getLast?_isSome.2 (List.ne_nil_of_mem htext)
    · cases ht
  · intro hsome
    obtain ⟨value, hv⟩ := Option.isSome_iff_exists.1 hsome
    exact h.isGiven (mem_of_lastValue? hv)

theorem Says.getD_eq (h : Says words items) (hg : setting.IsGiven words)
    (ht : setting.takesValue = true) (default default' : Text) :
    (lastValue? setting items).getD default = (lastValue? setting items).getD default' := by
  obtain ⟨value, hv⟩ := Option.isSome_iff_exists.1 ((h.isGiven_iff ht).1 hg)
  rw [hv]
  rfl

theorem Says.givesCommand_iff (h : Says words items) :
    GivesCommand words ↔ (firstCommand? items).isSome := by
  constructor
  · rintro ⟨other, command, hother, hm⟩
    obtain rfl := hother.unique h
    have hcommand : command ∈ other.filterMap Item.command? := List.mem_filterMap.2 ⟨_, hm, rfl⟩
    exact List.isSome_head?.2 (List.ne_nil_of_mem hcommand)
  · intro hsome
    obtain ⟨command, hfirst⟩ := Option.isSome_iff_exists.1 hsome
    exact ⟨items, command, h, mem_of_firstCommand? hfirst⟩

end BuildTags.CommandLine
