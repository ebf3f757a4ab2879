import BuildTags.CommandLine.Inputs
import BuildTags.Proofs.CommandLine.Item

namespace BuildTags.CommandLine

variable {words strays : List Text} {items : List Item} {said said' : Said} {setting : Setting}
  {fallback word text : Text} {command : Command} {roled : List (Text × Role)} {role : Role}

theorem strays_eq_nil (h : readWords fallback roled said strays = .ok (said', [])) : strays = [] := by
  fun_induction readWords fallback roled said strays generalizing said'
  case case4 | case6 | case7 | case10 => cases h
  case case1 =>
    obtain ⟨-, hs⟩ := Prod.mk.inj (Except.ok.inj h)
    exact List.reverse_eq_nil_iff.1 hs
  case case2 | case16 =>
    obtain ⟨command, -, h⟩ := bind_eq_ok_iff.1 h
    obtain ⟨-, hs⟩ := Prod.mk.inj (Except.ok.inj h)
    exact List.reverse_eq_nil_iff.1 hs
  case case8 ih => exact ih h
  case case3 ih | case11 ih | case13 ih | case15 ih => exact absurd (ih h) (List.cons_ne_nil _ _)
  case case5 ih | case9 ih | case12 ih | case14 ih | case17 ih =>
    obtain ⟨next, -, h⟩ := bind_eq_ok_iff.1 h
    exact ih next h

theorem commandOf_eq_ok_iff : commandOf word = .ok command ↔ Command.ofName? word = some command := by
  rw [commandOf]
  cases Command.ofName? word <;> simp

theorem put_eq_ok_iff : said.put setting text = .ok said' ↔
    (setting = .source → text ∈ sourceNames) ∧
      said' = { said with values := (setting, text) :: said.values } := by
  rw [Said.put]
  split
  · rename_i h
    simp [h]
  · rename_i h
    rw [not_and, not_not] at h
    exact ⟨fun he ↦ ⟨h, (Except.ok.inj he).symm⟩, fun he ↦ congrArg Except.ok he.2.symm⟩

/-- Whether the things that words say lead from what was said before to what is said in all. Where no
command is said, the fallback is one. -/
structure Said.Follows (fallback : Text) (said : Said) (items : List Item) (said' : Said) : Prop where
  value? : ∀ setting, said'.value? setting = (lastValue? setting items).or (said.value? setting)
  debug : said'.debug = (said.debug || decide (.debug ∈ items))
  command : said'.command = said.command.or ((firstCommand? items).or (Command.ofName? fallback))
  isSome : said'.command.isSome
  sources : ∀ text, .value .source text ∈ items → text ∈ sourceNames

namespace Said.Follows

theorem done (h : said.command.isSome) : Follows fallback said [] said where
  value? _ := rfl
  debug := by simp
  command := by
    obtain ⟨command, hc⟩ := Option.isSome_iff_exists.1 h
    rw [hc]
    rfl
  isSome := h
  sources := nofun

theorem unsaid (hn : said.command = none) (h : Command.ofName? fallback = some command) :
    Follows fallback said [] { said with command := some command } where
  value? _ := rfl
  debug := by simp
  command := by
    rw [hn]
    exact h.symm
  isSome := rfl
  sources := nofun

theorem value {said₁ : Said} (hp : said.put setting text = .ok said₁)
    (h : Follows fallback said₁ items said') :
    Follows fallback said (.value setting text :: items) said' := by
  obtain ⟨hsource, rfl⟩ := put_eq_ok_iff.1 hp
  refine ⟨fun other ↦ ?_, ?_, h.command, h.isSome, fun text' hm ↦ ?_⟩
  · rw [h.value?, lastValue?_cons, Option.or_assoc, Said.value?, Said.value?, List.find?_cons,
      Item.valueOf?]
    by_cases hs : setting = other <;> simp [hs]
  · rw [h.debug]
    simp
  · obtain he | hm := List.mem_cons.1 hm
    · obtain ⟨rfl, rfl⟩ := Item.value.inj he
      exact hsource rfl
    · exact h.sources text' hm

theorem debugged (h : Follows fallback { said with debug := true } items said') :
    Follows fallback said (.debug :: items) said' := by
  refine ⟨fun other ↦ ?_, ?_, h.command, h.isSome, fun text hm ↦ ?_⟩
  · have hnone : Item.debug.valueOf? other = none := rfl
    rw [h.value?, lastValue?_cons, hnone, Option.or_none]
    rfl
  · rw [h.debug]
    simp
  · obtain he | hm := List.mem_cons.1 hm
    · cases he
    · exact h.sources text hm

theorem commanded (hn : said.command = none)
    (h : Follows fallback { said with command := some command } items said') :
    Follows fallback said (.command command :: items) said' := by
  refine ⟨fun other ↦ ?_, ?_, ?_, h.isSome, fun text hm ↦ ?_⟩
  · have hnone : (Item.command command).valueOf? other = none := rfl
    rw [h.value?, lastValue?_cons, hnone, Option.or_none]
    rfl
  · rw [h.debug]
    simp
  · rw [h.command, hn]
    rfl
  · obtain he | hm := List.mem_cons.1 hm
    · cases he
    · exact h.sources text hm

end Said.Follows

theorem roles_eq_ok_cons (h : roles words = .ok ((word, role) :: roled)) : ∃ rest, words = word :: rest ∧
    (word = "--" ∧ role = .stopMark ∧ roled = rest.map (·, .plain) ∨
      word ≠ "--" ∧ roleOf word = .ok role ∧ roles rest = .ok roled) := by
  cases words with
  | nil => cases h
  | cons first rest =>
    rw [roles] at h
    split at h
    · rename_i hmark
      obtain ⟨hhead, htail⟩ := List.cons.inj (Except.ok.inj h)
      obtain ⟨rfl, rfl⟩ := Prod.mk.inj hhead
      exact ⟨rest, rfl, .inl ⟨hmark, rfl, htail.symm⟩⟩
    · rename_i hmark
      obtain ⟨role', hr, h⟩ := bind_eq_ok_iff.1 h
      obtain ⟨roled', hrest, h⟩ := bind_eq_ok_iff.1 h
      obtain ⟨hhead, rfl⟩ := List.cons.inj (Except.ok.inj h)
      obtain ⟨rfl, rfl⟩ := Prod.mk.inj hhead
      exact ⟨rest, rfl, .inr ⟨hmark, hr, hrest⟩⟩

theorem eq_nil_of_roles (h : roles words = .ok []) : words = [] := by
  cases words with
  | nil => rfl
  | cons word rest =>
    rw [roles] at h
    split at h
    · cases h
    · obtain ⟨role, -, hrest⟩ := bind_eq_ok_iff.1 h
      obtain ⟨roled, -, hcons⟩ := bind_eq_ok_iff.1 hrest
      cases hcons

theorem roles_of_unmarked (h : roles words = .ok ((word, role) :: roled)) (hm : role ≠ .stopMark) :
    ∃ rest, words = word :: rest ∧ word ≠ "--" ∧ roleOf word = .ok role ∧ roles rest = .ok roled := by
  obtain ⟨rest, hw, ⟨-, hrole, -⟩ | hrest⟩ := roles_eq_ok_cons h
  · exact absurd hrole hm
  · exact ⟨rest, hw, hrest⟩

theorem roles_of_mark (h : roles words = .ok ((word, .stopMark) :: roled)) :
    ∃ rest : List Text, words = ("--" : Text) :: rest ∧ roled = rest.map (·, .plain) := by
  obtain ⟨rest, rfl, ⟨rfl, -, hroled⟩ | ⟨-, hrole, -⟩⟩ := roles_eq_ok_cons h
  · exact ⟨rest, rfl, hroled⟩
  · exact absurd hrole (roleOf_ne_stopMark word)

/-- Once there is a command, a plain word would be left over. -/
theorem eq_nil_of_plain (hc : said.command.isSome)
    (h : readWords fallback (words.map (·, .plain)) said strays = .ok (said', [])) :
    words = [] ∧ said' = said := by
  cases words with
  | nil =>
    rw [List.map_nil, readWords, if_pos hc] at h
    exact ⟨rfl, (Prod.mk.inj (Except.ok.inj h)).1.symm⟩
  | cons word words =>
    have hstray : readWords fallback (words.map (·, .plain)) said (word :: strays) =
        .ok (said', []) := by
      cases words <;> simpa only [List.map_cons, List.map_nil, readWords, hc, if_true] using h
    cases strays_eq_nil hstray

/-- Words that are read with nothing left over say some things, and what is said follows from these. -/
theorem exists_items (hr : roles words = .ok roled)
    (h : readWords fallback roled said strays = .ok (said', [])) :
    ∃ items, Says words items ∧ said.Follows fallback items said' := by
  fun_induction readWords fallback roled said strays generalizing words said'
  -- help, or a value that is wrong or missing
  case case4 | case6 | case7 | case10 => cases h
  -- a word without a meaning, or a second command
  case case3 | case11 | case13 | case15 => cases strays_eq_nil h
  case case1 said _ hc =>
    obtain rfl := eq_nil_of_roles hr
    obtain ⟨rfl, -⟩ := Prod.mk.inj (Except.ok.inj h)
    exact ⟨[], .nil, .done hc⟩
  case case2 said _ hc =>
    obtain rfl := eq_nil_of_roles hr
    obtain ⟨command, hcommand, h⟩ := bind_eq_ok_iff.1 h
    obtain ⟨rfl, -⟩ := Prod.mk.inj (Except.ok.inj h)
    exact ⟨[], .nil,
      .unsaid (Option.not_isSome_iff_eq_none.1 hc) (commandOf_eq_ok_iff.1 hcommand)⟩
  -- a value in the word of its setting
  case case5 setting text roled said _ ht ih =>
    obtain ⟨next, hput, h⟩ := bind_eq_ok_iff.1 h
    obtain ⟨rest, rfl, -, hrole, hrest⟩ := roles_of_unmarked hr nofun
    obtain ⟨items, hitems, hfollows⟩ := ih next hrest h
    exact ⟨_, .step (.joined (isWritten_of_roleOf hrole) ht) hitems, .value hput hfollows⟩
  case case8 word roled said _ ih =>
    obtain ⟨rest, rfl, -, hrole, hrest⟩ := roles_of_unmarked hr nofun
    obtain ⟨items, hitems, hfollows⟩ := ih hrest h
    exact ⟨_, .step (.debug (isWritten_of_roleOf hrole)) hitems, .debugged hfollows⟩
  -- a value in the word after its setting
  case case9 setting text roled said _ hhelp hdebug ih =>
    obtain ⟨next, hput, h⟩ := bind_eq_ok_iff.1 h
    obtain ⟨rest, rfl, -, hrole, hrest⟩ := roles_of_unmarked hr nofun
    obtain ⟨rest, rfl, hmark, hplain, hrest⟩ := roles_of_unmarked hrest nofun
    obtain ⟨items, hitems, hfollows⟩ := ih next hrest h
    have ht : setting.takesValue = true := by
      have hne : setting ≠ .help ∧ setting ≠ .debug := ⟨hhelp, hdebug⟩
      simp [Setting.takesValue, hne]
    have hopens : Opens (_ :: text :: rest) (.value setting text) rest :=
      .apart (isWritten_of_roleOf hrole) ht ⟨hmark, not_isWritten_of_plain hplain⟩
    exact ⟨_, .step hopens hitems, .value hput hfollows⟩
  -- a command with two dashes after it, where nothing else may follow
  case case12 word mark roled said _ hc ih =>
    obtain ⟨command, hcommand, h⟩ := bind_eq_ok_iff.1 h
    obtain ⟨rest, rfl, -, -, hrest⟩ := roles_of_unmarked hr nofun
    obtain ⟨rest, rfl, rfl⟩ := roles_of_mark hrest
    obtain ⟨rfl, rfl⟩ := eq_nil_of_plain rfl h
    have hopens : Opens [word, "--"] (.command command) ["--"] :=
      .command (commandOf_eq_ok_iff.1 hcommand)
    exact ⟨_, .step hopens .mark, .commanded (Option.not_isSome_iff_eq_none.1 hc) (.done rfl)⟩
  case case14 word roled said _ _ hc ih =>
    obtain ⟨command, hcommand, h⟩ := bind_eq_ok_iff.1 h
    obtain ⟨rest, rfl, -, -, hrest⟩ := roles_of_unmarked hr nofun
    obtain ⟨items, hitems, hfollows⟩ := ih command hrest h
    exact ⟨_, .step (.command (commandOf_eq_ok_iff.1 hcommand)) hitems,
      .commanded (Option.not_isSome_iff_eq_none.1 hc) hfollows⟩
  -- two dashes at the end
  case case16 mark said _ hc =>
    obtain ⟨command, hcommand, h⟩ := bind_eq_ok_iff.1 h
    obtain ⟨rest, rfl, hrest⟩ := roles_of_mark hr
    obtain rfl := List.map_eq_nil_iff.1 hrest.symm
    obtain ⟨rfl, -⟩ := Prod.mk.inj (Except.ok.inj h)
    exact ⟨[], .mark,
      .unsaid (Option.not_isSome_iff_eq_none.1 hc) (commandOf_eq_ok_iff.1 hcommand)⟩
  -- two dashes before the command
  case case17 mark said _ hc word _ roled ih =>
    obtain ⟨command, hcommand, h⟩ := bind_eq_ok_iff.1 h
    obtain ⟨rest, rfl, hrest⟩ := roles_of_mark hr
    cases rest with
    | nil => cases hrest
    | cons first rest =>
      obtain ⟨hhead, rfl⟩ := List.cons.inj hrest
      obtain ⟨rfl, rfl⟩ := Prod.mk.inj hhead
      obtain ⟨rfl, rfl⟩ := eq_nil_of_plain rfl h
      exact ⟨_, .step (.marked (commandOf_eq_ok_iff.1 hcommand)) .nil,
        .commanded (Option.not_isSome_iff_eq_none.1 hc) (.done rfl)⟩

end BuildTags.CommandLine
