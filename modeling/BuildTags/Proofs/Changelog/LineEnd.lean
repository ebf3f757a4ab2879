import BuildTags.Proofs.Changelog.Shape
import BuildTags.Proofs.Text.Uniform

namespace BuildTags.Changelog

/-- Whether it matters for the entries of a message that it is handed over with a line feed for every
line end and without white space at its ends. Under a key the kind of a line end does not matter. -/
inductive IsToldApart (key : Option Text) (message : Text) : Prop
  | shifted (h : IsShifted key message)
  | returned (hk : key = none ∨ key = some []) (h : '\r' ∈ Text.trim message)

variable {settings : Settings} {current : Build} {previous : Option Build} {key : Option Text}
  {text linked : Text} {messages lines : List Text}

theorem entriesOf_uniformLines {mark : Text} (hk : mark ≠ []) (message : Text) :
    entriesOf (some mark) (Text.uniformLines message) = entriesOf (some mark) message := by
  cases mark with
  | nil => exact absurd rfl hk
  | cons c mark =>
    show (Text.lines (Text.uniformLines message)).filterMap _ = _
    rw [Text.lines_uniformLines]
    rfl

theorem trimmed?_uniformLines (text : Text) :
    trimmed? (Text.uniformLines text) = (trimmed? text).map Text.uniformLines := by
  rw [trimmed?, trimmed?, Text.trim_uniformLines]
  cases Text.trim text with
  | nil => rfl
  | cons c rest =>
    obtain ⟨d, rest', hd⟩ :=
      List.exists_cons_of_ne_nil (Text.uniformLines_ne_nil (List.cons_ne_nil c rest))
    rw [hd]
    exact congrArg some hd.symm

theorem entriesOf_of_whole (hk : key = none ∨ key = some []) (message : Text) :
    entriesOf key message = (trimmed? message).toList := by
  rcases hk with rfl | rfl <;> rfl

theorem entries_map_uniformLines {mark : Text} (hk : mark ≠ []) (messages : List Text) :
    entries (some mark) (messages.map Text.uniformLines) = entries (some mark) messages := by
  rw [entries, entries, ← List.map_reverse, List.flatMap_map]
  exact List.flatMap_congr fun message _ ↦ entriesOf_uniformLines hk message

theorem entries_map_uniformLines_of_whole (hk : key = none ∨ key = some [])
    (messages : List Text) :
    entries key (messages.map Text.uniformLines) =
      (entries key messages).map Text.uniformLines := by
  rw [entries, entries, ← List.map_reverse, List.flatMap_map, List.map_flatMap]
  refine List.flatMap_congr fun message _ ↦ ?_
  rw [entriesOf_of_whole hk, entriesOf_of_whole hk, trimmed?_uniformLines]
  cases trimmed? message <;> rfl

theorem forall_return_notMem_entries_iff (hk : key = none ∨ key = some []) :
    (∀ entry ∈ entries key messages, '\r' ∉ entry) ↔
      ∀ message ∈ messages, '\r' ∉ Text.trim message := by
  have hentries : ∀ message, (∀ entry ∈ entriesOf key message, '\r' ∉ entry) ↔
      '\r' ∉ Text.trim message := by
    intro message
    rw [entriesOf_of_whole hk, trimmed?]
    cases Text.trim message <;> simp
  simp only [entries, List.mem_flatMap, List.mem_reverse, forall_exists_index, and_imp, ← hentries]
  exact ⟨fun h message hm entry he ↦ h entry message hm he,
    fun h entry message hm he ↦ h message hm entry he⟩

theorem map_uniformLines_eq_self_iff {texts : List Text} :
    texts.map Text.uniformLines = texts ↔ ∀ text ∈ texts, '\r' ∉ text := by
  rw [map_list_eq_self_iff]
  exact forall₂_congr fun text _ ↦ Text.uniformLines_eq_self_iff

theorem isToldApart_of_whole_iff {message : Text} (hk : key = none ∨ key = some []) :
    IsToldApart key message ↔ '\r' ∈ Text.trim message := by
  constructor
  · rintro (h | ⟨-, h⟩)
    · rcases hk with rfl | rfl
      · exact absurd h not_isShifted_none
      · exact absurd h not_isShifted_nil
    · exact h
  · exact .returned hk

theorem exists_mark_of_not_whole (hk : ¬(key = none ∨ key = some [])) :
    ∃ mark, key = some mark ∧ mark ≠ [] := by
  obtain ⟨hnone, hnil⟩ := not_or.1 hk
  obtain ⟨mark, rfl⟩ := Option.ne_none_iff_exists'.1 hnone
  exact ⟨mark, rfl, fun he ↦ hnil (congrArg some he)⟩

theorem isToldApart_some_iff {mark message : Text} (hk : mark ≠ []) :
    IsToldApart (some mark) message ↔ IsShifted (some mark) message := by
  constructor
  · rintro (h | ⟨hw, -⟩)
    · exact h
    · rcases hw with hw | hw
      · cases hw
      · exact absurd (Option.some.inj hw) hk
  · exact .shifted

/-- Without a key it does not matter that messages are trimmed. -/
theorem entries_map_trim_of_whole (hk : key = none ∨ key = some []) (messages : List Text) :
    entries key (messages.map Text.trim) = entries key messages := by
  rw [entries_map_trim, entries]
  exact List.flatMap_congr fun message _ ↦ entriesOf_trim_of_whole key hk message

theorem map_trim_map_uniformLines (messages : List Text) :
    (messages.map Text.uniformLines).map Text.trim =
      (messages.map Text.trim).map Text.uniformLines := by
  rw [List.map_map, List.map_map]
  exact List.map_congr_left fun message _ ↦ Text.trim_uniformLines message

theorem entries_handedOver_eq_iff (key : Option Text) (messages : List Text) :
    entries key ((messages.map Text.uniformLines).map Text.trim) = entries key messages ↔
      ∀ message ∈ messages, ¬IsToldApart key message := by
  by_cases hk : key = none ∨ key = some []
  · simp only [isToldApart_of_whole_iff hk]
    rw [entries_map_trim_of_whole hk, entries_map_uniformLines_of_whole hk,
      map_uniformLines_eq_self_iff, forall_return_notMem_entries_iff hk]
  · obtain ⟨mark, rfl, hmark⟩ := exists_mark_of_not_whole hk
    simp only [isToldApart_some_iff hmark]
    rw [map_trim_map_uniformLines, entries_map_uniformLines hmark, entries_trim_eq_iff]

theorem mem_between_iff {c : Char} {opening middle closing : Text} (ho : c ∉ opening)
    (hm : c ∉ middle) (hc : c ∉ closing) (first second : Text) :
    c ∈ opening ++ (first ++ (middle ++ (second ++ closing))) ↔ c ∈ first ∨ c ∈ second := by
  rw [List.mem_append, or_iff_right ho, List.mem_append, List.mem_append, or_iff_right hm,
    List.mem_append, or_iff_left hc]

theorem LinkFormat.return_mem_around_iff (issue url : Text) (format : LinkFormat) :
    '\r' ∈ format.around issue url ↔ '\r' ∈ url ∨ '\r' ∈ issue := by
  cases format with
  | html => exact mem_between_iff (by decide) (by decide) (by decide) url issue
  | markdown =>
    rw [or_comm]
    exact mem_between_iff (by decide) (by decide) (by decide) issue url
  | slack => exact mem_between_iff (by decide) (by decide) (by decide) url issue

theorem return_mem_linked_iff (h : withLinks settings text = .ok linked)
    (hu : '\r' ∉ settings.urlStart) : '\r' ∈ linked ↔ '\r' ∈ text := by
  cases hf : LinkFormat.ofName? settings.linkFormat with
  | none =>
    rw [withLinks, hf] at h
    cases h
  | some format =>
    have haround : ∀ issue, '\r' ∈ format.around issue (settings.urlStart ++ issue) ↔
        '\r' ∈ issue := by
      intro issue
      rw [format.return_mem_around_iff, List.mem_append, or_iff_right hu, or_self]
    obtain ⟨pieces, last, hfinds, hs⟩ :=
      settings.issues.regex.exists_finds_of_le (Nat.le_refl text.length) (Nat.le_refl _)
    rw [withLinks_of_segments hf hs] at h
    rw [← Except.ok.inj h, hfinds.eq_flatMap]
    simp only [List.mem_append, List.mem_flatMap, haround]

theorem body_eq_join (hf : settings.HasFormat)
    (h : bulletLines settings (entries key messages) = .ok lines) (hne : lines ≠ []) :
    body current previous lines = Text.join "\n" (heading current ++ lines) := by
  have hforall := forall₂_bulletLines h
  have hentries : entries key messages ≠ [] := by
    intro he
    rw [he] at hforall
    cases hforall
    exact hne rfl
  have htrimmed := isTrimmed_join_heading hf current (.changed previous hentries hforall)
  cases lines with
  | nil => exact absurd rfl hne
  | cons line lines => exact htrimmed.trim_eq

/-- The lines of a changelog hold as many carriage returns as those of another one with the same
text. -/
theorem count_return_of_body_eq (hf : settings.HasFormat) {messages' lines' : List Text}
    (h : bulletLines settings (entries key messages) = .ok lines)
    (h' : bulletLines settings (entries key messages') = .ok lines') (hne : lines ≠ [])
    (hne' : lines' ≠ []) (he : body current previous lines = body current previous lines') :
    lines.flatten.count '\r' = lines'.flatten.count '\r' := by
  have hfeed : '\r' ∉ ("\n" : Text) := by decide
  rw [body_eq_join hf h hne, body_eq_join hf h' hne'] at he
  have hcount := congrArg (List.count '\r') he
  rw [Text.count_join hfeed, Text.count_join hfeed, List.flatten_append, List.flatten_append,
    List.count_append, List.count_append] at hcount
  exact Nat.add_left_cancel hcount

section

variable {line : Text → Text}
  (hline : ∀ entry, ∃ linked, withLinks settings entry = .ok linked ∧ line entry = "• " ++ linked)
  (hlines : ∀ entries, bulletLines settings entries = .ok (entries.map line))

include hline

theorem exists_bullet_cons (entry : Text) : ∃ rest, line entry = bullet :: rest := by
  obtain ⟨linked, -, hl⟩ := hline entry
  exact ⟨_, hl⟩

theorem return_mem_line_iff (hu : '\r' ∉ settings.urlStart) (entry : Text) :
    '\r' ∈ line entry ↔ '\r' ∈ entry := by
  obtain ⟨linked, hlinked, hl⟩ := hline entry
  have hbullet : '\r' ∉ ("• " : Text) := by decide
  rw [hl, List.mem_append, or_iff_right hbullet, return_mem_linked_iff hlinked hu]

/-- Trimmed messages that have other entries make another changelog: the bullets can be counted. -/
theorem entries_trim_eq_of_body_eq
    (h : body current previous ((entries key (messages.map Text.trim)).map line) =
      body current previous ((entries key messages).map line)) :
    entries key (messages.map Text.trim) = entries key messages := by
  have hbullets : ∀ entries : List Text, ∀ text ∈ entries.map line, ∃ rest, text = bullet :: rest := by
    intro entries text hm
    obtain ⟨entry, -, rfl⟩ := List.mem_map.1 hm
    exact exists_bullet_cons hline entry
  rcases entries_trim_sublist key messages with hs | hs
  · have he := congrArg List.length (eq_of_body_eq (hs.map line) (hbullets _) h.symm)
    rw [List.length_map, List.length_map] at he
    exact (hs.eq_of_length he).symm
  · have he := congrArg List.length (eq_of_body_eq (hs.map line) (hbullets _) h)
    rw [List.length_map, List.length_map] at he
    exact hs.eq_of_length he

include hlines

/-- Messages that have other entries with a line feed for every line end make another changelog: the
carriage returns can be counted. -/
theorem map_uniformLines_eq_of_body_eq (hf : settings.HasFormat)
    (hk : key = none ∨ key = some []) (hu : '\r' ∉ settings.urlStart)
    (h : body current previous ((entries key (messages.map Text.uniformLines)).map line) =
      body current previous ((entries key messages).map line)) :
    entries key (messages.map Text.uniformLines) = entries key messages := by
  have hmap := entries_map_uniformLines_of_whole hk messages
  cases he : entries key messages with
  | nil => rw [hmap, he, List.map_nil]
  | cons entry rest =>
    have hne : (entries key messages).map line ≠ [] := by
      rw [he]
      exact List.cons_ne_nil _ _
    have hne' : (entries key (messages.map Text.uniformLines)).map line ≠ [] := by
      rw [hmap, he]
      exact List.cons_ne_nil _ _
    have hcount := count_return_of_body_eq hf (hlines _) (hlines _) hne' hne h
    have hnone : '\r' ∉ ((entries key (messages.map Text.uniformLines)).map line).flatten := by
      intro hm
      obtain ⟨text, ht, hr⟩ := List.mem_flatten.1 hm
      obtain ⟨entry, hentry, rfl⟩ := List.mem_map.1 ht
      rw [hmap] at hentry
      obtain ⟨whole, -, rfl⟩ := List.mem_map.1 hentry
      exact Text.return_notMem_uniformLines whole ((return_mem_line_iff hline hu _).1 hr)
    rw [List.count_eq_zero.2 hnone, eq_comm, List.count_eq_zero] at hcount
    rw [hmap, ← he, map_uniformLines_eq_self_iff]
    intro entry hentry hr
    exact hcount (List.mem_flatten.2
      ⟨line entry, List.mem_map_of_mem hentry, (return_mem_line_iff hline hu entry).2 hr⟩)

theorem entries_handedOver_eq_of_body_eq (hf : settings.HasFormat)
    (hu : key = none ∨ key = some [] → '\r' ∉ settings.urlStart)
    (h : body current previous
        ((entries key ((messages.map Text.uniformLines).map Text.trim)).map line) =
      body current previous ((entries key messages).map line)) :
    entries key ((messages.map Text.uniformLines).map Text.trim) = entries key messages := by
  by_cases hk : key = none ∨ key = some []
  · rw [entries_map_trim_of_whole hk] at h ⊢
    exact map_uniformLines_eq_of_body_eq hline hlines hf hk (hu hk) h
  · obtain ⟨mark, rfl, hmark⟩ := exists_mark_of_not_whole hk
    rw [map_trim_map_uniformLines, entries_map_uniformLines hmark] at h ⊢
    exact entries_trim_eq_of_body_eq hline h

end

end BuildTags.Changelog
