import BuildTags.Changelog.Entry
import BuildTags.Proofs.List
import BuildTags.Proofs.Text.Line
import BuildTags.Proofs.Text.Trim
import Mathlib.Data.List.Flatten

namespace BuildTags.Changelog

variable {key line text tail message : Text} {c : Char}

def keyed? (key line : Text) : Option Text := (Text.after? (key ++ ": ") line).bind trimmed?

/-- The white space before the first letter of a message, as far as it stands on the same line. -/
def indentation (message : Text) : Text := Text.lastLine (message.takeWhile Text.isBlank)

/-- Whether it matters for the entries under a key that a message is trimmed: with its indentation or
without it, but not with both, the first line that is not blank has an entry. -/
def IsShifted (key : Option Text) (message : Text) : Prop :=
  ∃ mark, key = some mark ∧ mark ≠ [] ∧ indentation message ≠ [] ∧
    ((keyed? mark (Text.firstLine (Text.trimStart message))).isSome ∨
      (keyed? mark (indentation message ++ Text.firstLine (Text.trimStart message))).isSome)

theorem trimmed?_of_blank (h : Text.blank text = true) : trimmed? text = none := by
  rw [trimmed?, Text.trim_of_blank h]

theorem keyed?_eq_some_iff {entry : Text} : keyed? key line = some entry ↔
    ∃ rest, line = key ++ ": " ++ rest ∧ trimmed? rest = some entry := by
  rw [keyed?, Option.bind_eq_some_iff]
  simp only [Text.after?_eq_some_iff]

theorem keyed?_of_blank (h : Text.blank line = true) : keyed? key line = none := by
  apply Option.eq_none_iff_forall_ne_some.2
  intro entry he
  obtain ⟨rest, rfl, ht⟩ := keyed?_eq_some_iff.1 he
  rw [trimmed?_of_blank (Text.blank_append_iff.1 h).2] at ht
  cases ht

theorem keyed?_append_of_blank (line : Text) (h : Text.blank tail = true) :
    keyed? key (line ++ tail) = keyed? key line := by
  cases hk : Text.after? (key ++ ": ") line with
  | some rest =>
    have hl := Text.eq_append_of_after? hk
    have hk' : Text.after? (key ++ ": ") (line ++ tail) = some (rest ++ tail) := by
      rw [hl, List.append_assoc, Text.after?_append]
    rw [keyed?, keyed?, hk, hk', Option.bind_some, Option.bind_some, trimmed?, trimmed?,
      Text.trim_append_of_blank rest h]
  | none =>
    rw [keyed?, keyed?, hk, Option.bind_none]
    cases hk' : Text.after? (key ++ ": ") (line ++ tail) with
    | none => rfl
    | some rest =>
      -- The end of the key would be white space of the tail.
      rcases List.append_eq_append_iff.1 (Text.eq_append_of_after? hk') with
        ⟨more, -, htail⟩ | ⟨more, hline, -⟩
      · exact trimmed?_of_blank (Text.blank_append_iff.1 (htail ▸ h)).2
      · rw [hline, Text.after?_append] at hk
        cases hk

theorem blank_of_mem_splitOnP (h : Text.blank text = true) :
    ∀ line ∈ text.splitOnP Text.isLineEnd, Text.blank line = true := by
  induction text with
  | nil =>
    intro line hm
    rw [List.mem_singleton.1 hm]
    rfl
  | cons c text ih =>
    obtain ⟨hb, hrest⟩ := Text.blank_cons_iff.1 h
    have hrest := ih hrest
    cases hc : Text.isLineEnd c with
    | true =>
      rw [Text.splitOnP_cons_of_isLineEnd hc]
      exact List.forall_mem_cons.2 ⟨rfl, hrest⟩
    | false =>
      obtain ⟨rest, hr⟩ := Text.splitOnP_eq_firstLine_cons text
      rw [hr] at hrest
      rw [Text.splitOnP_cons_of_not_isLineEnd hc, hr, List.modifyHead_cons]
      obtain ⟨hfirst, hrest⟩ := List.forall_mem_cons.1 hrest
      exact List.forall_mem_cons.2 ⟨Text.blank_cons_iff.2 ⟨hb, hfirst⟩, hrest⟩

def keyedOf (key text : Text) : List Text :=
  (text.splitOnP Text.isLineEnd).filterMap (keyed? key)

theorem keyedOf_of_blank (h : Text.blank text = true) : keyedOf key text = [] := by
  apply List.filterMap_eq_nil_iff.2
  intro line hm
  exact keyed?_of_blank (blank_of_mem_splitOnP h line hm)

theorem keyedOf_append_cons (hc : Text.isLineEnd c = true) (text rest : Text) :
    keyedOf key (text ++ c :: rest) = keyedOf key text ++ keyedOf key rest := by
  rw [keyedOf, List.splitOnP_append_cons text rest hc, List.filterMap_append, keyedOf, keyedOf]

theorem keyedOf_of_line (h : ∀ c ∈ line, Text.isLineEnd c = false) :
    keyedOf key line = (keyed? key line).toList := by
  rw [keyedOf, List.splitOnP_eq_singleton h, List.filterMap_cons]
  cases keyed? key line <;> rfl

theorem keyedOf_line_append {start : Text} (hs : ∀ c ∈ start, Text.isLineEnd c = false)
    (text : Text) : ∃ rest,
      keyedOf key text = (keyed? key (Text.firstLine text)).toList ++ rest ∧
      keyedOf key (start ++ text) = (keyed? key (start ++ Text.firstLine text)).toList ++ rest := by
  obtain ⟨rest, hr⟩ := Text.splitOnP_eq_firstLine_cons text
  refine ⟨rest.filterMap (keyed? key), ?_, ?_⟩
  · rw [keyedOf, hr, List.filterMap_cons]
    cases keyed? key (Text.firstLine text) <;> rfl
  · rw [keyedOf, Text.splitOnP_append_of_not_isLineEnd hs hr, List.filterMap_cons]
    cases keyed? key (start ++ Text.firstLine text) <;> rfl

theorem keyedOf_append_singleton (text : Text) (h : Text.isBlank c = true) :
    keyedOf key (text ++ [c]) = keyedOf key text := by
  have hb : Text.blank [c] = true := Text.blank_cons_iff.2 ⟨h, rfl⟩
  cases hc : Text.isLineEnd c with
  | true =>
    have hnil : keyedOf key [] = [] := keyedOf_of_blank rfl
    rw [keyedOf_append_cons hc, hnil, List.append_nil]
  | false =>
    have hline : ∀ d ∈ Text.lastLine text, Text.isLineEnd d = false :=
      fun d ↦ Text.not_isLineEnd_of_mem_lastLine
    have hline' : ∀ d ∈ Text.lastLine text ++ [c], Text.isLineEnd d = false := by
      intro d hd
      rcases List.mem_append.1 hd with hd | hd
      · exact hline d hd
      · exact List.mem_singleton.1 hd ▸ hc
    have hlast : keyedOf key (Text.lastLine text ++ [c]) = keyedOf key (Text.lastLine text) := by
      rw [keyedOf_of_line hline, keyedOf_of_line hline', keyed?_append_of_blank _ hb]
    rcases Text.eq_lastLine_or text with he | ⟨before, d, hd, he⟩
    · rw [he]
      exact hlast
    · rw [he, List.append_assoc, List.cons_append, keyedOf_append_cons hd, keyedOf_append_cons hd,
        hlast]

theorem keyedOf_append_of_blank (text : Text) (h : Text.blank tail = true) :
    keyedOf key (text ++ tail) = keyedOf key text := by
  induction tail using List.reverseRecOn with
  | nil => rw [List.append_nil]
  | append_singleton tail c ih =>
    obtain ⟨htail, hlast⟩ := Text.blank_append_iff.1 h
    rw [← List.append_assoc, keyedOf_append_singleton _ (Text.blank_cons_iff.1 hlast).1, ih htail]

theorem entriesOf_some (hk : key ≠ []) (message : Text) :
    entriesOf (some key) message = keyedOf key message := by
  cases key with
  | nil => exact absurd rfl hk
  | cons c key => exact Text.filterMap_lines rfl message

theorem entriesOf_of_blank (key : Option Text) (h : Text.blank message = true) :
    entriesOf key message = [] := by
  rcases key with - | - | ⟨c, key⟩
  · rw [entriesOf, trimmed?_of_blank h]
    rfl
  · rw [entriesOf, trimmed?_of_blank h]
    rfl
  · rw [entriesOf_some (List.cons_ne_nil c key), keyedOf_of_blank h]

theorem keyedOf_trim (key message : Text) :
    keyedOf key (Text.trim message) = keyedOf key (Text.trimStart message) := by
  obtain ⟨tail, hb, ht⟩ := Text.exists_trimEnd (Text.trimStart message)
  calc keyedOf key (Text.trim message) = keyedOf key (Text.trim message ++ tail) :=
        (keyedOf_append_of_blank _ hb).symm
    _ = keyedOf key (Text.trimStart message) := congrArg (keyedOf key) ht.symm

/-- Blank lines before the first letter of a message have no entries. -/
theorem keyedOf_eq_indentation (key message : Text) :
    keyedOf key message = keyedOf key (indentation message ++ Text.trimStart message) := by
  have hmessage : message.takeWhile Text.isBlank ++ Text.trimStart message = message :=
    List.takeWhile_append_dropWhile
  rcases Text.eq_lastLine_or (message.takeWhile Text.isBlank) with he | ⟨before, d, hd, he⟩
  · rw [indentation, ← he, hmessage]
  · have hbefore : Text.blank before = true := by
      apply List.all_eq_true.2
      intro c hc
      apply List.mem_takeWhile_imp (l := message)
      rw [he]
      exact List.mem_append_left _ hc
    have hsplit : message = before ++ d :: (indentation message ++ Text.trimStart message) := by
      rw [he, List.append_assoc, List.cons_append] at hmessage
      exact hmessage.symm
    calc keyedOf key message
        = keyedOf key (before ++ d :: (indentation message ++ Text.trimStart message)) :=
          congrArg (keyedOf key) hsplit
      _ = keyedOf key (indentation message ++ Text.trimStart message) := by
          rw [keyedOf_append_cons hd, keyedOf_of_blank hbefore, List.nil_append]

/-- With its indentation or without it, the first line of a message is followed by the same lines. -/
theorem exists_keyedOf (key message : Text) : ∃ rest,
    keyedOf key message =
      (keyed? key (indentation message ++ Text.firstLine (Text.trimStart message))).toList ++ rest ∧
    keyedOf key (Text.trim message) =
      (keyed? key (Text.firstLine (Text.trimStart message))).toList ++ rest := by
  have hline : ∀ c ∈ indentation message, Text.isLineEnd c = false :=
    fun c ↦ Text.not_isLineEnd_of_mem_lastLine
  obtain ⟨rest, htext, hindented⟩ := keyedOf_line_append hline (Text.trimStart message)
  exact ⟨rest, (keyedOf_eq_indentation key message).trans hindented,
    (keyedOf_trim key message).trans htext⟩

theorem isBlank_of_keyed? {k : Char} (h : (keyed? (k :: key) (c :: line)).isSome) :
    Text.isBlank k = Text.isBlank c := by
  obtain ⟨entry, he⟩ := Option.isSome_iff_exists.1 h
  obtain ⟨rest, hl, -⟩ := keyed?_eq_some_iff.1 he
  rw [(List.cons.inj hl).1]

theorem isBlank_of_keyed?_firstLine {k : Char}
    (h : (keyed? (k :: key) (Text.firstLine (Text.trimStart message))).isSome) :
    Text.isBlank k = false := by
  cases hm : Text.trimStart message with
  | nil =>
    rw [hm] at h
    cases h
  | cons c rest =>
    have hc := Text.isBlank_head_trimStart hm
    rw [hm] at h
    cases hl : Text.firstLine (c :: rest) with
    | nil =>
      rw [hl] at h
      cases h
    | cons d line =>
      rw [hl] at h
      have hd : c = d := by
        have hprefix : Text.firstLine (c :: rest) <+: c :: rest := List.takeWhile_prefix _
        rw [hl] at hprefix
        exact (List.cons_prefix_cons.1 hprefix).1.symm
      rw [isBlank_of_keyed? h, ← hd, hc]

theorem isBlank_of_keyed?_indentation {k : Char} (hi : indentation message ≠ [])
    (h : (keyed? (k :: key) (indentation message ++ line)).isSome) : Text.isBlank k = true := by
  have hblank : ∀ c ∈ indentation message, Text.isBlank c = true := by
    intro c hc
    exact List.mem_takeWhile_imp (List.rtakeWhile_suffix _ _ |>.subset hc)
  cases hm : indentation message with
  | nil => exact absurd hm hi
  | cons c rest =>
    rw [hm] at h hblank
    rw [isBlank_of_keyed? h]
    exact hblank c List.mem_cons_self

theorem isShifted_some_iff (hk : key ≠ []) : IsShifted (some key) message ↔
    indentation message ≠ [] ∧ ((keyed? key (Text.firstLine (Text.trimStart message))).isSome ∨
      (keyed? key (indentation message ++ Text.firstLine (Text.trimStart message))).isSome) := by
  constructor
  · rintro ⟨mark, he, -, h⟩
    obtain rfl := Option.some.inj he
    exact h
  · intro h
    exact ⟨key, rfl, hk, h⟩

theorem not_isShifted_none : ¬IsShifted none message := by
  rintro ⟨mark, he, -⟩
  cases he

theorem not_isShifted_nil : ¬IsShifted (some []) message := by
  rintro ⟨mark, he, hne, -⟩
  exact hne (Option.some.inj he).symm

theorem entriesOf_trim_of_whole (key : Option Text) (hk : key = none ∨ key = some [])
    (message : Text) : entriesOf key (Text.trim message) = entriesOf key message := by
  rcases hk with rfl | rfl <;> rw [entriesOf, entriesOf, trimmed?, trimmed?, Text.trim_trim]

/-- A message gets no entry when it is trimmed under a key that begins with white space, and loses none
under any other key. -/
theorem entriesOf_trim_sublist (key : Option Text) :
    (∀ message, (entriesOf key message).Sublist (entriesOf key (Text.trim message))) ∨
    (∀ message, (entriesOf key (Text.trim message)).Sublist (entriesOf key message)) := by
  rcases key with - | - | ⟨k, key⟩
  · refine .inl fun message ↦ ?_
    rw [entriesOf_trim_of_whole _ (.inl rfl)]
  · refine .inl fun message ↦ ?_
    rw [entriesOf_trim_of_whole _ (.inr rfl)]
  · have hne : k :: key ≠ [] := List.cons_ne_nil k key
    simp only [entriesOf_some hne]
    cases hk : Text.isBlank k with
    | false =>
      refine .inl fun message ↦ ?_
      obtain ⟨rest, hraw, htrim⟩ := exists_keyedOf (k :: key) message
      rw [hraw, htrim]
      apply List.Sublist.append_right
      by_cases hi : indentation message = []
      · rw [hi, List.nil_append]
      · have hnone : keyed? (k :: key) (indentation message ++
            Text.firstLine (Text.trimStart message)) = none := by
          apply Option.not_isSome_iff_eq_none.1
          intro h
          rw [isBlank_of_keyed?_indentation hi h] at hk
          cases hk
        rw [hnone]
        exact List.nil_sublist _
    | true =>
      refine .inr fun message ↦ ?_
      obtain ⟨rest, hraw, htrim⟩ := exists_keyedOf (k :: key) message
      have hnone : keyed? (k :: key) (Text.firstLine (Text.trimStart message)) = none := by
        apply Option.not_isSome_iff_eq_none.1
        intro h
        rw [isBlank_of_keyed?_firstLine h] at hk
        cases hk
      rw [hraw, htrim, hnone]
      exact List.sublist_append_right _ _

theorem entriesOf_trim_eq_iff (key : Option Text) (message : Text) :
    entriesOf key (Text.trim message) = entriesOf key message ↔ ¬IsShifted key message := by
  rcases key with - | - | ⟨k, key⟩
  · exact iff_of_true (entriesOf_trim_of_whole _ (.inl rfl) message) not_isShifted_none
  · exact iff_of_true (entriesOf_trim_of_whole _ (.inr rfl) message) not_isShifted_nil
  · have hne : k :: key ≠ [] := List.cons_ne_nil k key
    obtain ⟨rest, hraw, htrim⟩ := exists_keyedOf (k :: key) message
    rw [entriesOf_some hne, entriesOf_some hne, hraw, htrim, List.append_left_inj,
      isShifted_some_iff hne]
    by_cases hi : indentation message = []
    · simp [hi]
    · have hboth : (keyed? (k :: key) (indentation message ++
          Text.firstLine (Text.trimStart message))).isSome → Text.isBlank k = true :=
        isBlank_of_keyed?_indentation hi
      have hone : (keyed? (k :: key) (Text.firstLine (Text.trimStart message))).isSome →
          Text.isBlank k = false := isBlank_of_keyed?_firstLine
      cases h : keyed? (k :: key) (Text.firstLine (Text.trimStart message)) with
      | none =>
        cases h' : keyed? (k :: key) (indentation message ++
            Text.firstLine (Text.trimStart message)) <;> simp [hi]
      | some entry =>
        cases h' : keyed? (k :: key) (indentation message ++
            Text.firstLine (Text.trimStart message)) with
        | none => simp [hi]
        | some entry' =>
          have hk := hone (by rw [h]; rfl)
          rw [hboth (by rw [h']; rfl)] at hk
          cases hk

section

variable (key : Option Text) (messages : List Text)

theorem entries_map_trim : entries key (messages.map Text.trim) =
    messages.reverse.flatMap fun message ↦ entriesOf key (Text.trim message) := by
  rw [entries, ← List.map_reverse, List.flatMap_map]

theorem entries_trim_sublist :
    (entries key messages).Sublist (entries key (messages.map Text.trim)) ∨
    (entries key (messages.map Text.trim)).Sublist (entries key messages) := by
  rw [entries_map_trim, entries]
  rcases entriesOf_trim_sublist key with h | h
  · exact .inl (List.Sublist.flatMap_right _ fun message _ ↦ h message)
  · exact .inr (List.Sublist.flatMap_right _ fun message _ ↦ h message)

theorem entries_trim_eq_iff : entries key (messages.map Text.trim) = entries key messages ↔
    ∀ message ∈ messages, ¬IsShifted key message := by
  rw [entries_map_trim, entries]
  have hmem : ∀ message, message ∈ messages ↔ message ∈ messages.reverse :=
    fun _ ↦ List.mem_reverse.symm
  simp only [← entriesOf_trim_eq_iff, hmem]
  rcases entriesOf_trim_sublist key with h | h
  · rw [eq_comm, flatMap_eq_iff_of_sublist fun message _ ↦ h message]
    exact forall₂_congr fun message _ ↦ eq_comm
  · exact flatMap_eq_iff_of_sublist fun message _ ↦ h message

end

end BuildTags.Changelog
