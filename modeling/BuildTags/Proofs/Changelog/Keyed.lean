import BuildTags.Proofs.Changelog.Entry

namespace BuildTags.Changelog

inductive Line
  | keyed (entry : Text)
  | other (text : Text)

namespace Line

def write (key : Text) : Line → Text
  | .keyed entry => key ++ ": " ++ entry
  | .other text => text

def entry? : Line → Option Text
  | .keyed entry => some entry
  | .other _ => none

/-- Whether the entry of a line is not empty and trimmed, and whether another line does not begin like
one with an entry. -/
inductive IsProper (key : Text) : Line → Prop
  | keyed {entry : Text} (hne : entry ≠ []) (ht : Text.IsTrimmed entry) : IsProper key (.keyed entry)
  | other {text : Text} (h : ¬(key ++ ": " : Text) <+: text) : IsProper key (.other text)

instance (key : Text) : (line : Line) → Decidable (line.IsProper key)
  | .keyed entry =>
    decidable_of_iff (entry ≠ [] ∧ Text.trim entry = entry)
      ⟨fun h ↦ .keyed h.1 (h.2 ▸ Text.isTrimmed_trim entry),
        fun | .keyed hne ht => ⟨hne, ht.trim_eq⟩⟩
  | .other text =>
    decidable_of_iff (¬(key ++ ": " : Text) <+: text) ⟨.other, fun | .other h => h⟩

end Line

def writtenMessage (key : Text) (lines : List Line) : Text := Text.join "\n" (lines.map (Line.write key))

variable {key entry : Text} {line : Line} {lines : List Line}

theorem trimmed?_of_isTrimmed (hne : entry ≠ []) (ht : Text.IsTrimmed entry) :
    trimmed? entry = some entry := by
  rw [trimmed?, ht.trim_eq]
  cases entry with
  | nil => exact absurd rfl hne
  | cons c entry => rfl

theorem keyed?_write (h : line.IsProper key) : keyed? key (line.write key) = line.entry? := by
  cases h with
  | keyed hne ht => exact keyed?_eq_some_iff.2 ⟨_, rfl, trimmed?_of_isTrimmed hne ht⟩
  | other h =>
    apply Option.eq_none_iff_forall_ne_some.2
    intro entry he
    obtain ⟨rest, hr, -⟩ := keyed?_eq_some_iff.1 he
    exact h ⟨rest, hr.symm⟩

theorem keyedOf_join {pieces : List Text} (h : ∀ piece ∈ pieces, ∀ c ∈ piece, Text.isLineEnd c = false) :
    keyedOf key (Text.join "\n" pieces) = pieces.filterMap (keyed? key) := by
  induction pieces with
  | nil => exact keyedOf_of_blank rfl
  | cons piece pieces ih =>
    obtain ⟨hpiece, hpieces⟩ := List.forall_mem_cons.1 h
    have hone : [piece].filterMap (keyed? key) = keyedOf key piece := by
      rw [keyedOf_of_line hpiece, List.filterMap_cons]
      cases keyed? key piece <;> rfl
    cases pieces with
    | nil => exact hone.symm
    | cons next pieces =>
      have hjoin : Text.join "\n" (piece :: next :: pieces) =
          piece ++ '\n' :: Text.join "\n" (next :: pieces) := by
        simp [Text.join]
      rw [hjoin, keyedOf_append_cons (by decide), ih hpieces, ← hone, ← List.filterMap_append]
      rfl

theorem entriesOf_writtenMessage (hk : key ≠ []) (hp : ∀ line ∈ lines, line.IsProper key)
    (hl : ∀ line ∈ lines, ∀ c ∈ line.write key, Text.isLineEnd c = false) :
    entriesOf (some key) (writtenMessage key lines) = lines.filterMap Line.entry? := by
  rw [entriesOf_some hk, writtenMessage, keyedOf_join (List.forall_mem_map.2 hl), List.filterMap_map]
  exact List.filterMap_congr fun line hm ↦ keyed?_write (hp line hm)

theorem entries_append (key : Option Text) (messages messages' : List Text) :
    entries key (messages ++ messages') = entries key messages' ++ entries key messages := by
  rw [entries, List.reverse_append, List.flatMap_append, entries, entries]

/-- The entries of messages that are made of lines with entries and of other lines are those of the
lines, the last message first. -/
theorem keyed_entries_recovered :
    (∀ (key : Text) (commits : List (List Line)), key ≠ [] →
      (∀ lines ∈ commits, ∀ line ∈ lines, line.IsProper key ∧
        ∀ c ∈ line.write key, Text.isLineEnd c = false) →
      entries (some key) (commits.map (writtenMessage key)) =
        commits.reverse.flatMap fun lines ↦ lines.filterMap Line.entry?) ∧
    ∀ (key : Option Text) (messages messages' : List Text),
      entries key (messages ++ messages') = entries key messages' ++ entries key messages := by
  refine ⟨fun key commits hk h ↦ ?_, entries_append⟩
  rw [entries, ← List.map_reverse, List.flatMap_map]
  refine List.flatMap_congr fun lines hm ↦ ?_
  have hlines := h lines (List.mem_reverse.1 hm)
  exact entriesOf_writtenMessage hk (fun line hm ↦ (hlines line hm).1) fun line hm ↦ (hlines line hm).2

def mixedCommits : List (List Line) :=
  [[.other "Fix crash", .other "", .keyed "CHANGELOG: B", .other "CHANGELOG:C", .keyed "at\tD"],
    [.other " CHANGELOG: E", .keyed "F"]]

theorem mixed_commits_recovered :
    (∀ lines ∈ mixedCommits, ∀ line ∈ lines, line.IsProper "CHANGELOG" ∧
      ∀ c ∈ line.write "CHANGELOG", Text.isLineEnd c = false) ∧
    entries (some "CHANGELOG") (mixedCommits.map (writtenMessage "CHANGELOG")) =
      ["F", "CHANGELOG: B", "at\tD"] := by
  have hproper : ∀ lines ∈ mixedCommits, ∀ line ∈ lines, line.IsProper "CHANGELOG" := by decide
  have hline : ∀ lines ∈ mixedCommits, ∀ line ∈ lines,
      (line.write "CHANGELOG").any Text.isLineEnd = false := by decide
  have h : ∀ lines ∈ mixedCommits, ∀ line ∈ lines, line.IsProper "CHANGELOG" ∧
      ∀ c ∈ line.write "CHANGELOG", Text.isLineEnd c = false := by
    intro lines hm line hn
    have hnone := List.any_eq_false.1 (hline lines hm line hn)
    exact ⟨hproper lines hm line hn, fun c hc ↦ Bool.eq_false_iff.2 (hnone c hc)⟩
  have hentries := keyed_entries_recovered.1 "CHANGELOG" mixedCommits (by decide) h
  exact ⟨h, hentries.trans (by decide)⟩

end BuildTags.Changelog
