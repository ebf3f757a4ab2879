import BuildTags.Proofs.Changelog.History
import BuildTags.Proofs.Text.Trim
import Mathlib.Data.List.Flatten

namespace BuildTags.Changelog

variable {settings : Settings} {current : Build} {previous : Option Build} {lines lines' : List Text}

def bullet : Char := '•'

def body (current : Build) (previous : Option Build) (lines : List Text) : Text :=
  match lines, previous with
  | [], none => noChanges
  | [], some build => Text.trim (Text.join "\n" (heading current ++ [noChangesSince (some build)]))
  | line :: lines, _ => Text.trim (Text.join "\n" (heading current ++ line :: lines))

theorem render_eq_body {messages : List Text}
    (h : bulletLines settings (entries settings.key messages) = .ok lines) :
    render current previous messages settings = .ok (body current previous lines) := by
  rw [render, h, ok_bind]
  cases lines with
  | nil => cases previous <;> rfl
  | cons line lines => rfl

theorem exists_bulletLines_eq_map (hf : settings.HasFormat) :
    ∃ line : Text → Text,
      (∀ entry, ∃ linked, withLinks settings entry = .ok linked ∧ line entry = "• " ++ linked) ∧
      ∀ entries, bulletLines settings entries = .ok (entries.map line) := by
  have hlinks := exists_withLinks hf
  choose link hlink using hlinks
  refine ⟨fun entry ↦ "• " ++ link entry, fun entry ↦ ⟨_, hlink entry, rfl⟩, fun entries ↦ ?_⟩
  induction entries with
  | nil => rfl
  | cons entry entries ih =>
    rw [bulletLines, hlink, ih]
    rfl

theorem exists_join_heading (current : Build) :
    ∃ start, (start = [] ∨ ∃ rest, start = '*' :: rest) ∧
      ∀ line lines, Text.join "\n" (heading current ++ line :: lines) =
        start ++ Text.join "\n" (line :: lines) := by
  rw [heading]
  cases trimmed? current.message with
  | none => exact ⟨[], .inl rfl, fun _ _ ↦ rfl⟩
  | some message =>
    refine ⟨'*' :: message ++ ['*'] ++ "\n", .inr ⟨_, rfl⟩, fun line lines ↦ ?_⟩
    rfl

theorem body_nil_ne (current : Build) (previous : Option Build) (line : Text) (lines : List Text) :
    body current previous [] ≠ body current previous ((bullet :: line) :: lines) := by
  obtain ⟨start, hs, hjoin⟩ := exists_join_heading current
  have hblank : ∀ c ∈ start.head?, Text.isBlank c = false := by
    rcases hs with rfl | ⟨rest, rfl⟩
    · nofun
    · intro c hc
      obtain rfl : '*' = c := Option.some.inj hc
      decide
  obtain ⟨rest, hrest⟩ := Text.exists_join_cons "\n" bullet line lines
  have hcons : ∃ rest', body current previous ((bullet :: line) :: lines) =
      start ++ bullet :: rest' := by
    rw [body, hjoin, hrest]
    exact Text.exists_trim_append_cons hblank (by decide) rest
  obtain ⟨rest', hcons⟩ := hcons
  rw [hcons]
  cases previous with
  | none =>
    have hnone : noChanges = 'N' :: noChanges.tail := by decide
    rw [body, hnone]
    intro he
    rcases hs with rfl | ⟨first, rfl⟩
    · exact absurd (List.cons.inj he).1 (by decide)
    · exact absurd (List.cons.inj he).1 (by decide)
  | some build =>
    have hsince : ∃ text, noChangesSince (some build) = 'N' :: text := by
      rw [noChangesSince]
      exact ⟨_, rfl⟩
    obtain ⟨text, htext⟩ := hsince
    obtain ⟨rest'', hnil⟩ := Text.exists_trim_append_cons hblank (d := 'N') (by decide) text
    have hbody : body current (some build) [] = start ++ 'N' :: rest'' := by
      rw [body, hjoin, htext]
      exact hnil
    rw [hbody]
    intro he
    exact absurd (List.cons.inj (List.append_cancel_left he)).1 (by decide)

theorem eq_of_sublist_of_count_eq {c : Char} {pieces pieces' : List Text}
    (h : pieces.Sublist pieces') (hc : ∀ piece ∈ pieces', c ∈ piece)
    (he : pieces.flatten.count c = pieces'.flatten.count c) : pieces = pieces' := by
  induction h with
  | slnil => rfl
  | cons piece h ih =>
    obtain ⟨hpiece, -⟩ := List.forall_mem_cons.1 hc
    have hle := h.flatten.count_le c
    have hpos := List.count_pos_iff.2 hpiece
    rw [List.flatten_cons, List.count_append] at he
    omega
  | cons_cons piece h ih =>
    obtain ⟨-, hpieces⟩ := List.forall_mem_cons.1 hc
    rw [List.flatten_cons, List.flatten_cons, List.count_append, List.count_append] at he
    rw [ih hpieces (by omega)]

/-- Further lines show: the bullets of a changelog can be counted. -/
theorem eq_of_body_eq (hs : lines.Sublist lines') (hb : ∀ line ∈ lines', ∃ rest, line = bullet :: rest)
    (h : body current previous lines = body current previous lines') : lines = lines' := by
  cases lines with
  | nil =>
    cases lines' with
    | nil => rfl
    | cons line' lines' =>
      obtain ⟨rest, rfl⟩ := hb line' List.mem_cons_self
      exact absurd h (body_nil_ne current previous rest lines')
  | cons line lines =>
    cases lines' with
    | nil => cases hs
    | cons line' lines' =>
      have hcount := congrArg (List.count bullet) h
      have hline : bullet ∉ ("\n" : Text) := by decide
      rw [body, body, Text.count_trim (by decide), Text.count_trim (by decide),
        Text.count_join hline, Text.count_join hline, List.flatten_append, List.flatten_append,
        List.count_append, List.count_append] at hcount
      apply eq_of_sublist_of_count_eq hs
      · intro line hm
        obtain ⟨rest, rfl⟩ := hb line hm
        exact List.mem_cons_self
      · omega

end BuildTags.Changelog
