import BuildTags.Proofs.Changelog.Entry
import BuildTags.Proofs.Changelog.Link
import BuildTags.Proofs.Changelog.Rendering
import Mathlib.Data.List.Forall2

namespace BuildTags.Changelog

/-- Whether some lines stand over the rest of a changelog: the message of a build between two stars,
and nothing if the message is blank. -/
inductive IsHeading (message : Text) : List Text → Prop
  | blank (h : Text.blank message = true) : IsHeading message []
  | said (h : Text.blank message = false) : IsHeading message ['*' :: (Text.trim message ++ ['*'])]

/-- Whether some parts stand under the heading of a changelog: one for each entry, in their order, and
without entries the one that names the previous build. -/
inductive IsBody (settings : Settings) : List Text → Option Build → List Text → Prop
  | unchanged (build : Build) :
      IsBody settings [] (some build) [noChanges ++ " (" ++ build.name ++ ")"]
  | changed {entries parts : List Text} (previous : Option Build) (hne : entries ≠ [])
      (h : entries.Forall₂ (fun entry part ↦ ∃ linked, withLinks settings entry = .ok linked ∧
        part = "• " ++ linked) parts) : IsBody settings entries previous parts

variable {settings : Settings} {current : Build} {previous : Option Build} {format : LinkFormat}
  {text entry message : Text} {key : Option Text} {messages found lines parts header : List Text}

theorem LinkFormat.endsVisible_around (issue url : Text) (format : LinkFormat) :
    (format.around issue url).EndsVisible := by
  have hangle : Text.EndsVisible ">" := Text.endsVisible_singleton (by decide)
  have hround : Text.EndsVisible ")" := Text.endsVisible_singleton (by decide)
  cases format with
  | html =>
    have hend : Text.EndsVisible "</a>" := hangle.append "</a"
    exact (((hend.append issue).append "\">").append url).append "<a href=\""
  | markdown => exact (((hround.append url).append "](").append issue).append "["
  | slack => exact (((hangle.append issue).append "|").append url).append "<"

theorem exists_withLinks_endsVisible (hf : settings.HasFormat) (h : text.EndsVisible) :
    ∃ linked, withLinks settings text = .ok linked ∧ linked.EndsVisible := by
  obtain ⟨format, he⟩ := Option.isSome_iff_exists.1 hf
  obtain ⟨pieces, last, hfinds, hs⟩ :=
    settings.issues.regex.exists_finds_of_le (Nat.le_refl text.length) (Nat.le_refl _)
  refine ⟨_, withLinks_of_segments he hs, ?_⟩
  cases last with
  | cons c last =>
    obtain ⟨d, hd, hb⟩ := h
    rw [hfinds.eq_flatMap, List.getLast?_append_cons] at hd
    exact Text.EndsVisible.append ⟨d, hd, hb⟩ _
  | nil =>
    cases pieces using List.reverseRecOn with
    | nil =>
      rw [hfinds.eq_flatMap] at h
      exact h
    | append_singleton pieces piece =>
      rw [List.append_nil, List.flatMap_append, List.flatMap_singleton]
      exact ((format.endsVisible_around _ _).append _).append _

theorem trimmed?_eq_some (h : trimmed? text = some entry) :
    entry ≠ [] ∧ entry = Text.trim text := by
  rw [trimmed?] at h
  split at h
  · cases h
  · rename_i hne
    obtain rfl := Option.some.inj h
    exact ⟨hne, rfl⟩

theorem endsVisible_of_mem_entries (h : entry ∈ entries key messages) : entry.EndsVisible := by
  have htrimmed : ∃ text, trimmed? text = some entry := by
    obtain ⟨message, -, hm⟩ := List.mem_flatMap.1 h
    rcases key with - | - | ⟨c, key⟩
    · exact ⟨message, Option.mem_toList.1 hm⟩
    · exact ⟨message, Option.mem_toList.1 hm⟩
    · rw [entriesOf_some (List.cons_ne_nil c key)] at hm
      obtain ⟨line, -, hl⟩ := List.mem_filterMap.1 hm
      obtain ⟨rest, -, hr⟩ := keyed?_eq_some_iff.1 hl
      exact ⟨rest, hr⟩
  obtain ⟨text, ht⟩ := htrimmed
  obtain ⟨hne, rfl⟩ := trimmed?_eq_some ht
  exact (Text.isTrimmed_trim text).endsVisible hne

theorem isHeading_heading (current : Build) : IsHeading current.message (heading current) := by
  rw [heading]
  cases ht : trimmed? current.message with
  | none =>
    have hnil : Text.trim current.message = [] := by
      rw [trimmed?] at ht
      split at ht
      · assumption
      · cases ht
    exact .blank (Text.trim_eq_nil_iff.1 hnil)
  | some message =>
    obtain ⟨hne, rfl⟩ := trimmed?_eq_some ht
    refine .said ?_
    cases hb : Text.blank current.message with
    | false => rfl
    | true => exact absurd (Text.trim_eq_nil_iff.2 hb) hne

theorem forall₂_bulletLines (h : bulletLines settings found = .ok lines) :
    found.Forall₂ (fun entry part ↦ ∃ linked, withLinks settings entry = .ok linked ∧
      part = "• " ++ linked) lines := by
  induction found generalizing lines with
  | nil =>
    obtain rfl := Except.ok.inj h
    exact .nil
  | cons entry found ih =>
    rw [bulletLines] at h
    obtain ⟨linked, hl, h⟩ := bind_eq_ok_iff.1 h
    obtain ⟨rest, hr, h⟩ := bind_eq_ok_iff.1 h
    obtain rfl := Except.ok.inj h
    exact .cons ⟨linked, hl, rfl⟩ (ih hr)

theorem IsBody.visible (hf : settings.HasFormat) (hfound : ∀ entry ∈ found, entry.EndsVisible)
    (h : IsBody settings found previous parts) :
    ∀ part ∈ parts, part.BeginsVisible ∧ part.EndsVisible := by
  cases h with
  | unchanged build =>
    intro part hm
    obtain rfl := List.mem_singleton.1 hm
    have hbegins : noChanges.BeginsVisible := ⟨'N', rfl, by decide⟩
    have hends : Text.EndsVisible ")" := Text.endsVisible_singleton (by decide)
    exact ⟨((hbegins.append _).append _).append _, hends.append _⟩
  | changed previous hne h =>
    intro part hm
    obtain ⟨i, hi, rfl⟩ := List.mem_iff_getElem.1 hm
    obtain ⟨linked, hlinked, hpart⟩ := h.get (h.length_eq ▸ hi) hi
    obtain ⟨linked', hlinked', hends⟩ :=
      exists_withLinks_endsVisible hf (hfound _ (List.get_mem _ _))
    obtain rfl := Except.ok.inj (hlinked.symm.trans hlinked')
    rw [List.get_eq_getElem] at hpart
    rw [hpart]
    exact ⟨Text.beginsVisible_cons (by decide) _, hends.append _⟩

theorem IsHeading.visible (h : IsHeading message header) :
    ∀ line ∈ header, line.BeginsVisible ∧ line.EndsVisible := by
  cases h with
  | blank => nofun
  | said =>
    intro line hm
    obtain rfl := List.mem_singleton.1 hm
    have hends : Text.EndsVisible ['*'] := Text.endsVisible_singleton (by decide)
    exact ⟨Text.beginsVisible_cons (by decide) _, hends.append ('*' :: Text.trim message)⟩

theorem exists_isBody (hf : settings.HasFormat) (current : Build)
    (h : entries settings.key messages ≠ [] ∨ previous ≠ none) :
    ∃ parts, IsBody settings (entries settings.key messages) previous parts ∧
      render current previous messages settings =
        .ok (Text.trim (Text.join "\n" (heading current ++ parts))) := by
  obtain ⟨lines, hl⟩ := exists_bulletLines hf (entries settings.key messages)
  have hlines := forall₂_bulletLines hl
  rw [render_eq_body hl]
  generalize entries settings.key messages = found at h hlines
  cases hlines with
  | nil =>
    cases previous with
    | none => simp at h
    | some build => exact ⟨_, .unchanged build, rfl⟩
  | cons hfirst hrest =>
    exact ⟨_, .changed previous (List.cons_ne_nil _ _) (.cons hfirst hrest), rfl⟩

theorem isTrimmed_join_heading (hf : settings.HasFormat) (current : Build)
    (h : IsBody settings (entries key messages) previous parts) :
    Text.IsTrimmed (Text.join "\n" (heading current ++ parts)) := by
  have hparts := h.visible hf fun entry ↦ endsVisible_of_mem_entries
  apply Text.isTrimmed_join
  intro piece hm
  obtain hm | hm := List.mem_append.1 hm
  · exact (isHeading_heading current).visible piece hm
  · exact hparts piece hm

/-- Without entries and without a previous build a changelog says that nothing has changed. Any other
one is its heading and its parts with a line feed between two of them, and trimming takes nothing
away. -/
theorem render_shape (current : Build) (previous : Option Build) (messages : List Text)
    {settings : Settings} (hf : settings.HasFormat) :
    (entries settings.key messages = [] ∧ previous = none →
      render current previous messages settings =
        .ok "No changes compared to the previous build" ∧
      Text.trim "No changes compared to the previous build" =
        "No changes compared to the previous build") ∧
    (entries settings.key messages ≠ [] ∨ previous ≠ none →
      ∃ header parts, IsHeading current.message header ∧
        IsBody settings (entries settings.key messages) previous parts ∧
        render current previous messages settings = .ok (Text.join "\n" (header ++ parts)) ∧
        Text.trim (Text.join "\n" (header ++ parts)) = Text.join "\n" (header ++ parts)) := by
  constructor
  · rintro ⟨hnone, rfl⟩
    have hlines : bulletLines settings (entries settings.key messages) = .ok [] := by
      rw [hnone]
      rfl
    exact ⟨render_eq_body hlines, by decide⟩
  · intro h
    obtain ⟨parts, hbody, hrender⟩ := exists_isBody hf current h
    have htrimmed := isTrimmed_join_heading hf current hbody
    refine ⟨heading current, parts, isHeading_heading current, hbody, ?_, htrimmed.trim_eq⟩
    rw [hrender, htrimmed.trim_eq]

/-- Entries that end in an empty match, under a heading whose message has white space around it. -/
theorem linked_to_the_end :
    let settings : Settings := { issues := anyDigits, urlStart := "u", linkFormat := "slack" }
    let current : Build := ⟨"v1.0.2-debug", "c2", "\t Release\n", "1.0", "debug", 2⟩
    settings.HasFormat ∧ entries settings.key [" a1\n", "\n"] ≠ [] ∧
    ∃ header parts, IsHeading current.message header ∧
      IsBody settings (entries settings.key [" a1\n", "\n"]) none parts ∧
      Text.join "\n" (header ++ parts) = "*Release*\n• <u|>a<u1|1><u|>" ∧
      Text.trim (Text.join "\n" (header ++ parts)) = Text.join "\n" (header ++ parts) := by
  intro settings current
  have hf : settings.HasFormat := by
    rw [Settings.HasFormat]
    decide
  have hsome : entries settings.key [" a1\n", "\n"] ≠ [] := by decide
  obtain ⟨header, parts, hheading, hbody, hrender, htrim⟩ :=
    (render_shape current none [" a1\n", "\n"] hf).2 (.inl hsome)
  have hrun : (render current none [" a1\n", "\n"] settings).toOption =
      some "*Release*\n• <u|>a<u1|1><u|>" := by decide +kernel
  rw [hrender] at hrun
  exact ⟨hf, hsome, header, parts, hheading, hbody, Option.some.inj hrun, htrim⟩

end BuildTags.Changelog
