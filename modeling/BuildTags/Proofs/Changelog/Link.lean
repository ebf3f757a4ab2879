import BuildTags.Proofs.Regex.Segment
import BuildTags.Changelog.Rendering

namespace BuildTags.Changelog

def LinkFormat.around (issue url : Text) : LinkFormat → Text
  | .html => "<a href=\"" ++ (url ++ ("\">" ++ (issue ++ "</a>")))
  | .markdown => "[" ++ (issue ++ ("](" ++ (url ++ ")")))
  | .slack => "<" ++ (url ++ ("|" ++ (issue ++ ">")))

theorem LinkFormat.link_eq (issue url : Text) (format : LinkFormat) :
    format.link issue url = format.around issue url := by
  cases format <;> rfl

variable {settings : Settings} {format : LinkFormat} {text : Text}

theorem withLinks_of_segments (h : LinkFormat.ofName? settings.linkFormat = some format)
    {pieces : List (Text × Text)} {last : Text}
    (hs : settings.issues.regex.segments text = Regex.segmentsOf pieces last) :
    withLinks settings text = .ok (pieces.flatMap (fun piece ↦
      piece.1 ++ format.around piece.2 (settings.urlStart ++ piece.2)) ++ last) := by
  rw [withLinks, h]
  simp only [hs, Regex.segmentsOf, List.flatMap_append, List.flatMap_assoc, List.flatMap_cons,
    List.flatMap_nil, List.append_nil, LinkFormat.link_eq]

/-- A text is cut at the successive matches of the issue pattern; each match becomes a link, and
the rest stays as it is. -/
theorem links_wrap_matches (settings : Settings) {format : LinkFormat} (text : Text)
    (h : LinkFormat.ofName? settings.linkFormat = some format) :
    ∃ (pieces : List (Text × Text)) (last : Text),
      (∀ pieces' last', settings.issues.regex.Finds false [] text pieces' last' ↔
        pieces' = pieces ∧ last' = last) ∧
      text = pieces.flatMap (fun piece ↦ piece.1 ++ piece.2) ++ last ∧
      withLinks settings text = .ok (pieces.flatMap (fun piece ↦
        piece.1 ++ format.around piece.2 (settings.urlStart ++ piece.2)) ++ last) ∧
      (pieces = [] → withLinks settings text = .ok text) ∧
      ∀ size fuel, text.length ≤ size → 2 * text.length + 2 ≤ fuel →
        settings.issues.regex.segmentsFrom size fuel false [] 0 text =
          settings.issues.regex.segments text := by
  obtain ⟨pieces, last, hf, hs⟩ :=
    settings.issues.regex.exists_finds_of_le (Nat.le_refl text.length) (Nat.le_refl _)
  have hcut := hf.eq_flatMap
  have hlinks := withLinks_of_segments h hs
  refine ⟨pieces, last, fun pieces' last' ↦ ⟨hf.unique, ?_⟩, hcut, hlinks, ?_, ?_⟩
  · rintro ⟨rfl, rfl⟩
    exact hf
  · rintro rfl
    rw [hlinks, hcut]
    rfl
  · intro size fuel hsize hfuel
    obtain ⟨pieces', last', hf', hs'⟩ := settings.issues.regex.exists_finds_of_le hsize hfuel
    obtain ⟨rfl, rfl⟩ := hf.unique hf'
    exact hs'.trans hs.symm

def anyDigits : IssuePattern where
  source := "\\d*"
  regex := ⟨.loop .most 0 none (.letter (.set [.category .digit false] .exact false false))⟩
  reads := ⟨fun _ ↦ none, by decide +kernel⟩

/-- An empty match becomes a link like any other, and what looks like a field or a reference to a
group is left as it is. -/
theorem empty_matches_linked :
    let settings : Settings := { issues := anyDigits, urlStart := "\x7b0\x7d\\1%s" }
    LinkFormat.ofName? settings.linkFormat = some .markdown ∧
    ∃ pieces last, settings.issues.regex.Finds false [] "a12" pieces last ∧
      "a12" = pieces.flatMap (fun piece ↦ piece.1 ++ piece.2) ++ last ∧
      pieces.flatMap (fun piece ↦
        piece.1 ++ LinkFormat.markdown.around piece.2 (settings.urlStart ++ piece.2)) ++ last =
      "[](\x7b0\x7d\\1%s)a[12](\x7b0\x7d\\1%s12)[](\x7b0\x7d\\1%s)" := by
  intro settings
  have h : LinkFormat.ofName? settings.linkFormat = some .markdown := by decide
  obtain ⟨pieces, last, hf, hcut, hl, -⟩ := links_wrap_matches settings "a12" h
  refine ⟨h, pieces, last, (hf _ _).2 ⟨rfl, rfl⟩, hcut, ?_⟩
  have hrun : (withLinks settings "a12").toOption =
      some "[](\x7b0\x7d\\1%s)a[12](\x7b0\x7d\\1%s12)[](\x7b0\x7d\\1%s)" := by decide +kernel
  rw [hl] at hrun
  exact Option.some.inj hrun

end BuildTags.Changelog
