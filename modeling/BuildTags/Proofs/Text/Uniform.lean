import BuildTags.Proofs.Text.Trim
import BuildTags.Text.Line

namespace BuildTags.Text

variable {text more : Text} {c : Char}

theorem uniformLines_cons (h : c ≠ '\r') (text : Text) :
    uniformLines (c :: text) = c :: uniformLines text :=
  uniformLines.eq_4 c text (fun _ hc ↦ absurd hc h) h

theorem uniformLines_return_cons (h : text.head? ≠ some '\n') :
    uniformLines ('\r' :: text) = '\n' :: uniformLines text := by
  have hfeed : ∀ rest, text = '\n' :: rest → False := by
    rintro rest rfl
    exact h rfl
  exact uniformLines.eq_3 text hfeed

theorem uniformLines_of_notMem (h : '\r' ∉ text) : uniformLines text = text := by
  induction text with
  | nil => rfl
  | cons c text ih =>
    obtain ⟨hc, htext⟩ := not_or.1 (mt List.mem_cons.2 h)
    rw [uniformLines_cons (Ne.symm hc), ih htext]

theorem return_notMem_uniformLines (text : Text) : '\r' ∉ uniformLines text := by
  fun_induction uniformLines text with
  | case1 => exact List.not_mem_nil
  | case2 text ih => simp [ih]
  | case3 text _ ih => simp [ih]
  | case4 c text _ hc ih =>
    refine mt List.mem_cons.1 (not_or.2 ⟨?_, ih⟩)
    exact fun he ↦ hc he.symm

theorem uniformLines_eq_self_iff : uniformLines text = text ↔ '\r' ∉ text :=
  ⟨fun h ↦ h ▸ return_notMem_uniformLines text, uniformLines_of_notMem⟩

theorem uniformLines_ne_nil (h : text ≠ []) : uniformLines text ≠ [] := by
  fun_cases uniformLines text with
  | case1 => exact absurd rfl h
  | case2 text => exact List.cons_ne_nil _ _
  | case3 text => exact List.cons_ne_nil _ _
  | case4 c text => exact List.cons_ne_nil _ _

theorem mem_of_mem_uniformLines (h : c ∈ uniformLines text) : c = '\n' ∨ c ∈ text := by
  fun_induction uniformLines text with
  | case1 => cases h
  | case2 text ih =>
    rcases List.mem_cons.1 h with rfl | h
    · exact .inl rfl
    · exact (ih h).imp_right fun h ↦ List.mem_cons_of_mem _ (List.mem_cons_of_mem _ h)
  | case3 text _ ih =>
    rcases List.mem_cons.1 h with rfl | h
    · exact .inl rfl
    · exact (ih h).imp_right (List.mem_cons_of_mem _)
  | case4 d text _ hd ih =>
    rcases List.mem_cons.1 h with rfl | h
    · exact .inr List.mem_cons_self
    · exact (ih h).imp_right (List.mem_cons_of_mem _)

theorem notMem_uniformLines (hc : c ≠ '\n') (h : c ∉ text) : c ∉ uniformLines text :=
  fun hm ↦ (mem_of_mem_uniformLines hm).elim hc h

/-- The line ends of two texts are their own unless one stands across the place where they meet. -/
theorem uniformLines_append (h : text.getLast? = some '\r' → more.head? ≠ some '\n') :
    uniformLines (text ++ more) = uniformLines text ++ uniformLines more := by
  have hlast : ∀ (c : Char) (text : Text), text.getLast? = some '\r' →
      (c :: text).getLast? = some '\r' := by
    intro c text hr
    rw [List.getLast?_cons, hr, Option.getD_some]
  fun_induction uniformLines text with
  | case1 => rfl
  | case2 text ih =>
    exact congrArg ('\n' :: ·) (ih fun hr ↦ h (hlast _ _ (hlast _ _ hr)))
  | case3 text hfeed ih =>
    have hhead : (text ++ more).head? ≠ some '\n' := by
      cases text with
      | nil => exact h rfl
      | cons d text =>
        intro hd
        cases hd
        exact hfeed text rfl
    rw [List.cons_append, uniformLines_return_cons hhead, ih fun hr ↦ h (hlast _ _ hr)]
    rfl
  | case4 c text _ hc ih =>
    rw [List.cons_append, uniformLines_cons hc, ih fun hr ↦ h (hlast _ _ hr)]
    rfl

theorem uniformLines_append_cons (h : c ≠ '\n') (h' : c ≠ '\r') (text more : Text) :
    uniformLines (text ++ c :: more) = uniformLines text ++ c :: uniformLines more := by
  have hhead : (c :: more).head? ≠ some '\n' := fun he ↦ h (Option.some.inj he)
  rw [uniformLines_append fun _ ↦ hhead, uniformLines_cons h']

theorem lines_cons_of_mem (hc : c ∈ lineEnds)
    (h : ∀ rest, c = '\r' → text = '\n' :: rest → False) :
    lines (c :: text) = [] :: lines text :=
  (lines.eq_3 c text h).trans (if_pos hc)

theorem lines_feed_cons (text : Text) : lines ('\n' :: text) = [] :: lines text :=
  lines_cons_of_mem (by decide) fun _ h ↦ absurd h (by decide)

theorem lines_cons_of_ne (h : c ≠ '\r') (text : Text) : lines (c :: text) =
    if c ∈ lineEnds then [] :: lines text
    else match lines text with
      | [] => [[c]]
      | line :: rest => (c :: line) :: rest :=
  lines.eq_3 c text fun _ hc ↦ absurd hc h

theorem lines_uniformLines (text : Text) : lines (uniformLines text) = lines text := by
  fun_induction uniformLines text with
  | case1 => rfl
  | case2 text ih => rw [lines_feed_cons, lines, ih]
  | case3 text hfeed ih =>
    rw [lines_feed_cons, ih, lines_cons_of_mem (by decide) fun rest _ ↦ hfeed rest]
  | case4 c text _ hc ih =>
    rw [lines_cons_of_ne hc, lines_cons_of_ne hc, ih]

theorem blank_uniformLines (text : Text) : blank (uniformLines text) = blank text := by
  fun_induction uniformLines text with
  | case1 => rfl
  | case2 text ih => exact ih
  | case3 text _ ih => exact ih
  | case4 c text _ _ ih => exact congrArg (isBlank c && ·) ih

theorem IsTrimmed.uniformLines (h : IsTrimmed text) : IsTrimmed (uniformLines text) := by
  constructor
  · cases text with
    | nil => nofun
    | cons c text =>
      have hc : c ≠ '\r' := by
        rintro rfl
        exact absurd (h.head _ rfl) (by decide)
      rw [uniformLines_cons hc]
      exact h.head
  · cases text using List.reverseRecOn with
    | nil => nofun
    | append_singleton text c =>
      have hlast : isBlank c = false := h.last c (List.getLast?_concat ..)
      have hfeed : c ≠ '\n' := by
        rintro rfl
        exact absurd hlast (by decide)
      have hreturn : c ≠ '\r' := by
        rintro rfl
        exact absurd hlast (by decide)
      have hlines : Text.uniformLines (text ++ [c]) = Text.uniformLines text ++ [c] :=
        uniformLines_append_cons hfeed hreturn text []
      rw [hlines]
      intro d hd
      rw [List.getLast?_concat] at hd
      rwa [← Option.some.inj hd]

theorem trim_uniformLines (text : Text) :
    trim (uniformLines text) = uniformLines (trim text) := by
  obtain ⟨start, tail, hs, ht, htext⟩ := exists_trim text
  have htrimmed := isTrimmed_trim text
  cases hvisible : trim text with
  | nil =>
    have hblank := trim_eq_nil_iff.1 hvisible
    rw [trim_of_blank ((blank_uniformLines text).trans hblank)]
    rfl
  | cons c rest =>
    rw [hvisible] at htext htrimmed
    have hfeed : c ≠ '\n' := by
      rintro rfl
      exact absurd (htrimmed.head _ rfl) (by decide)
    have hreturn : c ≠ '\r' := by
      rintro rfl
      exact absurd (htrimmed.head _ rfl) (by decide)
    have hlast : (c :: rest).getLast? = some '\r' → tail.head? ≠ some '\n' := by
      intro hr
      exact absurd (htrimmed.last _ hr) (by decide)
    rw [htext, List.cons_append, uniformLines_append_cons hfeed hreturn,
      ← uniformLines_cons hreturn, ← List.cons_append, uniformLines_append hlast]
    exact htrimmed.uniformLines.trim_append ((blank_uniformLines start).trans hs)
      ((blank_uniformLines tail).trans ht)

end BuildTags.Text
