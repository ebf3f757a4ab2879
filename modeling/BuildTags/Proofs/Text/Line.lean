import BuildTags.Text.Line
import Mathlib.Data.List.Basic
import Mathlib.Data.List.DropRight
import Mathlib.Data.List.Induction

namespace BuildTags.Text

def isLineEnd (c : Char) : Bool := c ∈ lineEnds

variable {α : Type} {f : Text → Option α} {text : Text} {c : Char}

theorem splitOnP_cons_of_isLineEnd (h : isLineEnd c = true) (text : Text) :
    (c :: text).splitOnP isLineEnd = [] :: text.splitOnP isLineEnd := by
  rw [List.splitOnP_cons_eq_if_modifyHead, if_pos h]

theorem splitOnP_cons_of_not_isLineEnd (h : isLineEnd c = false) (text : Text) :
    (c :: text).splitOnP isLineEnd = (text.splitOnP isLineEnd).modifyHead (c :: ·) := by
  rw [List.splitOnP_cons_eq_if_modifyHead, if_neg (by simp [h])]

/-- Whether two lists of lines begin with the same line and go on with lines in which the same is found.
No lines at all are like one that is empty. -/
inductive LinesLike (f : Text → Option α) : List Text → List Text → Prop
  | empty : LinesLike f [] [[]]
  | leading (first : Text) {rest rest' : List Text} (h : rest.filterMap f = rest'.filterMap f) :
      LinesLike f (first :: rest) (first :: rest')

theorem LinesLike.filterMap_eq {found found' : List Text} (hf : f [] = none)
    (h : LinesLike f found found') : found.filterMap f = found'.filterMap f := by
  cases h with
  | empty => rw [List.filterMap_cons, hf]
  | leading first h => rw [List.filterMap_cons, List.filterMap_cons, h]

theorem linesLike_splitOnP (hf : f [] = none) (text : Text) :
    LinesLike f (lines text) (text.splitOnP isLineEnd) := by
  fun_induction lines text with
  | case1 => exact .empty
  | case2 text ih =>
    -- The piece between the carriage return and the line feed is empty.
    rw [splitOnP_cons_of_isLineEnd (by decide), splitOnP_cons_of_isLineEnd (by decide)]
    apply LinesLike.leading
    rw [List.filterMap_cons, hf, ih.filterMap_eq hf]
  | case3 c text _ hc ih =>
    rw [splitOnP_cons_of_isLineEnd (decide_eq_true hc)]
    exact .leading [] (ih.filterMap_eq hf)
  | case4 c text _ hc hnil ih =>
    rw [hnil] at ih
    rw [splitOnP_cons_of_not_isLineEnd (decide_eq_false hc)]
    generalize text.splitOnP isLineEnd = pieces at ih
    cases ih
    exact .leading [c] rfl
  | case5 c text _ hc line rest hlines ih =>
    rw [hlines] at ih
    rw [splitOnP_cons_of_not_isLineEnd (decide_eq_false hc)]
    generalize text.splitOnP isLineEnd = pieces at ih
    cases ih with
    | leading first h => exact .leading (c :: line) h

/-- What is found in the lines of a text is found between its line ends, if there is nothing to find
in an empty line. -/
theorem filterMap_lines (hf : f [] = none) (text : Text) :
    (lines text).filterMap f = (text.splitOnP isLineEnd).filterMap f :=
  (linesLike_splitOnP hf text).filterMap_eq hf

def firstLine (text : Text) : Text := text.takeWhile fun c ↦ !isLineEnd c

theorem splitOnP_eq_firstLine_cons (text : Text) :
    ∃ rest, text.splitOnP isLineEnd = firstLine text :: rest := by
  induction text with
  | nil => exact ⟨[], rfl⟩
  | cons c text ih =>
    obtain ⟨rest, hr⟩ := ih
    cases hc : isLineEnd c with
    | true =>
      have hfirst : firstLine (c :: text) = [] := List.takeWhile_cons_of_neg (by simp [hc])
      exact ⟨_, hfirst ▸ splitOnP_cons_of_isLineEnd hc text⟩
    | false =>
      have hfirst : firstLine (c :: text) = c :: firstLine text :=
        List.takeWhile_cons_of_pos (by simp [hc])
      refine ⟨rest, ?_⟩
      rw [splitOnP_cons_of_not_isLineEnd hc, hr, hfirst]
      rfl

theorem splitOnP_append_of_not_isLineEnd {start first : Text} {rest : List Text}
    (hs : ∀ c ∈ start, isLineEnd c = false) (h : text.splitOnP isLineEnd = first :: rest) :
    (start ++ text).splitOnP isLineEnd = (start ++ first) :: rest := by
  induction start with
  | nil => exact h
  | cons c start ih =>
    obtain ⟨hc, hstart⟩ := List.forall_mem_cons.1 hs
    rw [List.cons_append, splitOnP_cons_of_not_isLineEnd hc, ih hstart]
    rfl

def lastLine (text : Text) : Text := text.rtakeWhile fun c ↦ !isLineEnd c

theorem not_isLineEnd_of_mem_lastLine (h : c ∈ lastLine text) : isLineEnd c = false := by
  have hc := List.mem_rtakeWhile_imp (p := fun c ↦ !isLineEnd c) h
  rwa [Bool.not_eq_true'] at hc

theorem eq_lastLine_or (text : Text) :
    text = lastLine text ∨
      ∃ before c, isLineEnd c = true ∧ text = before ++ c :: lastLine text := by
  induction text using List.reverseRecOn with
  | nil => exact .inl rfl
  | append_singleton text c ih =>
    cases hc : isLineEnd c with
    | true =>
      have hlast : lastLine (text ++ [c]) = [] := List.rtakeWhile_concat_neg _ _ c (by simp [hc])
      exact .inr ⟨text, c, hc, by rw [hlast]⟩
    | false =>
      have hlast : lastLine (text ++ [c]) = lastLine text ++ [c] :=
        List.rtakeWhile_concat_pos _ _ c (by simp [hc])
      rw [hlast]
      rcases ih with h | ⟨before, d, hd, h⟩
      · exact .inl (congrArg (· ++ [c]) h)
      · refine .inr ⟨before, d, hd, ?_⟩
        rw [← List.cons_append, ← List.append_assoc, ← h]

end BuildTags.Text
