import BuildTags.Text.Basic
import Mathlib.Data.List.Basic

namespace BuildTags.Text

variable {c : Char} {text piece : Text}

theorem splitOn_cons_self (c : Char) (text : Text) :
    (c :: text).splitOn c = [] :: text.splitOn c := by
  rw [List.splitOn_cons_eq_if_modifyHead, if_pos (beq_self_eq_true c)]

theorem splitOn_cons_of_ne {d : Char} (h : d ≠ c) (text : Text) :
    (d :: text).splitOn c = (text.splitOn c).modifyHead (d :: ·) := by
  rw [List.splitOn_cons_eq_if_modifyHead, if_neg]
  simpa using h

theorem notMem_of_mem_splitOn (h : piece ∈ text.splitOn c) : c ∉ piece := by
  induction text generalizing piece with
  | nil =>
    rw [List.splitOn_nil, List.mem_singleton] at h
    rw [h]
    exact List.not_mem_nil
  | cons d text ih =>
    by_cases hd : d = c
    · subst hd
      rw [splitOn_cons_self] at h
      rcases List.mem_cons.1 h with rfl | h
      · exact List.not_mem_nil
      · exact ih h
    · rw [splitOn_cons_of_ne hd] at h
      cases hs : text.splitOn c with
      | nil => exact absurd hs (List.splitOn_ne_nil c text)
      | cons first rest =>
        rw [hs] at h ih
        rcases List.mem_cons.1 h with rfl | h
        · intro hm
          rcases List.mem_cons.1 hm with rfl | hm
          · exact hd rfl
          · exact ih List.mem_cons_self hm
        · exact ih (List.mem_cons_of_mem _ h)

theorem infix_intercalate (mark : Text) {pieces : List Text} (h : piece ∈ pieces) :
    piece <:+: mark.intercalate pieces := by
  induction pieces with
  | nil => cases h
  | cons first pieces ih =>
    cases pieces with
    | nil =>
      have hone : mark.intercalate [first] = piece := by
        rw [List.mem_singleton.1 h, List.intercalate_singleton]
      exact hone ▸ List.infix_rfl
    | cons next pieces =>
      rw [List.intercalate_cons_cons, List.append_assoc]
      rcases List.mem_cons.1 h with rfl | h
      · exact (List.prefix_append _ _).isInfix
      · have hrest := (List.suffix_append mark (mark.intercalate (next :: pieces))).isInfix
        exact (ih h).trans (hrest.trans (List.suffix_append first _).isInfix)

theorem infix_of_mem_splitOn (h : piece ∈ text.splitOn c) : piece <:+: text := by
  have hinfix := infix_intercalate [c] h
  rwa [List.intercalate_splitOn] at hinfix

end BuildTags.Text
