import BuildTags.Text.Basic
import Mathlib.Data.List.Basic

namespace BuildTags.Text

variable {c : Char} {text before after : Text}

theorem cutFirst?_singleton_eq_some_iff :
    cutFirst? [c] text = some (before, after) ↔ text = before ++ c :: after ∧ c ∉ before := by
  induction text generalizing before with
  | nil => simp [cutFirst?]
  | cons d text ih =>
    by_cases hc : c = d
    · subst hc
      have h : cutFirst? [c] (c :: text) = some ([], text) := by simp [cutFirst?, after?]
      rw [h]
      constructor
      · intro he
        obtain ⟨rfl, rfl⟩ := Prod.mk.inj (Option.some.inj he)
        simp
      · rintro ⟨he, hn⟩
        cases before with
        | nil => simpa using he
        | cons e before => simp_all
    · have h : cutFirst? [c] (d :: text) =
          (cutFirst? [c] text).map fun cut ↦ (d :: cut.1, cut.2) := by
        rw [cutFirst?, after?, if_neg hc]
      rw [h]
      constructor
      · intro he
        obtain ⟨⟨before', after'⟩, hm, he⟩ := Option.map_eq_some_iff.1 he
        obtain ⟨rfl, rfl⟩ := Prod.mk.inj he
        obtain ⟨rfl, hn⟩ := ih.1 hm
        exact ⟨rfl, by simp [hc, hn]⟩
      · rintro ⟨he, hn⟩
        cases before with
        | nil => exact absurd (List.cons.inj he).1.symm hc
        | cons e before =>
          obtain ⟨rfl, rfl⟩ := List.cons.inj he
          rw [ih.2 ⟨rfl, fun hm ↦ hn (List.mem_cons_of_mem _ hm)⟩]
          rfl

theorem append_cons_inj {before' after' : Text} (hb : c ∉ before) (hb' : c ∉ before')
    (h : before ++ c :: after = before' ++ c :: after') : before = before' ∧ after = after' := by
  have hc : cutFirst? [c] (before ++ c :: after) = some (before, after) :=
    cutFirst?_singleton_eq_some_iff.2 ⟨rfl, hb⟩
  rw [h, cutFirst?_singleton_eq_some_iff.2 ⟨rfl, hb'⟩] at hc
  simpa [eq_comm] using hc

theorem exists_append_of_notMem {start rest : Text} (hc : c ∉ start)
    (h : start ++ rest = before ++ c :: after) :
    ∃ more, before = start ++ more ∧ rest = more ++ c :: after := by
  obtain ⟨more, rfl, rfl⟩ | ⟨more, rfl, he⟩ := List.append_eq_append_iff.1 h
  · exact ⟨more, rfl, rfl⟩
  · cases more with
    | nil => exact ⟨[], by simp, he.symm⟩
    | cons d more =>
      obtain ⟨rfl, -⟩ := List.cons.inj he
      simp at hc

theorem exists_cons_append_of_notMem {start rest : Text} (hc : c ∉ rest)
    (h : start ++ rest = before ++ c :: after) :
    ∃ more, start = before ++ c :: more ∧ after = more ++ rest := by
  obtain ⟨more, rfl, rfl⟩ | ⟨more, rfl, he⟩ := List.append_eq_append_iff.1 h
  · simp at hc
  · cases more with
    | nil =>
      rw [List.nil_append] at he
      exact absurd (he ▸ List.mem_cons_self) hc
    | cons d more =>
      obtain ⟨rfl, rfl⟩ := List.cons.inj he
      exact ⟨more, rfl, rfl⟩

theorem eq_of_append_append_eq {part start rest : Text} (hp : c ∈ part) (hb : c ∉ before)
    (h : start ++ (part ++ rest) = before ++ part) : start = before ∧ rest = [] := by
  have hcount := congrArg (List.count c) h
  simp only [List.count_append, List.count_eq_zero.2 hb] at hcount
  have hs : c ∉ start := List.count_eq_zero.1 (by omega)
  obtain ⟨first, more, rfl, hf⟩ := List.eq_append_cons_of_mem hp
  have he : (start ++ first) ++ c :: (more ++ rest) = (before ++ first) ++ c :: more := by
    simpa using h
  obtain ⟨hstart, hrest⟩ := append_cons_inj (by simp [hs, hf]) (by simp [hb, hf]) he
  exact ⟨List.append_cancel_right hstart, by simpa using hrest⟩

theorem cutFirst?_singleton_eq_none_iff : cutFirst? [c] text = none ↔ c ∉ text := by
  constructor
  · intro h hc
    obtain ⟨before, after, rfl, hn⟩ := List.eq_append_cons_of_mem hc
    rw [cutFirst?_singleton_eq_some_iff.2 ⟨rfl, hn⟩] at h
    cases h
  · intro hc
    by_contra h
    obtain ⟨⟨before, after⟩, he⟩ := Option.ne_none_iff_exists'.1 h
    obtain ⟨rfl, -⟩ := cutFirst?_singleton_eq_some_iff.1 he
    simp at hc

theorem cutLast?_singleton_eq_some_iff :
    cutLast? [c] text = some (before, after) ↔ text = before ++ c :: after ∧ c ∉ after := by
  have h : cutLast? [c] text = some (before, after) ↔
      cutFirst? [c] text.reverse = some (after.reverse, before.reverse) := by
    simp only [cutLast?, List.reverse_singleton, Option.map_eq_some_iff, Prod.exists, Prod.mk.injEq]
    constructor
    · rintro ⟨x, y, hxy, rfl, rfl⟩
      simpa using hxy
    · intro hxy
      exact ⟨_, _, hxy, by simp, by simp⟩
  rw [h, cutFirst?_singleton_eq_some_iff, List.reverse_eq_iff]
  simp

theorem cutLast?_singleton_eq_none_iff : cutLast? [c] text = none ↔ c ∉ text := by
  rw [cutLast?, List.reverse_singleton, Option.map_eq_none_iff, cutFirst?_singleton_eq_none_iff,
    List.mem_reverse]

section

variable {start stop : Nat}

theorem lastIndex?_eq_none (h : ∀ i, start ≤ i → i < stop → text[i]? ≠ some c) :
    lastIndex? c text start stop = none := by
  induction stop with
  | zero => rfl
  | succ stop ih =>
    rw [lastIndex?]
    split
    · rfl
    · rw [if_neg (h stop (by omega) (by omega))]
      apply ih
      intro i hi hlt
      exact h i hi (by omega)

theorem lastIndex?_eq_some {i : Nat} (hi : text[i]? = some c) (hs : start ≤ i) (hlt : i < stop)
    (h : ∀ j, i < j → j < stop → text[j]? ≠ some c) : lastIndex? c text start stop = some i := by
  induction stop with
  | zero => omega
  | succ stop ih =>
    rw [lastIndex?, if_neg (by omega)]
    by_cases he : i = stop
    · rw [← he, if_pos hi]
    · rw [if_neg (h stop (by omega) (by omega))]
      apply ih (by omega)
      intro j hj hlt'
      exact h j hj (by omega)

end

/-- Between the borders of a part, a character is found last where the part is cut at it. -/
theorem lastIndex?_between (c : Char) (before part after : Text) :
    lastIndex? c (before ++ (part ++ after)) before.length (before.length + part.length) =
      (cutLast? [c] part).map fun cut ↦ before.length + cut.1.length := by
  have hpart : ∀ i, i < part.length →
      (before ++ (part ++ after))[before.length + i]? = part[i]? := by
    intro i hi
    rw [List.getElem?_append_right (by omega), Nat.add_sub_cancel_left, List.getElem?_append_left hi]
  cases hc : cutLast? [c] part with
  | none =>
    apply lastIndex?_eq_none
    intro i hi hlt he
    obtain ⟨j, rfl⟩ := Nat.exists_eq_add_of_le hi
    rw [hpart j (by omega)] at he
    exact cutLast?_singleton_eq_none_iff.1 hc (List.mem_of_getElem? he)
  | some cut =>
    obtain ⟨head, last⟩ := cut
    obtain ⟨rfl, hn⟩ := cutLast?_singleton_eq_some_iff.1 hc
    rw [Option.map_some]
    rw [List.length_append, List.length_cons] at hpart ⊢
    dsimp only
    apply lastIndex?_eq_some
    · rw [hpart _ (by omega)]
      simp
    · omega
    · omega
    · intro j hj hlt he
      obtain ⟨k, rfl⟩ : ∃ k, j = before.length + (head.length + (k + 1)) :=
        ⟨j - before.length - head.length - 1, by omega⟩
      rw [hpart _ (by omega), List.getElem?_append_right (by omega), Nat.add_sub_cancel_left,
        List.getElem?_cons_succ] at he
      exact hn (List.mem_of_getElem? he)

end BuildTags.Text
