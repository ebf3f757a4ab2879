import BuildTags.Proofs.Text.Split
import BuildTags.Text.Blank
import Mathlib.Data.List.DropRight

namespace BuildTags.Text

variable {text tail start : Text} {c d : Char}

theorem toNat_of_isAlpha (h : c.isAlpha = true) :
    65 ≤ c.toNat ∧ c.toNat ≤ 90 ∨ 97 ≤ c.toNat ∧ c.toNat ≤ 122 := by
  obtain h | h := Bool.or_eq_true_iff.1 h
  · exact .inl (of_decide_eq_true h)
  · obtain ⟨hl, hu⟩ := Bool.and_eq_true_iff.1 h
    exact .inr ⟨of_decide_eq_true hl, of_decide_eq_true hu⟩

theorem isBlank_of_visible (h : 0x21 ≤ c.toNat) (h' : c.toNat < 0x85) : isBlank c = false := by
  have h₁ : ¬c.toNat < 0x9 := by omega
  have h₂ : ¬c.toNat < 0xe := by omega
  have h₃ : ¬c.toNat < 0x1c := by omega
  have h₄ : ¬c.toNat < 0x21 := by omega
  simp [isBlank, blankBorders, within, h₁, h₂, h₃, h₄, h']

theorem blank_append_iff :
    blank (text ++ tail) = true ↔ blank text = true ∧ blank tail = true := by
  rw [blank, List.all_append, Bool.and_eq_true, blank, blank]

theorem blank_cons_iff : blank (c :: text) = true ↔ isBlank c = true ∧ blank text = true := by
  rw [blank, List.all_cons, Bool.and_eq_true, blank]

theorem blank_iff_splitOn (hc : isBlank c = true) (text : Text) :
    blank text = true ↔ ∀ piece ∈ text.splitOn c, blank piece = true := by
  induction text with
  | nil => simp [blank]
  | cons d text ih =>
    rw [blank_cons_iff, ih]
    by_cases hd : d = c
    · subst hd
      rw [splitOn_cons_self, List.forall_mem_cons]
      exact and_congr_left fun _ ↦ ⟨fun _ ↦ rfl, fun _ ↦ hc⟩
    · rw [splitOn_cons_of_ne hd]
      cases hs : text.splitOn c with
      | nil => exact absurd hs (List.splitOn_ne_nil c text)
      | cons first rest =>
        rw [List.modifyHead_cons, List.forall_mem_cons, List.forall_mem_cons, blank_cons_iff,
          and_assoc]

theorem exists_trimEnd (text : Text) :
    ∃ tail, blank tail = true ∧ text = trimEnd text ++ tail := by
  refine ⟨text.rtakeWhile isBlank, ?_, List.rdropWhile_append_rtakeWhile.symm⟩
  apply List.all_eq_true.2
  intro c hc
  exact List.mem_rtakeWhile_imp hc

theorem exists_trimStart (text : Text) :
    ∃ start, blank start = true ∧ text = start ++ trimStart text := by
  refine ⟨text.takeWhile isBlank, ?_, List.takeWhile_append_dropWhile.symm⟩
  apply List.all_eq_true.2
  intro c hc
  exact List.mem_takeWhile_imp hc

theorem trimStart_of_blank (h : blank text = true) : trimStart text = [] :=
  List.dropWhile_eq_nil_iff.2 (List.all_eq_true.1 h)

theorem trimStart_append_of_blank (h : blank start = true) (text : Text) :
    trimStart (start ++ text) = trimStart text :=
  List.dropWhile_append_of_pos (List.all_eq_true.1 h)

theorem trim_of_blank (h : blank text = true) : trim text = [] := by
  rw [trim, trimStart_of_blank h]
  rfl

theorem trimEnd_append_of_blank (text : Text) (h : blank tail = true) :
    trimEnd (text ++ tail) = trimEnd text := by
  rw [trimEnd, List.reverse_append, List.dropWhile_append_of_pos]
  · rfl
  · intro c hc
    exact List.all_eq_true.1 h c (List.mem_reverse.1 hc)

theorem trim_append_of_blank (text : Text) (h : blank tail = true) :
    trim (text ++ tail) = trim text := by
  rw [trim, trimStart, List.dropWhile_append]
  cases hs : (text.dropWhile isBlank).isEmpty with
  | true =>
    have hstart : trimStart text = [] := List.isEmpty_iff.1 hs
    have htail : tail.dropWhile isBlank = [] := trimStart_of_blank h
    rw [if_pos rfl, htail, trim, hstart]
  | false =>
    rw [if_neg (by simp)]
    exact trimEnd_append_of_blank _ h

theorem isBlank_head_trimStart (h : trimStart text = c :: tail) : isBlank c = false := by
  have hne : text.dropWhile isBlank ≠ [] := by
    intro he
    rw [trimStart, he] at h
    cases h
  have hhead := List.head_dropWhile_not isBlank hne
  have hc : (text.dropWhile isBlank).head hne = c := by
    rw [List.head_eq_iff_head?_eq_some]
    exact congrArg List.head? h
  rwa [hc] at hhead

theorem trimStart_cons_of_not_blank (h : isBlank c = false) (text : Text) :
    trimStart (c :: text) = c :: text := List.dropWhile_cons_of_neg (by simp [h])

theorem trimEnd_append_cons (h : isBlank d = false) (start rest : Text) :
    trimEnd (start ++ d :: rest) = start ++ d :: trimEnd rest := by
  have hd : (d :: start.reverse).dropWhile isBlank = d :: start.reverse :=
    List.dropWhile_cons_of_neg (by simp [h])
  rw [trimEnd, List.reverse_append, List.reverse_cons, List.append_assoc, List.singleton_append,
    List.dropWhile_append, hd]
  cases hr : (rest.reverse.dropWhile isBlank).isEmpty with
  | true =>
    rw [if_pos rfl, trimEnd, List.isEmpty_iff.1 hr]
    simp
  | false =>
    rw [if_neg (by simp), trimEnd]
    simp

theorem exists_trim_append_cons (hs : ∀ c ∈ start.head?, isBlank c = false) (hd : isBlank d = false)
    (rest : Text) : ∃ rest', trim (start ++ d :: rest) = start ++ d :: rest' := by
  have hstart : trimStart (start ++ d :: rest) = start ++ d :: rest := by
    cases start with
    | nil => exact trimStart_cons_of_not_blank hd rest
    | cons c start => exact trimStart_cons_of_not_blank (hs c rfl) _
  exact ⟨trimEnd rest, by rw [trim, hstart, trimEnd_append_cons hd]⟩

theorem trim_of_not_blank (h : ∀ c ∈ text, isBlank c = false) : trim text = text := by
  have hstart : trimStart text = text := by
    cases text with
    | nil => rfl
    | cons c text => exact trimStart_cons_of_not_blank (h c List.mem_cons_self) text
  have hend : text.rdropWhile isBlank = text := by
    apply List.rdropWhile_eq_self_iff.2
    intro hne
    rw [h _ (List.getLast_mem hne)]
    exact Bool.false_ne_true
  rw [trim, hstart]
  exact hend

theorem trim_trim (text : Text) : trim (trim text) = trim text := by
  obtain ⟨tail, hb, ht⟩ := exists_trimEnd (trimStart text)
  have hstart : trimStart (trim text) = trim text := by
    cases h : trim text with
    | nil => rfl
    | cons c rest =>
      have htrim : trimEnd (trimStart text) = c :: rest := h
      rw [htrim] at ht
      exact trimStart_cons_of_not_blank (isBlank_head_trimStart ht) rest
  rw [trim, hstart]
  exact List.rdropWhile_idempotent isBlank _

structure IsTrimmed (text : Text) : Prop where
  head : ∀ c ∈ text.head?, isBlank c = false
  last : ∀ c ∈ text.getLast?, isBlank c = false

theorem IsTrimmed.trim_append (h : IsTrimmed text) (hs : blank start = true)
    (ht : blank tail = true) : trim (start ++ (text ++ tail)) = text := by
  rw [← List.append_assoc, trim_append_of_blank _ ht, trim, trimStart_append_of_blank hs]
  have hstart : trimStart text = text := by
    cases text with
    | nil => rfl
    | cons c text => exact trimStart_cons_of_not_blank (h.head c rfl) text
  rw [hstart]
  apply List.rdropWhile_eq_self_iff.2
  intro hne
  rw [h.last _ (List.getLast?_eq_some_getLast hne)]
  exact Bool.false_ne_true

theorem IsTrimmed.trim_eq (h : IsTrimmed text) : trim text = text := by
  have hnil : Text.blank [] = true := rfl
  simpa using h.trim_append hnil hnil

theorem isTrimmed_trim (text : Text) : IsTrimmed (trim text) := by
  obtain ⟨tail, -, ht⟩ := exists_trimEnd (trimStart text)
  constructor
  · intro c hc
    obtain ⟨rest, hr⟩ := List.head?_eq_some_iff.1 hc
    have htrim : trimEnd (trimStart text) = c :: rest := hr
    rw [htrim] at ht
    exact isBlank_head_trimStart ht
  · intro c hc
    have hlast := List.rdropWhile_last_not isBlank (trimStart text)
    have hne : trim text ≠ [] := by
      intro he
      rw [he] at hc
      cases hc
    have hl := hlast hne
    rw [List.getLast?_eq_some_getLast hne] at hc
    cases hc
    exact Bool.eq_false_iff.2 hl

theorem exists_trim (text : Text) : ∃ start tail, blank start = true ∧ blank tail = true ∧
    text = start ++ (trim text ++ tail) := by
  obtain ⟨start, hs, hstart⟩ := exists_trimStart text
  obtain ⟨tail, ht, htail⟩ := exists_trimEnd (trimStart text)
  refine ⟨start, tail, hs, ht, ?_⟩
  rw [trim, ← htail]
  exact hstart

theorem trim_eq_nil_iff : trim text = [] ↔ blank text = true := by
  refine ⟨fun h ↦ ?_, trim_of_blank⟩
  obtain ⟨start, tail, hs, ht, htext⟩ := exists_trim text
  rw [htext, h]
  exact blank_append_iff.2 ⟨hs, ht⟩

theorem count_of_blank (hc : isBlank c = false) (h : blank text = true) : text.count c = 0 := by
  apply List.count_eq_zero.2
  intro hm
  rw [List.all_eq_true.1 h c hm] at hc
  cases hc

theorem count_trim (hc : isBlank c = false) (text : Text) : (trim text).count c = text.count c := by
  obtain ⟨start, hs, htext⟩ := exists_trimStart text
  obtain ⟨tail, ht, hrest⟩ := exists_trimEnd (trimStart text)
  calc (trim text).count c = (trim text ++ tail).count c := by
        rw [List.count_append, count_of_blank hc ht, Nat.add_zero]
    _ = (trimStart text).count c := congrArg (List.count c) hrest.symm
    _ = (start ++ trimStart text).count c := by
        rw [List.count_append, count_of_blank hc hs, Nat.zero_add]
    _ = text.count c := congrArg (List.count c) htext.symm

theorem exists_join_cons (separator : Text) (c : Char) (piece : Text) (pieces : List Text) :
    ∃ rest, join separator ((c :: piece) :: pieces) = c :: rest := by
  cases pieces with
  | nil => exact ⟨piece, rfl⟩
  | cons next pieces => exact ⟨_, rfl⟩

theorem count_join {separator : Text} (h : c ∉ separator) (pieces : List Text) :
    (join separator pieces).count c = pieces.flatten.count c := by
  induction pieces with
  | nil => rfl
  | cons piece pieces ih =>
    cases pieces with
    | nil =>
      show piece.count c = _
      rw [List.flatten_cons, List.flatten_nil, List.append_nil]
    | cons next pieces =>
      show (piece ++ separator ++ join separator (next :: pieces)).count c = _
      rw [List.count_append, List.count_append, List.count_eq_zero.2 h, ih, Nat.add_zero]
      exact List.count_append.symm

def BeginsVisible (text : Text) : Prop := ∃ c ∈ text.head?, isBlank c = false

def EndsVisible (text : Text) : Prop := ∃ c ∈ text.getLast?, isBlank c = false

theorem beginsVisible_cons (h : isBlank c = false) (text : Text) : BeginsVisible (c :: text) :=
  ⟨c, rfl, h⟩

theorem endsVisible_singleton (h : isBlank c = false) : EndsVisible [c] := ⟨c, rfl, h⟩

theorem BeginsVisible.append (h : BeginsVisible text) (tail : Text) :
    BeginsVisible (text ++ tail) := by
  obtain ⟨c, hc, hb⟩ := h
  exact ⟨c, List.mem_head?_append_of_mem_head? hc, hb⟩

theorem EndsVisible.append (h : EndsVisible text) (start : Text) : EndsVisible (start ++ text) := by
  obtain ⟨c, hc, hb⟩ := h
  exact ⟨c, List.mem_getLast?_append_of_mem_getLast? hc, hb⟩

theorem IsTrimmed.endsVisible (h : IsTrimmed text) (hne : text ≠ []) : EndsVisible text := by
  have hlast := List.getLast?_eq_some_getLast hne
  exact ⟨_, hlast, h.last _ hlast⟩

theorem BeginsVisible.isTrimmed (h : BeginsVisible text) (h' : EndsVisible text) :
    IsTrimmed text := by
  obtain ⟨first, hfirst, hb⟩ := h
  obtain ⟨last, hlast, hb'⟩ := h'
  constructor
  · intro c hc
    rwa [Option.mem_unique hc hfirst]
  · intro c hc
    rwa [Option.mem_unique hc hlast]

theorem beginsVisible_join (separator : Text) {piece : Text} (h : BeginsVisible piece)
    (pieces : List Text) : BeginsVisible (join separator (piece :: pieces)) := by
  cases pieces with
  | nil => exact h
  | cons next pieces => exact (h.append separator).append (join separator (next :: pieces))

theorem endsVisible_join (separator : Text) {pieces : List Text} (hne : pieces ≠ [])
    (h : ∀ piece ∈ pieces, EndsVisible piece) : EndsVisible (join separator pieces) := by
  induction pieces with
  | nil => exact absurd rfl hne
  | cons piece pieces ih =>
    obtain ⟨hpiece, hpieces⟩ := List.forall_mem_cons.1 h
    cases pieces with
    | nil => exact hpiece
    | cons next pieces => exact (ih (List.cons_ne_nil _ _) hpieces).append (piece ++ separator)

theorem isTrimmed_join (separator : Text) {pieces : List Text}
    (h : ∀ piece ∈ pieces, BeginsVisible piece ∧ EndsVisible piece) :
    IsTrimmed (join separator pieces) := by
  cases pieces with
  | nil => exact ⟨nofun, nofun⟩
  | cons piece pieces =>
    have hbegins := (h piece List.mem_cons_self).1
    exact (beginsVisible_join separator hbegins pieces).isTrimmed
      (endsVisible_join separator (List.cons_ne_nil _ _) fun piece hm ↦ (h piece hm).2)

end BuildTags.Text
