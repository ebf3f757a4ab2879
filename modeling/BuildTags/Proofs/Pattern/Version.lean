import BuildTags.Pattern.Fit
import BuildTags.Proofs.Text.Cut

namespace BuildTags.Pattern

theorem isDigit_dot : Text.isDigit '.' = false := by decide

theorem notMem_of_isDigit {text : Text} {c : Char} {b : Bool} (h : ∀ c ∈ text, Text.isDigit c = b)
    (hc : Text.isDigit c = !b) : c ∉ text := by
  intro hm
  rw [h c hm] at hc
  cases b <;> cases hc

theorem newline_notMem {digits : Text} (h : ∀ c ∈ digits, Text.isDigit c = true) : '\n' ∉ digits :=
  notMem_of_isDigit h (by decide)

def Continues (text : Text) : Prop :=
  text = [] ∨ IsVersion text ∨ ∃ groups, text = '.' :: groups ∧ IsVersion groups

theorem not_isVersion_nil : ¬IsVersion [] := nofun

theorem isVersion_cons_iff {c : Char} {text : Text} :
    IsVersion (c :: text) ↔ Text.isDigit c = true ∧ Continues text := by
  constructor
  · intro h
    cases h with
    | digit h => exact ⟨h, .inl rfl⟩
    | more h rest => exact ⟨h, .inr (.inl rest)⟩
    | group h rest => exact ⟨h, .inr (.inr ⟨_, rfl, rest⟩)⟩
  · rintro ⟨h, rfl | rest | ⟨groups, rfl, rest⟩⟩
    · exact .digit h
    · exact .more h rest
    · exact .group h rest

theorem continues_nil : Continues [] := .inl rfl

theorem continues_dot_iff {c : Char} {text : Text} :
    Continues ('.' :: c :: text) ↔ Text.isDigit c = true ∧ Continues text := by
  simp [Continues, isVersion_cons_iff, isDigit_dot]

theorem not_continues_dot : ¬Continues ['.'] := by
  simp [Continues, isVersion_cons_iff, isDigit_dot, not_isVersion_nil]

theorem continues_cons_iff {c : Char} {text : Text} (hc : c ≠ '.') :
    Continues (c :: text) ↔ Text.isDigit c = true ∧ Continues text := by
  simp [Continues, isVersion_cons_iff, hc]

theorem IsVersion.isDigit_or_eq {text : Text} (h : IsVersion text) {c : Char} (hc : c ∈ text) :
    Text.isDigit c = true ∨ c = '.' := by
  induction h with
  | digit h => exact .inl (List.mem_singleton.1 hc ▸ h)
  | more h rest ih =>
    obtain rfl | hc := List.mem_cons.1 hc
    · exact .inl h
    · exact ih hc
  | group h rest ih =>
    obtain rfl | hc := List.mem_cons.1 hc
    · exact .inl h
    · obtain rfl | hc := List.mem_cons.1 hc
      · exact .inr rfl
      · exact ih hc

theorem IsVersion.ne_nil {text : Text} (h : IsVersion text) : text ≠ [] := by
  rintro rfl
  exact not_isVersion_nil h

theorem IsVersion.notMem {text : Text} (h : IsVersion text) {c : Char}
    (hc : Text.isDigit c = false) (hd : c ≠ '.') : c ∉ text := by
  intro hm
  obtain h | h := h.isDigit_or_eq hm
  · rw [hc] at h
    cases h
  · exact hd h

theorem isVersion_of_digits {text : Text} (hne : text ≠ []) (h : ∀ c ∈ text, Text.isDigit c = true) :
    IsVersion text := by
  induction text with
  | nil => exact absurd rfl hne
  | cons c text ih =>
    obtain ⟨hc, ht⟩ := List.forall_mem_cons.1 h
    cases text with
    | nil => exact .digit hc
    | cons d text => exact .more hc (ih (List.cons_ne_nil _ _) ht)

theorem isVersion_append_dot_iff {head last : Text} :
    IsVersion (head ++ '.' :: last) ↔ IsVersion head ∧ IsVersion last := by
  constructor
  · intro h
    generalize htext : head ++ '.' :: last = text at h
    induction h generalizing head with
    | @digit c h =>
      cases head with
      | nil =>
        obtain ⟨rfl, -⟩ := List.cons.inj htext
        exact absurd h (by simp [isDigit_dot])
      | cons d head => simp at htext
    | @more c text h rest ih =>
      cases head with
      | nil =>
        obtain ⟨rfl, -⟩ := List.cons.inj htext
        exact absurd h (by simp [isDigit_dot])
      | cons d head =>
        obtain ⟨rfl, ht⟩ := List.cons.inj htext
        obtain ⟨hh, hl⟩ := ih ht
        exact ⟨.more h hh, hl⟩
    | @group c text h rest ih =>
      cases head with
      | nil =>
        obtain ⟨rfl, -⟩ := List.cons.inj htext
        exact absurd h (by simp [isDigit_dot])
      | cons d head =>
        obtain ⟨rfl, ht⟩ := List.cons.inj htext
        cases head with
        | nil =>
          obtain ⟨-, rfl⟩ := List.cons.inj ht
          exact ⟨.digit h, rest⟩
        | cons e head =>
          obtain ⟨rfl, ht'⟩ := List.cons.inj ht
          obtain ⟨hh, hl⟩ := ih ht'
          exact ⟨.group h hh, hl⟩
  · rintro ⟨hh, hl⟩
    induction hh with
    | digit h => exact .group h hl
    | more h rest ih => exact .more h ih
    | group h rest ih => exact .group h ih

theorem cutLast?_version {version head last : Text} (h : IsVersion version)
    (hc : Text.cutLast? "." version = some (head, last)) :
    version = head ++ '.' :: last ∧ IsVersion head ∧ last ≠ [] ∧
      ∀ c ∈ last, Text.isDigit c = true := by
  have hdot : Text.cutLast? ['.'] version = some (head, last) := hc
  obtain ⟨rfl, hn⟩ := Text.cutLast?_singleton_eq_some_iff.1 hdot
  obtain ⟨hh, hl⟩ := isVersion_append_dot_iff.1 h
  refine ⟨rfl, hh, hl.ne_nil, fun c hm ↦ ?_⟩
  exact (hl.isDigit_or_eq hm).resolve_right fun he ↦ hn (he ▸ hm)

theorem cutLast?_digits {digits : Text} (head : Text) (hd : ∀ c ∈ digits, Text.isDigit c = true) :
    Text.cutLast? "." (head ++ '.' :: digits) = some (head, digits) :=
  Text.cutLast?_singleton_eq_some_iff.2 ⟨rfl, notMem_of_isDigit hd isDigit_dot⟩

end BuildTags.Pattern
