import BuildTags.Proofs.Json.Object
import Mathlib.Data.List.TakeWhile

namespace BuildTags.Json

def IsWritable (value : Value) : Prop := ∃ written, write value = .ok written

variable {text rest digits : Text} {value : Value} {fuel : Nat}

section

variable {items : List Value} {members : List (Text × Value)}

theorem exists_writeItems (h : ∀ item ∈ items, IsWritable item) :
    ∃ pieces, writeItems items = .ok pieces := by
  induction items with
  | nil => exact ⟨[], by rw [writeItems]⟩
  | cons item items ih =>
    obtain ⟨⟨first, hfirst⟩, hitems⟩ := List.forall_mem_cons.1 h
    obtain ⟨pieces, hpieces⟩ := ih hitems
    rw [writeItems, hfirst, hpieces]
    exact ⟨_, rfl⟩

theorem IsWritable.list (h : ∀ item ∈ items, IsWritable item) : IsWritable (.list items) := by
  obtain ⟨pieces, hpieces⟩ := exists_writeItems h
  rw [IsWritable, write, hpieces]
  exact ⟨_, rfl⟩

theorem exists_writeMembers (h : ∀ member ∈ members, IsWritable member.2) :
    ∃ pieces, writeMembers members = .ok pieces := by
  induction members with
  | nil => exact ⟨[], by rw [writeMembers]⟩
  | cons member members ih =>
    obtain ⟨name, value⟩ := member
    obtain ⟨⟨first, hfirst⟩, hmembers⟩ := List.forall_mem_cons.1 h
    obtain ⟨pieces, hpieces⟩ := ih hmembers
    exact ⟨_, writeMembers_cons_eq_ok_iff.2 ⟨first, pieces, hfirst, hpieces, rfl⟩⟩

theorem IsWritable.object (h : ∀ member ∈ members, IsWritable member.2) :
    IsWritable (.object members) := by
  obtain ⟨pieces, hpieces⟩ := exists_writeMembers h
  exact ⟨_, write_object_eq_ok_iff.2 ⟨pieces, hpieces, rfl⟩⟩

theorem IsWritable.of_mem {member : Text × Value} (h : IsWritable (.object members))
    (hm : member ∈ members) : IsWritable member.2 := by
  obtain ⟨written, hw⟩ := h
  obtain ⟨pieces, hpieces, -⟩ := write_object_eq_ok_iff.1 hw
  exact exists_write_of_writeMembers hpieces member hm

theorem mem_put {name : Text} {member : Text × Value} (h : member ∈ put name value members) :
    member = (name, value) ∨ member ∈ members := by
  induction members with
  | nil => exact .inl (List.mem_singleton.1 h)
  | cons first members ih =>
    rw [put] at h
    split_ifs at h
    · exact (List.mem_cons.1 h).imp_right (List.mem_cons_of_mem _)
    · rcases List.mem_cons.1 h with rfl | h
      · exact .inr List.mem_cons_self
      · exact (ih h).imp_right (List.mem_cons_of_mem _)

end

theorem isWritable_text (text : Text) : IsWritable (.text text) := ⟨_, rfl⟩

theorem exists_write_asciiNumber (hd : ∀ c ∈ digits, isAsciiDigit c = true)
    (hl : digits.length ≤ Numeral.maxDigits) {n : Int} (hn : n.natAbs = asciiNumber digits) :
    ∃ written, Numeral.write n = .ok written := by
  have hvalues : ∀ d ∈ digits.map fun c ↦ c.toNat - '0'.toNat, d < 10 := by
    intro d hm
    obtain ⟨c, hc, rfl⟩ := List.mem_map.1 hm
    have hrange : 48 ≤ c.toNat ∧ c.toNat ≤ 57 := by
      simpa [isAsciiDigit, Char.le_def, UInt32.le_iff_toNat_le] using hd c hc
    have hzero : '0'.toNat = 48 := rfl
    omega
  apply Numeral.exists_write_ofDigits hvalues
  · rw [List.length_map]
    exact hl
  · exact hn

theorem isAsciiDigit_of_wholePart? (h : wholePart? text = some (digits, rest)) :
    ∀ c ∈ digits, isAsciiDigit c = true := by
  unfold wholePart? at h
  split at h
  · cases h
    exact List.forall_mem_singleton.2 rfl
  · split_ifs at h with hc
    cases h
    exact List.forall_mem_cons.2 ⟨hc, fun d hd ↦ List.mem_takeWhile_imp hd⟩
  · cases h

theorem isWritable_of_readNumber
    (h : readNumber (some Numeral.maxDigits) text = .ok (value, rest)) : IsWritable value := by
  rw [readNumber] at h
  split at h
  · cases h
  · rename_i digits after hwhole
    have hdigits := isAsciiDigit_of_wholePart? hwhole
    dsimp only at h
    split at h
    · split at h
      · cases h
      · rename_i hlong
        have hshort : digits.length ≤ Numeral.maxDigits := by simpa using hlong
        cases h
        apply exists_write_asciiNumber hdigits hshort
        split_ifs
        · rw [Int.natAbs_neg, Int.natAbs_natCast]
        · rw [Int.natAbs_natCast]
    · cases h
      exact ⟨_, rfl⟩

theorem isWritable_of_readWord? (h : readWord? text = some (value, rest)) : IsWritable value := by
  obtain ⟨⟨word, value⟩, hword, h⟩ := List.exists_of_findSome?_eq_some h
  obtain ⟨rest, -, h⟩ := Option.map_eq_some_iff.1 h
  cases h
  have hwords : ∀ word ∈ words, IsWritable word.2 := by
    simp only [words, List.forall_mem_cons]
    exact ⟨⟨_, rfl⟩, ⟨_, rfl⟩, ⟨_, rfl⟩, ⟨_, rfl⟩, ⟨_, rfl⟩, ⟨_, rfl⟩, List.forall_mem_nil _⟩
  exact hwords _ hword

structure FindsWritable (fuel : Nat) : Prop where
  value : ∀ {text rest value}, readValue (some Numeral.maxDigits) fuel text = .ok (value, rest) →
    IsWritable value
  members : ∀ {before text rest members}, (∀ member ∈ before, IsWritable member.2) →
    readMembers (some Numeral.maxDigits) fuel before text = .ok (members, rest) →
      ∀ member ∈ members, IsWritable member.2
  items : ∀ {text rest items}, readItems (some Numeral.maxDigits) fuel text = .ok (items, rest) →
    ∀ item ∈ items, IsWritable item

namespace FindsWritable

theorem value_succ (h : FindsWritable fuel)
    (hr : readValue (some Numeral.maxDigits) (fuel + 1) text = .ok (value, rest)) :
    IsWritable value := by
  rw [readValue.eq_def] at hr
  dsimp only at hr
  split at hr
  · obtain ⟨found, -, hr⟩ := bind_eq_ok_iff.1 hr
    cases hr
    exact isWritable_text _
  · split at hr
    · cases hr
      exact .object (List.forall_mem_nil _)
    · obtain ⟨found, hmembers, hr⟩ := bind_eq_ok_iff.1 hr
      cases hr
      exact .object (h.members (List.forall_mem_nil _) hmembers)
  · split at hr
    · cases hr
      exact .list (List.forall_mem_nil _)
    · obtain ⟨found, hitems, hr⟩ := bind_eq_ok_iff.1 hr
      cases hr
      exact .list (h.items hitems)
  · split at hr
    · rename_i hword
      cases hr
      exact isWritable_of_readWord? hword
    · exact isWritable_of_readNumber hr

theorem members_succ (h : FindsWritable fuel) {before members : List (Text × Value)}
    (hb : ∀ member ∈ before, IsWritable member.2)
    (hr : readMembers (some Numeral.maxDigits) (fuel + 1) before text = .ok (members, rest)) :
    ∀ member ∈ members, IsWritable member.2 := by
  rw [readMembers.eq_def] at hr
  dsimp only at hr
  split at hr
  · obtain ⟨⟨name, afterName⟩, -, hr⟩ := bind_eq_ok_iff.1 hr
    dsimp only at hr
    split at hr
    · obtain ⟨⟨value, afterValue⟩, hvalue, hr⟩ := bind_eq_ok_iff.1 hr
      have hput : ∀ member ∈ put name value before, IsWritable member.2 := by
        intro member hm
        rcases mem_put hm with rfl | hm
        · exact h.value hvalue
        · exact hb member hm
      dsimp only at hr
      split at hr
      · cases hr
        exact hput
      · exact h.members hput hr
      · cases hr
    · cases hr
  · cases hr

theorem items_succ (h : FindsWritable fuel) {items : List Value}
    (hr : readItems (some Numeral.maxDigits) (fuel + 1) text = .ok (items, rest)) :
    ∀ item ∈ items, IsWritable item := by
  rw [readItems] at hr
  obtain ⟨⟨item, afterItem⟩, hitem, hr⟩ := bind_eq_ok_iff.1 hr
  dsimp only at hr
  split at hr
  · cases hr
    exact List.forall_mem_singleton.2 (h.value hitem)
  · obtain ⟨⟨others, afterItems⟩, hothers, hr⟩ := bind_eq_ok_iff.1 hr
    cases hr
    exact List.forall_mem_cons.2 ⟨h.value hitem, h.items hothers⟩
  · cases hr

/-- The readers call each other with less fuel. -/
theorem all (fuel : Nat) : FindsWritable fuel := by
  induction fuel with
  | zero =>
    constructor
    · intro text rest value h
      rw [readValue] at h
      cases h
    · intro before text rest members _ h
      rw [readMembers] at h
      cases h
    · intro text rest items h
      rw [readItems] at h
      cases h
  | succ fuel ih => exact ⟨ih.value_succ, ih.members_succ, ih.items_succ⟩

end FindsWritable

theorem isWritable_of_read {deep : Text → Bool}
    (h : read (some Numeral.maxDigits) text deep = .ok value) : IsWritable value := by
  obtain ⟨-, hdocument⟩ := read_eq_ok_iff.1 h
  rw [readDocument] at hdocument
  split_ifs at hdocument
  · cases hdocument
  · obtain ⟨⟨found, rest⟩, hvalue, hend⟩ := bind_eq_ok_iff.1 hdocument
    dsimp only at hend
    split at hend
    · cases hend
      exact (FindsWritable.all _).value hvalue
    · cases hend

end BuildTags.Json
