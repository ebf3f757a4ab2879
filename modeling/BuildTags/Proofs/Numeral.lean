import BuildTags.Numeral

namespace BuildTags

namespace Text

theorem exists_zero_of_isDigit {c : Char} (h : isDigit c = true) :
    ∃ first ∈ zeros, ∃ d < 10, c.toNat = first + d := by
  obtain ⟨d, hd⟩ := Option.isSome_iff_exists.1 h
  obtain ⟨first, hm, he⟩ := List.exists_of_findSome?_eq_some hd
  split at he
  · rename_i hc
    exact ⟨first, hm, c.toNat - first, by omega, by omega⟩
  · cases he

/-- What holds of all code points in the digit series holds of every decimal digit. -/
theorem of_isDigit {P : Nat → Prop} (hP : ∀ first ∈ zeros, ∀ d < 10, P (first + d)) {c : Char}
    (h : isDigit c = true) : P c.toNat := by
  obtain ⟨first, hm, d, hd, he⟩ := exists_zero_of_isDigit h
  exact he ▸ hP first hm d hd

theorem isBlank_of_isDigit {c : Char} (h : isDigit c = true) : isBlank c = false :=
  of_isDigit (P := fun n ↦ within n false blankBorders = false) (by decide +kernel) h

theorem digitValue?_of_isDigit_ascii {c : Char} (h : c.isDigit = true) :
    digitValue? c = some (c.toNat - '0'.toNat) := by
  have hv : '0'.val.toNat ≤ c.val.toNat ∧ c.val.toNat ≤ '9'.val.toNat := by
    simpa only [Char.isDigit, Bool.and_eq_true, decide_eq_true_eq, ge_iff_le,
      UInt32.le_iff_toNat_le] using h
  have hc : 48 ≤ c.toNat ∧ c.toNat ≤ 57 := hv
  have hz : zeros = 0x30 :: zeros.tail := rfl
  rw [digitValue?, hz, List.findSome?_cons, if_pos (by omega)]
  rfl

theorem digitValue?_lt {c : Char} {d : Nat} (h : digitValue? c = some d) : d < 10 := by
  obtain ⟨first, -, he⟩ := List.exists_of_findSome?_eq_some h
  split at he
  · obtain rfl := Option.some.inj he
    omega
  · cases he

theorem isDigit_of_isDigit_ascii {c : Char} (h : c.isDigit = true) : isDigit c = true := by
  rw [isDigit, digitValue?_of_isDigit_ascii h]
  rfl

end Text

namespace Numeral

def valueOf (text : Text) : Nat := ofDigits (text.filterMap Text.digitValue?)

theorem scan_digits (b : Bool) {text : Text} (h : ∀ c ∈ text, Text.isDigit c = true) :
    scan b text = some (text.filterMap Text.digitValue?, []) := by
  induction text generalizing b with
  | nil => rfl
  | cons c text ih =>
    obtain ⟨hc, ht⟩ := List.forall_mem_cons.1 h
    obtain ⟨d, hd⟩ := Option.isSome_iff_exists.1 hc
    simp [scan, hd, ih true ht]

theorem length_filterMap_digitValue? {text : Text} (h : ∀ c ∈ text, Text.isDigit c = true) :
    (text.filterMap Text.digitValue?).length = text.length := by
  induction text with
  | nil => rfl
  | cons c text ih =>
    obtain ⟨hc, ht⟩ := List.forall_mem_cons.1 h
    obtain ⟨d, hd⟩ := Option.isSome_iff_exists.1 hc
    simp [hd, ih ht]

theorem read_digits {text : Text} (hne : text ≠ []) (h : ∀ c ∈ text, Text.isDigit c = true) :
    read text = if maxDigits < text.length then .error (.tooLong text.length)
      else .ok (valueOf text) := by
  cases text with
  | nil => exact absurd rfl hne
  | cons c text =>
    have hc : Text.isDigit c = true := h c (by simp)
    have hm : (c :: text).dropWhile isMargin = c :: text := by
      simp [isMargin, Text.isBlank_of_isDigit hc]
    have hs : sign (c :: text) = (false, c :: text) := by
      unfold sign
      split
      · rename_i he
        obtain ⟨rfl, -⟩ := List.cons.inj he
        exact absurd hc (by decide)
      · rename_i he
        obtain ⟨rfl, -⟩ := List.cons.inj he
        exact absurd hc (by decide)
      · rfl
    have hl := length_filterMap_digitValue? h
    have hv : (c :: text).filterMap Text.digitValue? ≠ [] := by
      intro he
      rw [he] at hl
      cases hl
    simp only [read, hm, hs, scan_digits false h, hl, valueOf, hv, List.all_nil, Bool.not_true,
      Bool.false_eq_true, or_self, if_false]

theorem ofDigits_toDigits (n : Nat) : valueOf (Nat.toDigits 10 n) = n := by
  have h : ∀ (text : Text) (m : Nat), (∀ c ∈ text, c.isDigit = true) →
      (text.filterMap Text.digitValue?).foldl (fun n d ↦ n * 10 + d) m =
        Nat.ofDigitChars 10 text m := by
    intro text
    induction text with
    | nil => intros; rfl
    | cons c text ih =>
      intro m hd
      obtain ⟨hc, ht⟩ := List.forall_mem_cons.1 hd
      simp only [List.filterMap_cons, Text.digitValue?_of_isDigit_ascii hc, List.foldl_cons,
        ih _ ht, Nat.ofDigitChars_cons]
      rw [Nat.mul_comm]
  rw [valueOf, ofDigits, h _ _ fun c hc ↦ Nat.isDigit_of_mem_toDigits (by decide) (by decide) hc]
  exact Nat.ofDigitChars_ten_toDigits

theorem ofDigits_lt {values : List Nat} (h : ∀ d ∈ values, d < 10) :
    ofDigits values < Nat.pow 10 values.length := by
  have hstep : ∀ (values : List Nat) (n : Nat), (∀ d ∈ values, d < 10) →
      values.foldl (fun n d ↦ n * 10 + d) n < (n + 1) * 10 ^ values.length := by
    intro values
    induction values with
    | nil => simp
    | cons d values ih =>
      intro n h
      obtain ⟨hd, hrest⟩ := List.forall_mem_cons.1 h
      have hle : (n * 10 + d + 1) * 10 ^ values.length ≤ ((n + 1) * 10) * 10 ^ values.length :=
        Nat.mul_le_mul_right _ (by omega)
      rw [List.foldl_cons, List.length_cons, Nat.pow_succ', ← Nat.mul_assoc]
      exact Nat.lt_of_lt_of_le (ih _ hrest) hle
  simpa [ofDigits] using hstep values 0 h

def Fault.IsLimit : Fault → Prop
  | .malformed _ => False
  | .tooLong _ | .tooLarge => True

theorem digits_toDigits (n : Nat) : ∀ c ∈ Nat.toDigits 10 n, Text.isDigit c = true :=
  fun _ hc ↦ Text.isDigit_of_isDigit_ascii (Nat.isDigit_of_mem_toDigits (by decide) (by decide) hc)

theorem write_natCast (n : Nat) : write n =
    if maxDigits < (Nat.toDigits 10 n).length then .error .tooLarge else .ok (Nat.toDigits 10 n) := by
  rw [write, digits, if_neg (Int.not_lt.2 (Int.natCast_nonneg n)), Int.natAbs_natCast]

theorem exists_write_of_length_le {n : Int} (h : (Nat.toDigits 10 n.natAbs).length ≤ maxDigits) :
    ∃ written, write n = .ok written := by
  rw [write, if_neg (Nat.not_lt.2 h)]
  exact ⟨_, rfl⟩

theorem length_toDigits_ofDigits_le {values : List Nat} (hd : ∀ d ∈ values, d < 10)
    (hl : values.length ≤ maxDigits) : (Nat.toDigits 10 (ofDigits values)).length ≤ maxDigits := by
  apply (Nat.length_toDigits_le_iff (by decide) (by decide)).2
  have hpow := Nat.pow_le_pow_right (show 0 < 10 by decide) hl
  exact Nat.lt_of_lt_of_le (ofDigits_lt hd) hpow

theorem length_toDigits_valueOf_le {text : Text} (h : text.length ≤ maxDigits) :
    (Nat.toDigits 10 (valueOf text)).length ≤ maxDigits := by
  apply length_toDigits_ofDigits_le
  · intro d hd
    obtain ⟨c, -, hc⟩ := List.mem_filterMap.1 hd
    exact Text.digitValue?_lt hc
  · exact Nat.le_trans (List.length_filterMap_le Text.digitValue? text) h

theorem exists_write_ofDigits {values : List Nat} (hd : ∀ d ∈ values, d < 10)
    (hl : values.length ≤ maxDigits) {n : Int} (hn : n.natAbs = ofDigits values) :
    ∃ written, write n = .ok written := by
  apply exists_write_of_length_le
  rw [hn]
  exact length_toDigits_ofDigits_le hd hl

end Numeral

end BuildTags
