import BuildTags.Json.Reader
import BuildTags.Json.Writer
import BuildTags.Proofs.Outcome
import Mathlib.Data.List.Basic
import Mathlib.Tactic.SplitIfs

namespace BuildTags

def Text.IsVisible (text : Text) : Prop := ∀ c ∈ text, 0x20 ≤ c.toNat ∧ c.toNat < 0x7f

namespace Text.IsVisible

variable {text more : Text}

instance : Decidable (IsVisible text) :=
  List.decidableBAll (fun c : Char ↦ 0x20 ≤ c.toNat ∧ c.toNat < 0x7f) text

theorem append (h : IsVisible text) (h' : IsVisible more) : IsVisible (text ++ more) :=
  List.forall_mem_append.2 ⟨h, h'⟩

theorem join {separator : Text} {pieces : List Text} (hs : IsVisible separator)
    (h : ∀ piece ∈ pieces, IsVisible piece) : IsVisible (Text.join separator pieces) := by
  fun_induction Text.join separator pieces with
  | case1 => exact List.forall_mem_nil _
  | case2 piece => exact h piece (by simp)
  | case3 piece pieces hne ih =>
    obtain ⟨hp, ht⟩ := List.forall_mem_cons.1 h
    exact (hp.append hs).append (ih ht)

end Text.IsVisible

namespace Json

theorem hexNumber?_append_digit {text : Text} {n d : Nat} (h : hexNumber? text = some n)
    (hd : d < 16) : hexNumber? (text ++ [d.digitChar]) = some (n * 16 + d) := by
  have hv : ∀ d < 16, hexValue? d.digitChar = some d := by decide
  rw [hexNumber?, List.foldlM_append]
  rw [hexNumber?] at h
  simp [h, hv d hd]

theorem hexNumber?_toDigits (n : Nat) : hexNumber? (Nat.toDigits 16 n) = some n := by
  induction n using Nat.strongRecOn with
  | ind n ih =>
    by_cases hlt : n < 16
    · have hd : hexNumber? ([] ++ [n.digitChar]) = some (0 * 16 + n) :=
        hexNumber?_append_digit rfl hlt
      rw [Nat.toDigits_of_lt_base hlt]
      simpa using hd
    · have hq : n / 16 < n := Nat.div_lt_self (by omega) (by decide)
      have hd := hexNumber?_append_digit (ih _ hq) (Nat.mod_lt n (by decide))
      rw [Nat.toDigits_of_base_le (by decide) (Nat.le_of_not_lt hlt), hd, Nat.mul_comm,
        Nat.div_add_mod]

theorem hexNumber?_hex (width n : Nat) : hexNumber? (Text.hex width n) = some n := by
  have hz : ∀ count, hexNumber? (List.replicate count '0') = some 0 := by
    intro count
    induction count with
    | zero => rfl
    | succ count ih => rw [List.replicate_succ]; exact ih
  have hd := hexNumber?_toDigits n
  rw [hexNumber?] at hd
  rw [hexNumber?, Text.hex, List.foldlM_append, ← hexNumber?, hz]
  exact hd

theorem length_hex {unit : Nat} (h : unit < 0x10000) : (Text.hex 4 unit).length = 4 := by
  have hl : (Nat.toDigits 16 unit).length ≤ 4 :=
    (Nat.length_toDigits_le_iff (by decide) (by decide)).2 h
  rw [Text.hex, List.length_append, List.length_replicate]
  omega

theorem isVisible_hex (width n : Nat) : (Text.hex width n).IsVisible := by
  have hd : ∀ d < 16, 0x20 ≤ d.digitChar.toNat ∧ d.digitChar.toNat < 0x7f := by decide
  have ht : Text.IsVisible (Nat.toDigits 16 n) := by
    induction n using Nat.strongRecOn with
    | ind n ih =>
      rw [Nat.toDigits_eq_if (by decide)]
      split_ifs with hlt
      · exact List.forall_mem_singleton.2 (hd n hlt)
      · have hq : n / 16 < n := Nat.div_lt_self (by omega) (by decide)
        exact (ih _ hq).append (List.forall_mem_singleton.2 (hd _ (Nat.mod_lt n (by decide))))
  refine Text.IsVisible.append ?_ ht
  intro c hc
  rw [(List.mem_replicate.1 hc).2]
  decide

/-- Reads a code unit in its escaped form. Another character has to follow it. -/
theorem stringUnits_hex (opening : Text) {unit : Nat} (hu : unit < 0x10000) {rest : Text}
    (hr : rest ≠ []) : stringUnits opening ('\\' :: 'u' :: Text.hex 4 unit ++ rest) =
      (stringUnits opening rest).map fun (units, rest) ↦ (unit :: units, rest) := by
  have hl : (Text.hex 4 unit).length = 4 := length_hex hu
  obtain ⟨a, b, c, d, he⟩ := List.length_eq_four.1 hl
  obtain ⟨e, rest, rfl⟩ := List.exists_cons_of_ne_nil hr
  have hn := hexNumber?_hex 4 unit
  rw [he] at hn ⊢
  simp only [List.cons_append, List.nil_append, stringUnits, hn]
  cases stringUnits opening (e :: rest) <;> rfl

theorem lt_of_mem_units (c : Char) : ∀ unit ∈ units c.toNat, unit < 0x10000 := by
  have hvalid : c.toNat < 0xd800 ∨ 0xdfff < c.toNat ∧ c.toNat < 0x110000 := c.valid
  intro unit hu
  rw [units] at hu
  split_ifs at hu with hlow
  · rw [List.mem_singleton.1 hu]
    exact hlow
  · rcases List.mem_pair.1 hu with hu | hu <;> omega

theorem units_of_lt {n : Nat} (h : n < 0x10000) : units n = [n] := if_pos h

theorem stringUnits_units (opening : Text) {list : List Nat} (hl : ∀ unit ∈ list, unit < 0x10000)
    {rest : Text} (hr : rest ≠ []) :
    stringUnits opening ((list.flatMap fun unit ↦ '\\' :: 'u' :: Text.hex 4 unit) ++ rest) =
      (stringUnits opening rest).map fun (units, rest) ↦ (list ++ units, rest) := by
  induction list with
  | nil =>
    rw [List.flatMap_nil, List.nil_append]
    cases stringUnits opening rest <;> rfl
  | cons unit list ih =>
    obtain ⟨hu, hl⟩ := List.forall_mem_cons.1 hl
    rw [List.flatMap_cons, List.append_assoc,
      stringUnits_hex opening hu (List.append_ne_nil_of_right_ne_nil _ hr), ih hl]
    cases stringUnits opening rest <;> rfl

theorem stringUnits_escaped (opening : Text) {mark c : Char} (he : escaped? mark = some c)
    (rest : Text) : stringUnits opening ('\\' :: mark :: rest) =
      (stringUnits opening rest).map fun (units, rest) ↦ (c.toNat :: units, rest) := by
  have hu : mark ≠ 'u' := by
    rintro rfl
    cases he
  rw [stringUnits, he]
  · cases stringUnits opening rest <;> rfl
  · rintro a b c d e text rfl
    exact fun h ↦ (hu rfl).elim
  · exact fun h ↦ (hu h).elim

theorem stringUnits_plain (opening : Text) {c : Char} (hq : c ≠ '"') (hb : c ≠ '\\')
    (hc : 0x20 ≤ c.toNat) (rest : Text) : stringUnits opening (c :: rest) =
      (stringUnits opening rest).map fun (units, rest) ↦ (c.toNat :: units, rest) := by
  rw [stringUnits, if_neg (Nat.not_lt.2 hc)]
  · cases stringUnits opening rest <;> rfl
  · exact fun h ↦ absurd h hq
  all_goals intros; contradiction

theorem stringUnits_writeChar (opening : Text) (c : Char) {rest : Text} (hr : rest ≠ []) :
    stringUnits opening (writeChar c ++ rest) =
      (stringUnits opening rest).map fun (list, rest) ↦ (units c.toNat ++ list, rest) := by
  have hescaped : ∀ mark, escaped? mark = some c → c.toNat < 0x10000 →
      stringUnits opening ('\\' :: mark :: rest) =
        (stringUnits opening rest).map fun (list, rest) ↦ (units c.toNat ++ list, rest) := by
    intro mark hm hc
    rw [stringUnits_escaped opening hm, units_of_lt hc]
    rfl
  rw [writeChar]
  split_ifs with hmark hn hr' ht hbs hff hplain
  · rcases hmark with rfl | rfl <;> exact hescaped _ rfl (by decide)
  · exact hescaped 'n' (hn ▸ rfl) (hn ▸ by decide)
  · exact hescaped 'r' (hr' ▸ rfl) (hr' ▸ by decide)
  · exact hescaped 't' (ht ▸ rfl) (ht ▸ by decide)
  · exact hescaped 'b' (hbs ▸ rfl) (hbs ▸ by decide)
  · exact hescaped 'f' (hff ▸ rfl) (hff ▸ by decide)
  · obtain ⟨hq, hb⟩ := not_or.1 hmark
    rw [units_of_lt (Nat.lt_trans hplain.2 (by decide))]
    exact stringUnits_plain opening hq hb hplain.1 rest
  · exact stringUnits_units opening (lt_of_mem_units c) hr

theorem ofUnits?_units (c : Char) (list : List Nat) :
    ofUnits? (units c.toNat ++ list) = (ofUnits? list).map (c :: ·) := by
  have hvalid : c.toNat < 0xd800 ∨ 0xdfff < c.toNat ∧ c.toNat < 0x110000 := c.valid
  rw [units]
  split_ifs with hlow
  · have hhigh : isHigh c.toNat = false := by
      simp only [isHigh, Bool.and_eq_false_iff, decide_eq_false_iff_not]
      omega
    have hlow : isLow c.toNat = false := by
      simp only [isLow, Bool.and_eq_false_iff, decide_eq_false_iff_not]
      omega
    cases list <;> simp [ofUnits?, hhigh, hlow, Char.ofNat_toNat]
  · have hhigh : isHigh (0xd800 + (c.toNat - 0x10000) / 0x400) = true := by
      simp only [isHigh, Bool.and_eq_true, decide_eq_true_eq]
      omega
    have hlow : isLow (0xdc00 + (c.toNat - 0x10000) % 0x400) = true := by
      simp only [isLow, Bool.and_eq_true, decide_eq_true_eq]
      omega
    have hback : ofPair (0xd800 + (c.toNat - 0x10000) / 0x400)
        (0xdc00 + (c.toNat - 0x10000) % 0x400) = c := by
      have hn : 0x10000 + (0xd800 + (c.toNat - 0x10000) / 0x400 - 0xd800) * 0x400 +
          (0xdc00 + (c.toNat - 0x10000) % 0x400 - 0xdc00) = c.toNat := by omega
      rw [ofPair, hn, Char.ofNat_toNat]
    rw [List.cons_append, List.singleton_append, ofUnits?, hhigh, hlow, hback]
    rfl

theorem readText_written (opening text rest : Text) :
    readText opening (text.flatMap writeChar ++ '"' :: rest) = .ok (text, rest) := by
  have hunits : stringUnits opening (text.flatMap writeChar ++ '"' :: rest) =
      .ok (text.flatMap fun c ↦ units c.toNat, rest) := by
    induction text with
    | nil => rfl
    | cons c text ih =>
      rw [List.flatMap_cons, List.append_assoc, stringUnits_writeChar opening c (by simp), ih]
      rfl
  have hback : ofUnits? (text.flatMap fun c ↦ units c.toNat) = some text := by
    clear hunits
    induction text with
    | nil => rfl
    | cons c text ih => rw [List.flatMap_cons, ofUnits?_units, ih, Option.map_some]
  rw [readText, hunits, ok_bind]
  simp only [hback]
  rfl

theorem isVisible_writeChar (c : Char) : (writeChar c).IsVisible := by
  rw [writeChar]
  split_ifs with hmark hn hr ht hbs hff hplain
  · rcases hmark with rfl | rfl <;> decide
  · decide
  · decide
  · decide
  · decide
  · decide
  · exact List.forall_mem_singleton.2 ⟨hplain.1, hplain.2⟩
  · intro d hd
    obtain ⟨unit, -, hd⟩ := List.mem_flatMap.1 hd
    have hu : Text.IsVisible ['\\', 'u'] := by decide
    exact hu.append (isVisible_hex 4 unit) d hd

theorem isVisible_writeText (text : Text) : (writeText text).IsVisible := by
  have hquote : Text.IsVisible ['"'] := by decide
  refine (hquote.append ?_).append hquote
  intro c hc
  obtain ⟨d, -, hd⟩ := List.mem_flatMap.1 hc
  exact isVisible_writeChar d c hd

end Json

end BuildTags
