import BuildTags.Disk.Utf8
import BuildTags.Proofs.Outcome

namespace BuildTags.Utf8

def IsAscii (text : Text) : Prop := ∀ c ∈ text, c.toNat < 0x80

variable {text : Text}

theorem encode_cons_of_ascii {c : Char} (h : c.toNat < 0x80) (text : Text) :
    encode (c :: text) = UInt8.ofNat c.toNat :: encode text := by
  rw [encode, List.flatMap_cons, encodeChar, if_pos h]
  rfl

theorem decodeFrom_encode_of_ascii (h : IsAscii text) {fuel : Nat} (hf : text.length ≤ fuel)
    (position : Nat) : decodeFrom fuel position (encode text) = .ok text := by
  induction text generalizing fuel position with
  | nil => cases fuel <;> rfl
  | cons c text ih =>
    obtain ⟨hc, ht⟩ := List.forall_mem_cons.1 h
    cases fuel with
    | zero => exact absurd hf (Nat.not_succ_le_zero _)
    | succ fuel =>
      have hn : (UInt8.ofNat c.toNat).toNat = c.toNat :=
        UInt8.toNat_ofNat_of_lt' (Nat.lt_of_lt_of_le hc (by decide))
      have hs : size? c.toNat = some 1 := if_pos hc
      have hb : firstBits 1 c.toNat = c.toNat := rfl
      have hk : continuations c.toNat (1 - 1) (encode text) = [] := by
        cases encode text <;> rfl
      have hlen : text.length ≤ fuel := Nat.le_of_succ_le_succ hf
      rw [encode_cons_of_ascii hc, decodeFrom, hn, hs]
      simp only [hk, hb, List.length_nil, Nat.zero_add, if_true, List.foldl_nil, List.drop_zero,
        ih ht hlen, ok_bind, Char.ofNat_toNat]
      rfl

theorem decode_encode_of_ascii (h : IsAscii text) : decode (encode text) = .ok text := by
  have hl : (encode text).length = text.length := by
    induction text with
    | nil => rfl
    | cons c text ih =>
      obtain ⟨hc, ht⟩ := List.forall_mem_cons.1 h
      rw [encode_cons_of_ascii hc, List.length_cons, List.length_cons, ih ht]
  exact decodeFrom_encode_of_ascii h (Nat.le_of_eq hl.symm) 0

end BuildTags.Utf8
