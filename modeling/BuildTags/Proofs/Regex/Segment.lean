import BuildTags.Proofs.Regex.Onward
import BuildTags.Regex.Segment
import Mathlib.Data.List.Basic

namespace BuildTags.Regex

def matchOn? (regex : Regex) (noEmpty : Bool) (before after : Text) (skipped : Nat) : Option Text :=
  let start : Cursor :=
    { before := (after.take skipped).reverse ++ before
      after := after.drop skipped
      position := before.length + skipped }
  (regex.lengthAt? (before.length + after.length) (noEmpty && skipped = 0) start).map
    start.after.take

/-- The successive matches of an expression, each with what was skipped to reach it, and what is
left after them. A match begins as far to the left as one can, where the one before it ended or
later; after an empty one the next must not be empty at the same place. -/
inductive Finds (regex : Regex) : (noEmpty : Bool) → (before after : Text) →
    (pieces : List (Text × Text)) → (last : Text) → Prop
  | done {noEmpty : Bool} {before after : Text}
      (h : ∀ k ≤ after.length, regex.matchOn? noEmpty before after k = none) :
      Finds regex noEmpty before after [] after
  | found {noEmpty : Bool} {before skipped found rest last : Text} {pieces : List (Text × Text)}
      (hs : ∀ k < skipped.length,
        regex.matchOn? noEmpty before (skipped ++ (found ++ rest)) k = none)
      (hf : regex.matchOn? noEmpty before (skipped ++ (found ++ rest)) skipped.length = some found)
      (hr : Finds regex (found = []) (found.reverse ++ (skipped.reverse ++ before)) rest pieces last) :
      Finds regex noEmpty before (skipped ++ (found ++ rest)) ((skipped, found) :: pieces) last

def segmentsOf (pieces : List (Text × Text)) (last : Text) : List Segment :=
  pieces.flatMap (fun piece ↦ [.between piece.1, .found piece.2]) ++ [.between last]

variable {regex : Regex} {size size' fuel length k : Nat} {noEmpty : Bool} {start : Cursor}
  {before after skipped found last last' : Text} {pieces pieces' : List (Text × Text)}

theorem lengthAt?_eq (h : start.text.length ≤ size) (h' : start.text.length ≤ size') :
    regex.lengthAt? size noEmpty start = regex.lengthAt? size' noEmpty start := by
  rw [lengthAt?, lengthAt?, agreeIn_run h h' regex.expr rfl fun _ _ ↦ rfl]

theorem of_lengthAt? (h : regex.lengthAt? size noEmpty start = some length) :
    length ≤ start.after.length ∧ (noEmpty = true → length ≠ 0) := by
  obtain ⟨cursor, hr, rfl⟩ := Option.map_eq_some_iff.1 h
  obtain ⟨cursor', ho, hn⟩ := advances_run size regex.expr hr
  have hl := ho.length_eq
  have hp := ho.position_le
  split at hn
  · cases hn
  · rename_i he
    cases hn
    refine ⟨by omega, fun hno hz ↦ he ?_⟩
    have hsame : cursor.position = start.position := by omega
    simp [hno, hsame]

theorem matchOn?_succ (c : Char) : regex.matchOn? noEmpty before (c :: after) (k + 1) =
    regex.matchOn? false (c :: before) after k := by
  simp [matchOn?, Nat.add_assoc, Nat.add_comm 1]

theorem matchOn?_zero (hsize : before.length + after.length ≤ size) :
    regex.matchOn? noEmpty before after 0 =
      (regex.lengthAt? size noEmpty { before, after, position := before.length }).map after.take := by
  have hlength : ({ before, after, position := before.length } : Cursor).text.length =
      before.length + after.length := by simp [Cursor.text]
  rw [← lengthAt?_eq (Nat.le_of_eq hlength) (hlength ▸ hsize)]
  simp [matchOn?]

theorem ne_nil_of_matchOn?_zero (h : regex.matchOn? true before after 0 = some found) :
    found ≠ [] := by
  obtain ⟨length, hl, rfl⟩ := Option.map_eq_some_iff.1 h
  obtain ⟨hle, hne⟩ := of_lengthAt? hl
  have hne := hne rfl
  rw [← List.length_pos_iff, List.length_take]
  omega

theorem search?_eq_none (hsize : before.length + after.length ≤ size)
    (h : regex.search? size noEmpty before before.length after = none) :
    ∀ k ≤ after.length, regex.matchOn? noEmpty before after k = none := by
  induction after generalizing before noEmpty with
  | nil =>
    intro k hk
    obtain rfl := Nat.le_zero.1 hk
    rw [matchOn?_zero hsize, Option.map_eq_none_iff.1 h]
    rfl
  | cons c after ih =>
    rw [search?] at h
    split at h
    · cases h
    · rename_i hn
      have hsize' : (c :: before).length + after.length ≤ size := by
        rw [List.length_cons] at hsize ⊢
        omega
      have hlater := ih hsize' (Option.map_eq_none_iff.1 h)
      intro k hk
      cases k with
      | zero => rw [matchOn?_zero hsize, hn, Option.map_none]
      | succ k => rw [matchOn?_succ, hlater k (Nat.le_of_succ_le_succ hk)]

theorem search?_eq_some (hsize : before.length + after.length ≤ size)
    (h : regex.search? size noEmpty before before.length after = some (skipped, length)) :
    ∃ found rest, after = skipped ++ (found ++ rest) ∧ found.length = length ∧
      (∀ k < skipped.length, regex.matchOn? noEmpty before after k = none) ∧
      regex.matchOn? noEmpty before after skipped.length = some found := by
  induction after generalizing before noEmpty skipped with
  | nil =>
    obtain ⟨length, hl, he⟩ := Option.map_eq_some_iff.1 h
    obtain ⟨rfl, rfl⟩ := Prod.mk.inj he
    obtain rfl := Nat.le_zero.1 (of_lengthAt? hl).1
    refine ⟨[], [], rfl, rfl, nofun, ?_⟩
    rw [List.length_nil, matchOn?_zero hsize, hl]
    rfl
  | cons c after ih =>
    rw [search?] at h
    split at h
    · rename_i length hl
      cases h
      refine ⟨_, _, (List.take_append_drop length _).symm, List.length_take_of_le (of_lengthAt? hl).1,
        nofun, ?_⟩
      rw [List.length_nil, matchOn?_zero hsize, hl]
      rfl
    · rename_i hn
      obtain ⟨⟨skipped, length⟩, hs, he⟩ := Option.map_eq_some_iff.1 h
      obtain ⟨rfl, rfl⟩ := Prod.mk.inj he
      have hsize' : (c :: before).length + after.length ≤ size := by
        rw [List.length_cons] at hsize ⊢
        omega
      obtain ⟨found, rest, rfl, hl, hbefore, hfound⟩ := ih hsize' hs
      refine ⟨found, rest, rfl, hl, fun k hk ↦ ?_, ?_⟩
      · cases k with
        | zero => rw [matchOn?_zero hsize, hn, Option.map_none]
        | succ k => rw [matchOn?_succ, hbefore k (Nat.lt_of_succ_lt_succ hk)]
      · rw [List.length_cons, matchOn?_succ, hfound]

/-- There are successive matches, and they are what the search for them finds, however many more
rounds it may take. -/
theorem exists_finds (hsize : before.length + after.length ≤ size)
    (hfuel : 2 * after.length + 2 ≤ fuel + noEmpty.toNat) :
    ∃ pieces last, regex.Finds noEmpty before after pieces last ∧
      regex.segmentsFrom size fuel noEmpty before before.length after = segmentsOf pieces last := by
  induction fuel generalizing noEmpty before after with
  | zero =>
    have := noEmpty.toNat_le
    omega
  | succ fuel ih =>
    rw [segmentsFrom]
    cases hs : regex.search? size noEmpty before before.length after with
    | none => exact ⟨[], after, .done (search?_eq_none hsize hs), rfl⟩
    | some piece =>
      obtain ⟨skipped, length⟩ := piece
      obtain ⟨found, rest, rfl, rfl, hbefore, hfound⟩ := search?_eq_some hsize hs
      simp only [List.length_append] at hsize hfuel
      have hposition : before.length + skipped.length + found.length =
          (found.reverse ++ (skipped.reverse ++ before)).length := by
        simp only [List.length_append, List.length_reverse]
        omega
      -- an empty match right after an empty one skips something, which pays for the round
      have hpays : found = [] → noEmpty = true → skipped.length ≠ 0 := by
        rintro he rfl hz
        rw [hz] at hfound
        exact ne_nil_of_matchOn?_zero hfound he
      have hfuel' : 2 * rest.length + 2 ≤ fuel + (decide (found = [])).toNat := by
        by_cases he : found = []
        · simp only [he, decide_true, Bool.toNat_true, List.length_nil] at hfuel ⊢
          cases noEmpty with
          | false =>
            rw [Bool.toNat_false] at hfuel
            omega
          | true =>
            have := hpays he rfl
            rw [Bool.toNat_true] at hfuel
            omega
        · have := List.length_pos_iff.2 he
          have := noEmpty.toNat_le
          omega
      obtain ⟨pieces, last, hr, he⟩ := ih (by rw [← hposition]; omega) hfuel'
      refine ⟨(skipped, found) :: pieces, last, .found hbefore hfound hr, ?_⟩
      simp only [List.drop_left, List.take_left, List.length_eq_zero_iff, hposition, he]
      rfl

theorem exists_finds_of_le (regex : Regex) {text : Text} (hsize : text.length ≤ size)
    (hfuel : 2 * text.length + 2 ≤ fuel) :
    ∃ pieces last, regex.Finds false [] text pieces last ∧
      regex.segmentsFrom size fuel false [] 0 text = segmentsOf pieces last :=
  exists_finds (by simpa using hsize) hfuel

theorem Finds.unique (h : regex.Finds noEmpty before after pieces last)
    (h' : regex.Finds noEmpty before after pieces' last') : pieces' = pieces ∧ last' = last := by
  induction h generalizing pieces' last' with
  | @done noEmpty before after h =>
    cases h' with
    | done => exact ⟨rfl, rfl⟩
    | @found _ _ skipped found rest _ _ _ hf =>
      have hnone := h skipped.length (by simp)
      rw [hf] at hnone
      cases hnone
  | @found noEmpty before skipped found rest last pieces hs hf _ ih =>
    generalize ha : skipped ++ (found ++ rest) = after at h' hs hf
    cases h' with
    | done h =>
      have hnone := h skipped.length (by simp [← ha])
      rw [hf] at hnone
      cases hnone
    | @found _ _ skipped' found' rest' _ _ hs' hf' hr' =>
      have hlength : skipped.length = skipped'.length := by
        obtain hlt | he | hlt := Nat.lt_trichotomy skipped.length skipped'.length
        · rw [hs' _ hlt] at hf
          cases hf
        · exact he
        · rw [hs _ hlt] at hf'
          cases hf'
      obtain ⟨rfl, htail⟩ := List.append_inj ha hlength
      obtain rfl := Option.some.inj (hf.symm.trans hf')
      obtain rfl := List.append_cancel_left htail
      obtain ⟨rfl, rfl⟩ := ih hr'
      exact ⟨rfl, rfl⟩

theorem Finds.eq_flatMap (h : regex.Finds noEmpty before after pieces last) :
    after = pieces.flatMap (fun piece ↦ piece.1 ++ piece.2) ++ last := by
  induction h with
  | done => rfl
  | found _ _ _ ih => rw [List.flatMap_cons, List.append_assoc, List.append_assoc, ← ih]

end BuildTags.Regex
