import BuildTags.Proofs.Json.Text
import BuildTags.Proofs.Numeral

namespace BuildTags.Json

section

variable {longest : Option Nat} {text : Text} {deep : Text → Bool} {value : Value}

theorem read_eq_ok_iff :
    read longest text deep = .ok value ↔ deep text = false ∧ readDocument longest text = .ok value := by
  rw [read]
  cases deep text with
  | true => simp
  | false =>
    rw [if_neg Bool.false_ne_true]
    cases readDocument longest text with
    | ok found => simp
    | error stop => cases stop <;> simp

theorem read_eq_depth_iff :
    read longest text deep = .error (.beyond .depth) ↔ deep text = true := by
  rw [read]
  cases deep text with
  | true => simp
  | false =>
    rw [if_neg Bool.false_ne_true]
    cases readDocument longest text with
    | ok found => simp
    | error stop => cases stop <;> simp

end

inductive Closes : Text → Prop
  | comma (rest : Text) : Closes (',' :: rest)
  | bracket (rest : Text) : Closes ('}' :: rest)

variable {text rest written : Text}

theorem isAsciiDigit_of_mem_toDigits {n : Nat} {c : Char} (h : c ∈ Nat.toDigits 10 n) :
    isAsciiDigit c = true :=
  Nat.isDigit_of_mem_toDigits (by decide) (by decide) h

theorem exists_digit_of_toDigits (n : Nat) :
    ∃ c tail, Nat.toDigits 10 n = c :: tail ∧ isAsciiDigit c = true := by
  obtain ⟨c, tail, he⟩ := List.exists_cons_of_ne_nil (Nat.toDigits_ne_nil (b := 10) (n := n))
  exact ⟨c, tail, he, isAsciiDigit_of_mem_toDigits (he ▸ List.mem_cons_self)⟩

theorem asciiNumber_toDigits (n : Nat) : asciiNumber (Nat.toDigits 10 n) = n := by
  have h : ∀ text : Text, (∀ c ∈ text, c.isDigit = true) →
      text.map (fun c ↦ c.toNat - '0'.toNat) = text.filterMap Text.digitValue? := by
    intro text hd
    induction text with
    | nil => rfl
    | cons c text ih =>
      obtain ⟨hc, ht⟩ := List.forall_mem_cons.1 hd
      simp only [List.map_cons, List.filterMap_cons, Text.digitValue?_of_isDigit_ascii hc, ih ht]
  rw [asciiNumber, h _ fun c hc ↦ isAsciiDigit_of_mem_toDigits hc]
  exact Numeral.ofDigits_toDigits n

theorem head_toDigits_ne_zero {n : Nat} (hn : n ≠ 0) :
    ∃ c tail, Nat.toDigits 10 n = c :: tail ∧ c ≠ '0' := by
  induction n using Nat.strongRecOn with
  | ind n ih =>
    by_cases hlt : n < 10
    · have hd : ∀ d < 10, d ≠ 0 → d.digitChar ≠ '0' := by decide
      exact ⟨_, _, Nat.toDigits_of_lt_base hlt, hd n hlt hn⟩
    · have hq : n / 10 < n := Nat.div_lt_self (by omega) (by decide)
      obtain ⟨c, tail, he, hc⟩ := ih _ hq (by omega)
      refine ⟨c, tail ++ [(n % 10).digitChar], ?_, hc⟩
      rw [Nat.toDigits_of_base_le (by decide) (Nat.le_of_not_lt hlt), he]
      rfl

theorem wholePart?_toDigits (n : Nat) (hr : Closes rest) :
    wholePart? (Nat.toDigits 10 n ++ rest) = some (Nat.toDigits 10 n, rest) := by
  by_cases hn : n = 0
  · subst hn
    rfl
  · obtain ⟨c, tail, he, hc⟩ := head_toDigits_ne_zero hn
    have hdigits : ∀ d ∈ c :: tail, isAsciiDigit d = true :=
      fun d hd ↦ isAsciiDigit_of_mem_toDigits (he ▸ hd)
    obtain ⟨hfirst, htail⟩ := List.forall_mem_cons.1 hdigits
    have htake : (tail ++ rest).takeWhile isAsciiDigit = tail := by
      rw [List.takeWhile_append_of_pos htail]
      cases hr <;> exact List.append_nil tail
    have hdrop : (tail ++ rest).dropWhile isAsciiDigit = rest := by
      rw [List.dropWhile_append_of_pos htail]
      cases hr <;> rfl
    rw [he, List.cons_append, wholePart?, if_pos hfirst, htake, hdrop]
    exact fun h ↦ absurd h hc

theorem readNumber_written {n : Int} (hw : Numeral.write n = .ok written) (hr : Closes rest) :
    readNumber (some Numeral.maxDigits) (written ++ rest) = .ok (.whole n, rest) := by
  rw [Numeral.write] at hw
  split_ifs at hw with hlong
  obtain rfl := Except.ok.inj hw
  have hplaces : fractionPart rest = ([], rest) := by cases hr <;> rfl
  have hexponent : exponentPart rest = (none, rest) := by cases hr <;> rfl
  have hlimit : (some Numeral.maxDigits).any
      (· < (Nat.toDigits 10 n.natAbs).length) = false := by simpa using hlong
  have hwhole := wholePart?_toDigits n.natAbs hr
  rw [Numeral.digits]
  split_ifs with hn
  · have hneg : (asciiNumber (Nat.toDigits 10 n.natAbs) : Int) = -n := by
      rw [asciiNumber_toDigits]
      omega
    simp [readNumber, hwhole, hplaces, hexponent, hlimit, hneg]
  · obtain ⟨c, tail, he, hc⟩ := exists_digit_of_toDigits n.natAbs
    have hpos : (asciiNumber (Nat.toDigits 10 n.natAbs) : Int) = n := by
      rw [asciiNumber_toDigits]
      omega
    have hhead : (Nat.toDigits 10 n.natAbs).head? ≠ some '-' := by
      rw [he]
      rintro ⟨⟩
      cases hc
    simp [readNumber, hhead, hwhole, hplaces, hexponent, hlimit, hpos]

theorem exists_head_of_digits (n : Int) :
    ∃ c tail, Numeral.digits n = c :: tail ∧ (c = '-' ∨ isAsciiDigit c = true) := by
  obtain ⟨c, tail, he, hc⟩ := exists_digit_of_toDigits n.natAbs
  rw [Numeral.digits]
  split_ifs with hn
  · exact ⟨'-', _, rfl, .inl rfl⟩
  · exact ⟨c, tail, he, .inr hc⟩

theorem readWord?_digits (n : Int) (rest : Text) :
    readWord? (Numeral.digits n ++ rest) = none := by
  obtain ⟨c, tail, he, hc⟩ := exists_digit_of_toDigits n.natAbs
  have hfirst : ∀ mark, isAsciiDigit mark = false → mark ≠ c := by
    rintro mark hmark rfl
    exact Bool.false_ne_true (hmark.symm.trans hc)
  rw [readWord?, Numeral.digits, he]
  split_ifs <;> simp [words, Text.after?, hfirst 'n' rfl, hfirst 't' rfl, hfirst 'f' rfl,
    hfirst 'N' rfl, hfirst 'I' rfl, hfirst '-' rfl]

theorem eq_digits_of_write {n : Int} (h : write (.whole n) = .ok written) :
    written = Numeral.digits n := by
  rw [write, Numeral.write] at h
  split_ifs at h
  exact (Except.ok.inj h).symm

theorem writeText_append (text rest : Text) :
    writeText text ++ rest = '"' :: (text.flatMap writeChar ++ '"' :: rest) := by
  rw [writeText, List.append_assoc]
  rfl

section

variable {value : Value}

theorem skip_written (hs : IsScalar value) (hw : write value = .ok written) (rest : Text) :
    skip (written ++ rest) = written ++ rest := by
  cases hs with
  | text text =>
    obtain rfl := Except.ok.inj hw
    rfl
  | whole n =>
    obtain rfl := eq_digits_of_write hw
    obtain ⟨c, tail, he, hc⟩ := exists_head_of_digits n
    have hspace : isSpace c = false := by
      rw [Bool.eq_false_iff]
      intro hspace
      simp only [isSpace, Bool.or_eq_true, decide_eq_true_eq] at hspace
      rcases hspace with ((rfl | rfl) | rfl) | rfl <;> exact absurd hc (by decide)
    rw [he, List.cons_append, skip, List.dropWhile_cons_of_neg]
    rw [hspace]
    exact Bool.false_ne_true

theorem readValue_written (hs : IsScalar value) (hw : write value = .ok written)
    (hr : Closes rest) (fuel : Nat) :
    readValue (some Numeral.maxDigits) (fuel + 1) (written ++ rest) = .ok (value, rest) := by
  cases hs with
  | text text =>
    obtain rfl := Except.ok.inj hw
    rw [writeText_append, readValue, readText_written]
    rfl
  | whole n =>
    have hnumber := readNumber_written hw hr
    obtain rfl := eq_digits_of_write hw
    have hword := readWord?_digits n rest
    obtain ⟨c, tail, he, hc⟩ := exists_head_of_digits n
    have hfirst : ∀ mark body, Numeral.digits n ++ rest = mark :: body →
        mark = '-' ∨ isAsciiDigit mark = true := by
      intro mark body h
      rw [he] at h
      exact (List.cons.inj h).1 ▸ hc
    rw [readValue, hword]
    · exact hnumber
    · exact fun body h ↦ absurd (hfirst _ body h) (by decide)
    · exact fun body h ↦ absurd (hfirst _ body h) (by decide)
    · exact fun body h ↦ absurd (hfirst _ body h) (by decide)

theorem isVisible_written (hs : IsScalar value) (hw : write value = .ok written) :
    written.IsVisible := by
  cases hs with
  | text text =>
    obtain rfl := Except.ok.inj hw
    exact isVisible_writeText text
  | whole n =>
    obtain rfl := eq_digits_of_write hw
    have hdigits : Text.IsVisible (Nat.toDigits 10 n.natAbs) := by
      intro c hc
      have hd : 48 ≤ c.toNat ∧ c.toNat ≤ 57 := by
        simpa [isAsciiDigit, Char.le_def, UInt32.le_iff_toNat_le] using isAsciiDigit_of_mem_toDigits hc
      omega
    rw [Numeral.digits]
    split_ifs
    · have hsign : Text.IsVisible ['-'] := by decide
      exact hsign.append hdigits
    · exact hdigits

end

section

variable {members : List (Text × Value)} {pieces : List Text}

theorem put_of_notMem {name : Text} {value : Value} (h : name ∉ members.map (·.1)) :
    put name value members = members ++ [(name, value)] := by
  induction members with
  | nil => rfl
  | cons member members ih =>
    rw [List.map_cons, List.mem_cons, not_or] at h
    rw [put, if_neg (Ne.symm h.1), ih h.2]
    rfl

theorem writeMembers_cons_eq_ok_iff {name : Text} {value : Value} :
    writeMembers ((name, value) :: members) = .ok pieces ↔ ∃ first rest,
      write value = .ok first ∧ writeMembers members = .ok rest ∧
        pieces = (writeText name ++ ": " ++ first) :: rest := by
  rw [writeMembers]
  constructor
  · intro h
    obtain ⟨first, hf, h⟩ := bind_eq_ok_iff.1 h
    obtain ⟨rest, hr, h⟩ := bind_eq_ok_iff.1 h
    exact ⟨first, rest, hf, hr, (Except.ok.inj h).symm⟩
  · rintro ⟨first, rest, hf, hr, rfl⟩
    exact bind_eq_ok_iff.2 ⟨first, hf, bind_eq_ok_iff.2 ⟨rest, hr, rfl⟩⟩

theorem exists_write_of_writeMembers (hw : writeMembers members = .ok pieces) :
    ∀ member ∈ members, ∃ written, write member.2 = .ok written := by
  induction members generalizing pieces with
  | nil => exact List.forall_mem_nil _
  | cons member members ih =>
    obtain ⟨first, more, hfirst, hmore, -⟩ := writeMembers_cons_eq_ok_iff.1 hw
    exact List.forall_mem_cons.2 ⟨⟨first, hfirst⟩, ih hmore⟩

/-- One written member is read, and the bracket or comma after it decides how reading goes on. -/
theorem readMembers_member {before : List (Text × Value)} {name : Text} {value : Value}
    (hs : IsScalar value) (hn : name ∉ before.map (·.1)) (hw : write value = .ok written)
    (fuel : Nat) (rest : Text) :
    readMembers (some Numeral.maxDigits) (fuel + 2) before
        (writeText name ++ ": " ++ written ++ '}' :: rest) =
      .ok (before ++ [(name, value)], rest) ∧
    readMembers (some Numeral.maxDigits) (fuel + 2) before
        (writeText name ++ ": " ++ written ++ ',' :: rest) =
      readMembers (some Numeral.maxDigits) (fuel + 1) (before ++ [(name, value)]) (skip rest) := by
  have hvalue : ∀ after, Closes after → readValue (some Numeral.maxDigits) (fuel + 1)
      (skip (' ' :: (written ++ after))) = .ok (value, after) := by
    intro after ha
    have hblank : skip (' ' :: (written ++ after)) = written ++ after := skip_written hs hw after
    rw [hblank, readValue_written hs hw ha]
  rw [List.append_assoc, List.append_assoc, List.append_assoc, List.append_assoc, writeText_append,
    writeText_append, readMembers, readMembers, readText_written, readText_written, ok_bind, ok_bind]
  constructor
  · show (readValue _ _ (skip (' ' :: (written ++ '}' :: rest))) >>= _) = _
    rw [hvalue _ (.bracket rest), ok_bind, ← put_of_notMem hn]
    rfl
  · show (readValue _ _ (skip (' ' :: (written ++ ',' :: rest))) >>= _) = _
    rw [hvalue _ (.comma rest), ok_bind, ← put_of_notMem hn]
    rfl

theorem join_cons {separator piece : Text} (hne : pieces ≠ []) :
    Text.join separator (piece :: pieces) = piece ++ separator ++ Text.join separator pieces := by
  rw [Text.join]
  exact fun h ↦ absurd h hne

theorem exists_quote_of_writeMembers (hne : members ≠ [])
    (hw : writeMembers members = .ok pieces) :
    pieces ≠ [] ∧ ∃ body, Text.join ", " pieces = '"' :: body := by
  obtain ⟨member, members, rfl⟩ := List.exists_cons_of_ne_nil hne
  obtain ⟨first, more, -, -, rfl⟩ := writeMembers_cons_eq_ok_iff.1 hw
  refine ⟨List.cons_ne_nil _ _, ?_⟩
  cases more <;> exact ⟨_, rfl⟩

theorem readMembers_written {before : List (Text × Value)} (hne : members ≠ [])
    (hs : ∀ member ∈ members, IsScalar member.2)
    (hn : ((before ++ members).map (·.1)).Nodup) (hw : writeMembers members = .ok pieces)
    {fuel : Nat} (hf : (Text.join ", " pieces).length < fuel) (rest : Text) :
    readMembers (some Numeral.maxDigits) fuel before (Text.join ", " pieces ++ '}' :: rest) =
      .ok (before ++ members, rest) := by
  induction members generalizing before pieces fuel with
  | nil => exact absurd rfl hne
  | cons member members ih =>
    obtain ⟨name, value⟩ := member
    obtain ⟨hscalar, hs⟩ := List.forall_mem_cons.1 hs
    obtain ⟨first, more, hfirst, hmore, rfl⟩ := writeMembers_cons_eq_ok_iff.1 hw
    have hname : name ∉ before.map (·.1) := by
      rw [List.map_append, List.nodup_append] at hn
      exact fun hm ↦ hn.2.2 _ hm _ List.mem_cons_self rfl
    have hnodup : (((before ++ [(name, value)]) ++ members).map (·.1)).Nodup := by
      rwa [List.append_assoc]
    -- Reading a member takes two units of fuel, and its text has two characters at least.
    have hpiece : 2 ≤ (writeText name ++ ": " ++ first).length := by
      rw [List.append_assoc, writeText_append, List.length_cons, List.length_append,
        List.length_cons]
      omega
    by_cases hlast : members = []
    · subst hlast
      obtain rfl := Except.ok.inj hmore
      rw [Text.join] at hf ⊢
      obtain ⟨fuel, rfl⟩ : ∃ k, fuel = k + 2 := ⟨fuel - 2, by omega⟩
      exact (readMembers_member hscalar hname hfirst fuel rest).1
    · obtain ⟨hmany, body, hquote⟩ := exists_quote_of_writeMembers hlast hmore
      have hskip : skip (' ' :: (Text.join ", " more ++ '}' :: rest)) =
          Text.join ", " more ++ '}' :: rest := by
        rw [hquote]
        rfl
      rw [join_cons hmany] at hf ⊢
      rw [List.length_append, List.length_append] at hf
      obtain ⟨fuel, rfl⟩ : ∃ k, fuel = k + 2 := ⟨fuel - 2, by omega⟩
      have hstep := (readMembers_member hscalar hname hfirst fuel
        (' ' :: (Text.join ", " more ++ '}' :: rest))).2
      have hlater : readMembers (some Numeral.maxDigits) (fuel + 1) (before ++ [(name, value)])
          (Text.join ", " more ++ '}' :: rest) =
            .ok (before ++ [(name, value)] ++ members, rest) :=
        ih hlast hs hnodup hmore (by omega)
      rw [hskip, hlater, List.append_assoc before] at hstep
      rw [List.append_assoc, List.append_assoc]
      exact hstep

theorem isVisible_writtenMembers (hs : ∀ member ∈ members, IsScalar member.2)
    (hw : writeMembers members = .ok pieces) : ∀ piece ∈ pieces, piece.IsVisible := by
  induction members generalizing pieces with
  | nil =>
    obtain rfl := Except.ok.inj hw
    exact List.forall_mem_nil _
  | cons member members ih =>
    obtain ⟨name, value⟩ := member
    obtain ⟨hscalar, hs⟩ := List.forall_mem_cons.1 hs
    obtain ⟨first, more, hfirst, hmore, rfl⟩ := writeMembers_cons_eq_ok_iff.1 hw
    refine List.forall_mem_cons.2 ⟨?_, ih hs hmore⟩
    have hcolon : Text.IsVisible ": " := by decide
    exact ((isVisible_writeText name).append hcolon).append (isVisible_written hscalar hfirst)

theorem write_object_eq_ok_iff : write (.object members) = .ok written ↔
    ∃ pieces, writeMembers members = .ok pieces ∧
      written = '{' :: (Text.join ", " pieces ++ ['}']) := by
  rw [write]
  constructor
  · intro h
    obtain ⟨pieces, hm, h⟩ := bind_eq_ok_iff.1 h
    exact ⟨pieces, hm, (Except.ok.inj h).symm⟩
  · rintro ⟨pieces, hm, rfl⟩
    exact bind_eq_ok_iff.2 ⟨pieces, hm, rfl⟩

theorem isVisible_written_object (hs : ∀ member ∈ members, IsScalar member.2)
    (hw : write (.object members) = .ok written) : written.IsVisible := by
  obtain ⟨pieces, hm, rfl⟩ := write_object_eq_ok_iff.1 hw
  have hopen : Text.IsVisible ['{'] := by decide
  have hclose : Text.IsVisible ['}'] := by decide
  have hcomma : Text.IsVisible ", " := by decide
  exact hopen.append ((Text.IsVisible.join hcomma (isVisible_writtenMembers hs hm)).append hclose)

theorem read_written_object (hne : members ≠ []) (hs : ∀ member ∈ members, IsScalar member.2)
    (hn : (members.map (·.1)).Nodup) (hw : write (.object members) = .ok written) :
    read (some Numeral.maxDigits) written = .ok (.object members) := by
  obtain ⟨pieces, hm, rfl⟩ := write_object_eq_ok_iff.1 hw
  obtain ⟨-, body, hquote⟩ := exists_quote_of_writeMembers hne hm
  have hnames : ((([] : List (Text × Value)) ++ members).map (·.1)).Nodup := hn
  have hmembers : ∀ fuel, (Text.join ", " pieces).length < fuel →
      readMembers (some Numeral.maxDigits) fuel [] (Text.join ", " pieces ++ ['}']) =
        .ok (members, []) :=
    fun fuel hf ↦ readMembers_written hne hs hnames hm hf []
  rw [hquote] at hmembers ⊢
  have hvalue : ∀ fuel, body.length + 1 < fuel →
      readValue (some Numeral.maxDigits) (fuel + 1) ('{' :: '"' :: (body ++ ['}'])) =
        .ok (.object members, []) := by
    intro fuel hf
    have hskip : skip ('"' :: (body ++ ['}'])) = '"' :: (body ++ ['}']) := rfl
    rw [readValue, hskip]
    show (readMembers _ fuel [] ('"' :: body ++ ['}']) >>= _) = _
    rw [hmembers fuel hf]
    rfl
  have hstart : skip ('{' :: '"' :: (body ++ ['}'])) = '{' :: '"' :: (body ++ ['}']) := rfl
  have hdocument : readDocument (some Numeral.maxDigits) ('{' :: '"' :: (body ++ ['}'])) =
      .ok (.object members) := by
    have hmark : ('{' :: '"' :: (body ++ ['}'])).head? ≠ some '\ufeff' := by simp
    have hfuel : body.length + 1 < 2 * ('{' :: '"' :: (body ++ ['}'])).length + 1 := by
      simp only [List.length_cons, List.length_append, List.length_nil]
      omega
    rw [readDocument, if_neg hmark, hstart, hvalue _ hfuel]
    rfl
  exact read_eq_ok_iff.2 ⟨rfl, hdocument⟩

end

end BuildTags.Json
