import BuildTags.Pattern.Expression
import BuildTags.Proofs.Regex.Reading
import Mathlib.Tactic.FinCases

namespace BuildTags.Regex

open Reading

/-- Whether a sequence of which some parts are read comes to another place of the same sequence, with
fuel for what is left at both. -/
def ReadsOn (s : Progress) (parts : List Part) (rest : Text) (s' : Progress) (parts' : List Part)
    (rest' : Text) : Prop :=
  ∀ (source : Source) (start : Bool) (fuel : Nat), rest.length < fuel →
    ∃ fuel', rest'.length < fuel' ∧ sequence start {} fuel parts source (s.at rest) =
      sequence start {} fuel' parts' source (s'.at rest')

section

variable {s s' s'' : Progress} {parts parts' parts'' : List Part} {rest rest' rest'' : Text}

theorem ReadsOn.refl (s : Progress) (parts : List Part) (rest : Text) :
    ReadsOn s parts rest s parts rest :=
  fun _ _ fuel hf ↦ ⟨fuel, hf, rfl⟩

theorem ReadsOn.trans (h : ReadsOn s parts rest s' parts' rest')
    (h' : ReadsOn s' parts' rest' s'' parts'' rest'') : ReadsOn s parts rest s'' parts'' rest'' := by
  intro source start fuel hf
  obtain ⟨fuel', hf', he⟩ := h source start fuel hf
  obtain ⟨fuel'', hf'', he'⟩ := h' source start fuel' hf'
  exact ⟨fuel'', hf'', he.trans he'⟩

theorem readsOn_of_step (hlt : rest'.length < rest.length)
    (h : ∀ source start fuel, sequence start {} (fuel + 1) parts source (s.at rest) =
      sequence start {} fuel parts' source (s'.at rest')) : ReadsOn s parts rest s' parts' rest' := by
  intro source start fuel hf
  obtain _ | fuel := fuel
  · omega
  · exact ⟨fuel, by omega, h source start fuel⟩

end

/-- Whether a text can follow any part of an expression without changing it: it neither goes on with a
sign of repetition nor ends in the middle of an escape. -/
def Fresh (text : Text) : Prop :=
  ∀ c tail, text = c :: tail → c ≠ '?' ∧ c ≠ '+' ∧ (c = '\\' → tail ≠ [])

theorem Fresh.ne {text : Text} (h : Fresh text) : text ≠ ['\\'] := by
  rintro rfl
  exact (h _ _ rfl).2.2 rfl rfl

theorem Fresh.tokenOf_ne {text : Text} (h : Fresh text) {c : Char} (hc : c = '?' ∨ c = '+') :
    tokenOf text ≠ some [c] := by
  cases text with
  | nil => nofun
  | cons d tail =>
    obtain ⟨hq, hp, hb⟩ := h _ _ rfl
    intro he
    by_cases hd : d = '\\'
    · subst hd
      cases tail with
      | nil => exact hb rfl rfl
      | cons e tail => cases he
    · rw [tokenOf_cons hd] at he
      obtain rfl := (List.cons.inj (Option.some.inj he)).1
      exact hc.elim hq hp

theorem fresh_nil : Fresh [] := nofun

theorem fresh_cons {c : Char} (hc : c ≠ '?' ∧ c ≠ '+' ∧ c ≠ '\\') (rest : Text) :
    Fresh (c :: rest) := by
  rintro _ _ ⟨rfl, rfl⟩
  exact ⟨hc.1, hc.2.1, fun h ↦ absurd h hc.2.2⟩

theorem fresh_escaped (c : Char) (rest : Text) : Fresh ('\\' :: c :: rest) := by
  rintro _ _ ⟨rfl, rfl⟩
  exact ⟨by decide, by decide, fun _ ↦ List.cons_ne_nil _ _⟩

def codeOf (c : Char) : Expr := .letter (.code c.toNat .exact false)

def digit : Expr := .letter (.set [.category .digit false] .exact false false)

section

variable {s s' : Progress} {parts inner : List Part} {rest : Text} {c : Char}

theorem readsOn_char (hc : c ∉ Pattern.specialChars) (hr : rest ≠ ['\\']) :
    ReadsOn s parts (c :: rest) s (.other (codeOf c) :: parts) rest := by
  refine readsOn_of_step (Nat.lt_succ_self _) fun source start fuel ↦ ?_
  have hsub : ['(', ')', '[', '\x7b', '*', '+', '?', '|', '^', '$', '\\', '.'] ⊆ Pattern.specialChars := by
    decide
  have hn := mt (@hsub c) hc
  simp only [List.mem_cons, List.not_mem_nil, or_false, not_or] at hn
  simp [sequence, bind_apply, next_apply, tokenOf_cons, hn, position_apply, advance_cons, hr,
    codeOf, Part.of, Modes.folding]

theorem readsOn_escaped (hc : c ∈ Pattern.specialChars) (hr : rest ≠ ['\\']) :
    ReadsOn s parts ('\\' :: c :: rest) s (.other (codeOf c) :: parts) rest := by
  refine readsOn_of_step (by simp only [List.length_cons]; omega) fun source start fuel ↦ ?_
  have he : escape {} c source (s.at rest) = .ok (codeOf c, s.at rest) := by
    change c ∈ (['(', ')', '[', ']', '\x7b', '\x7d', '?', '*', '+', '-', '|', '^', '$', '\\', '.', '&',
      '~', '#', ' ', '\t', '\n', '\r', '\x0b', '\x0c'] : List Char) at hc
    fin_cases hc <;> rfl
  simp [sequence, bind_apply, next_apply, tokenOf_escaped, position_apply, advance_escaped, hr,
    he, codeOf, Part.of]

theorem readsOn_digit (hr : rest ≠ ['\\']) :
    ReadsOn s parts ('\\' :: 'd' :: rest) s (.other digit :: parts) rest := by
  refine readsOn_of_step (by simp only [List.length_cons]; omega) fun source start fuel ↦ ?_
  have he : escape {} 'd' source (s.at rest) = .ok (digit, s.at rest) := rfl
  simp [sequence, bind_apply, next_apply, tokenOf_escaped, position_apply, advance_escaped, hr,
    he, digit, Part.of]

theorem readsOn_dot (hr : rest ≠ ['\\']) :
    ReadsOn s parts ('.' :: rest) s (.other (.letter .anyButLineFeed) :: parts) rest := by
  refine readsOn_of_step (by simp) fun source start fuel ↦ ?_
  simp [sequence, bind_apply, next_apply, tokenOf_cons, position_apply, advance_cons, hr, Part.of]

theorem entries_singleton (hc : c ≠ ']' ∧ c ≠ '\\') (hr : rest ≠ ['\\']) (source : Source)
    (opening fuel : Nat) :
    entries opening (fuel + 2) [] source (s.at (c :: ']' :: rest)) =
      .ok ([.code c.toNat], s.at rest) := by
  simp [bind_apply, pure_apply, accept_of_ne, entries, take_cons, entryOf, tokenOf_cons, hc, hr]

theorem set_anyBut (hc : c ≠ ']' ∧ c ≠ '\\') (hr : rest ≠ ['\\']) (source : Source) :
    set {} source (s.at ('^' :: c :: ']' :: rest)) =
      .ok (.letter (.code c.toNat .exact true), s.at rest) := by
  have he (opening : Nat) := entries_singleton hc hr source (s := s) opening (rest.length + 1)
  rw [set, bind_eq position_apply, bind_eq (accept_cons (by decide) (by simp)), bind_eq get_apply]
  exact (bind_eq (he _)).trans rfl

theorem readsOn_anyBut (hc : c ≠ ']' ∧ c ≠ '\\') (hr : rest ≠ ['\\']) :
    ReadsOn s parts ('[' :: '^' :: c :: ']' :: rest) s
      (.other (.letter (.code c.toNat .exact true)) :: parts) rest := by
  refine readsOn_of_step (by simp only [List.length_cons]; omega) fun source start fuel ↦ ?_
  simp [sequence, bind_apply, next_apply, tokenOf_cons, position_apply, advance_cons, set_anyBut hc hr,
    Part.of]

inductive Repeats : Char → Nat → Option Nat → Prop
  | optional : Repeats '?' 0 (some 1)
  | any : Repeats '*' 0 none
  | some : Repeats '+' 1 none

theorem greedOf_most (hr : Fresh rest) (source : Source) :
    greedOf source (s.at rest) = .ok (.most, s.at rest) := by
  rw [greedOf, bind_eq (accept_of_ne (hr.tokenOf_ne (.inl rfl)))]
  simp only [Bool.false_eq_true, if_false]
  rw [bind_eq (accept_of_ne (hr.tokenOf_ne (.inr rfl)))]
  rfl

theorem greedOf_fewest (hr : rest ≠ ['\\']) (source : Source) :
    greedOf source (s.at ('?' :: rest)) = .ok (.fewest, s.at rest) := by
  rw [greedOf, bind_eq (accept_cons (by decide) hr)]
  rfl

section

variable {least : Nat} {most : Option Nat} {body : Expr}

theorem readsOn_repeat (sign : Text) {greed : Greed} (hc : Repeats c least most) (hs : sign ++ rest ≠ ['\\'])
    (hg : ∀ source, greedOf source (s.at (sign ++ rest)) = .ok (greed, s.at rest)) :
    ReadsOn s (.other body :: parts) (c :: (sign ++ rest)) s
      (.loop (.loop greed least most body) :: parts) rest := by
  refine readsOn_of_step (by simp only [List.length_cons, List.length_append]; omega)
    fun source start fuel ↦ ?_
  have hn : c ≠ '(' ∧ c ≠ ')' ∧ c ≠ '[' ∧ c ≠ '|' ∧ c ≠ '\\' := by cases hc <;> decide
  have hm : c ∈ (['*', '+', '?', '\x7b'] : List Char) := by cases hc <;> decide
  have hb : ∀ t, bounds? c source t = .ok (some (least, most), t) := by cases hc <;> exact fun _ ↦ rfl
  simp only [List.mem_cons, List.not_mem_nil, or_false] at hm
  simp [sequence, bind_apply, next_apply, tokenOf_cons, hn, hm, hb, position_apply, advance_cons, hs,
    repeatLast, hg]

theorem readsOn_most (hc : Repeats c least most) (hr : Fresh rest) :
    ReadsOn s (.other body :: parts) (c :: rest) s (.loop (.loop .most least most body) :: parts)
      rest :=
  readsOn_repeat [] hc hr.ne fun source ↦ greedOf_most hr source

theorem readsOn_fewest (hc : Repeats c least most) (hr : rest ≠ ['\\']) :
    ReadsOn s (.other body :: parts) (c :: '?' :: rest) s
      (.loop (.loop .fewest least most body) :: parts) rest :=
  readsOn_repeat ['?'] hc (by simp) fun source ↦ greedOf_fewest hr source

end

def Ends (rest : Text) : Prop := rest = [] ∨ ∃ tail, rest = ')' :: tail

theorem Ends.tokenOf (h : Ends rest) : tokenOf rest = none ∨ tokenOf rest = some [')'] := by
  obtain rfl | ⟨tail, rfl⟩ := h
  · exact .inl rfl
  · exact .inr (tokenOf_cons (by decide))

theorem sequence_of_ends (h : Ends rest) (source : Source) (start : Bool) (fuel : Nat) :
    sequence start {} fuel parts source (s.at rest) = .ok (joinParts parts, s.at rest) := by
  obtain _ | fuel := fuel
  · rw [sequence, pure_apply]
  · rw [sequence, bind_eq next_apply, Progress.rest_at]
    obtain he | he := h.tokenOf <;> rw [he] <;> rfl

theorem alternatives_apply {rest' : Text} (h : ReadsOn s [] rest s' inner rest') (he : Ends rest')
    {top : Bool} (hg : s.globals = []) (source : Source) (first : Bool) {fuel : Nat}
    (hf : rest.length < fuel) :
    alternatives top first {} (fuel + 1) source (s.at rest) = .ok (joinParts inner, s'.at rest') := by
  have hm : globalModes source (s.at rest) = .ok ({}, s.at rest) := by
    change Except.ok (Modes.change {} s.globals [], s.at rest) = _
    rw [hg]
    rfl
  have hb : tokenOf rest' ≠ some ['|'] := by obtain he | he := he.tokenOf <;> rw [he] <;> decide
  obtain ⟨fuel', -, hs⟩ := h source (top && first) fuel hf
  have hsequence := hs.trans (sequence_of_ends he source (top && first) fuel')
  cases top with
  | false =>
    rw [alternatives, if_neg (by decide), bind_eq (pure_apply _)]
    beta_reduce
    rw [bind_eq hsequence, bind_eq (accept_of_ne hb)]
    rfl
  | true =>
    rw [alternatives, if_pos rfl, bind_eq hm]
    beta_reduce
    rw [bind_eq hsequence, bind_eq (accept_of_ne hb)]
    rfl

end

end BuildTags.Regex
