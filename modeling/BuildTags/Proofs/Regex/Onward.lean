import BuildTags.Regex.Match
import Mathlib.Tactic.SplitIfs

namespace BuildTags.Regex

namespace Cursor

def Onward (cursor cursor' : Cursor) : Prop :=
  ∃ taken, cursor.after = taken ++ cursor'.after ∧
    cursor'.before = taken.reverse ++ cursor.before ∧
    cursor'.position = cursor.position + taken.length

variable {cursor middle cursor' : Cursor}

theorem Onward.of_same (ha : cursor'.after = cursor.after) (hb : cursor'.before = cursor.before)
    (hp : cursor'.position = cursor.position) : cursor.Onward cursor' :=
  ⟨[], by simp [ha], by simp [hb], by simp [hp]⟩

theorem Onward.refl (cursor : Cursor) : cursor.Onward cursor := .of_same rfl rfl rfl

theorem onward_borders (cursor : Cursor) (starts stops : List (Nat × Nat)) :
    cursor.Onward { cursor with starts, stops } :=
  .of_same rfl rfl rfl

theorem onward_openGroup (cursor : Cursor) (index : Nat) : cursor.Onward (cursor.openGroup index) :=
  cursor.onward_borders _ _

theorem onward_closeGroup (cursor : Cursor) (index : Nat) :
    cursor.Onward (cursor.closeGroup index) :=
  cursor.onward_borders _ _

theorem Onward.trans (h : cursor.Onward middle) (h' : middle.Onward cursor') :
    cursor.Onward cursor' := by
  obtain ⟨taken, ha, hb, hp⟩ := h
  obtain ⟨taken', ha', hb', hp'⟩ := h'
  refine ⟨taken ++ taken', ?_, ?_, ?_⟩
  · rw [ha, ha', List.append_assoc]
  · rw [hb', hb, List.reverse_append, List.append_assoc]
  · rw [hp', hp, List.length_append, Nat.add_assoc]

theorem onward_step {c : Char} {rest : Text} (h : cursor.after = c :: rest) :
    cursor.Onward (cursor.step c rest) :=
  ⟨[c], h, rfl, rfl⟩

theorem Onward.text_eq (h : cursor.Onward cursor') : cursor'.text = cursor.text := by
  obtain ⟨taken, ha, hb, -⟩ := h
  simp [text, ha, hb]

theorem Onward.length_eq (h : cursor.Onward cursor') : cursor.after.length + cursor.position =
    cursor'.after.length + cursor'.position := by
  obtain ⟨taken, ha, -, hp⟩ := h
  rw [ha, hp, List.length_append]
  omega

theorem Onward.position_le (h : cursor.Onward cursor') : cursor.position ≤ cursor'.position := by
  obtain ⟨taken, -, -, hp⟩ := h
  omega

theorem text_of_back? {n : Nat} (h : cursor.back? n = some cursor') : cursor'.text = cursor.text := by
  induction n generalizing cursor with
  | zero =>
    cases h
    rfl
  | succ n ih =>
    rw [back?] at h
    split at h
    · cases h
    · rename_i c before hb
      rw [ih h]
      simp [text, hb]

theorem onward_of_takeText? {folding : Folding} {expected : Text}
    (h : takeText? folding expected cursor = some cursor') : cursor.Onward cursor' := by
  induction expected generalizing cursor with
  | nil =>
    cases h
    exact .refl _
  | cons e expected ih =>
    rw [takeText?] at h
    split at h
    · rename_i c rest ha
      split at h
      · exact (onward_step ha).trans (ih h)
      · cases h
    · cases h

end Cursor

abbrev Round := Cursor → (Cursor → Option Cursor) → Option Cursor

def Advances (round : Round) : Prop :=
  ∀ {cursor next found}, round cursor next = some found →
    ∃ cursor', cursor.Onward cursor' ∧ next cursor' = some found

/-- Whether two rounds have the same outcome wherever what follows them has. -/
def AgreeIn (text : Text) (round round' : Round) : Prop :=
  ∀ {cursor next next'}, cursor.text = text →
    (∀ cursor', cursor.Onward cursor' → next cursor' = next' cursor') →
    round cursor next = round' cursor next'

/-- Whether a loop cannot use up its rounds: it may begin no other one, or there is one for each of
the least rounds, one for each character, and two more. -/
def Enough (least fuel count : Nat) (last : Option Nat) (cursor : Cursor) : Prop :=
  least ≤ count ∧ last = some cursor.position ∨
    least - count + cursor.after.length + 2 ≤ fuel

section

variable {least fuel fuel' count : Nat} {most : Option Nat} {last : Option Nat}
  {cursor cursor' : Cursor} {text : Text} {round round' : Round} {next next' : Cursor → Option Cursor}

theorem Enough.zero (h : Enough least 0 count last cursor) :
    least ≤ count ∧ last = some cursor.position := by
  obtain h | h := h
  · exact h
  · omega

theorem Enough.round_least (h : Enough least (fuel + 1) count last cursor) (hc : count < least)
    (ho : cursor.Onward cursor') : Enough least fuel (count + 1) last cursor' := by
  have hl := ho.length_eq
  have hp := ho.position_le
  obtain h | h := h
  · omega
  · right
    omega

theorem Enough.round_more (h : Enough least (fuel + 1) count last cursor) (hc : least ≤ count)
    (hlast : last ≠ some cursor.position) (ho : cursor.Onward cursor') :
    Enough least fuel (count + 1) (some cursor.position) cursor' := by
  have hl := ho.length_eq
  have hp := ho.position_le
  obtain h | h := h
  · exact absurd h.2 hlast
  · by_cases he : cursor.position = cursor'.position
    · exact .inl ⟨by omega, by rw [he]⟩
    · right
      omega

theorem ne_of_mayRepeat (h : mayRepeat most count last cursor = true) :
    last ≠ some cursor.position := by
  rw [mayRepeat, Bool.and_eq_true, decide_eq_true_eq] at h
  exact h.2

theorem mayRepeat_of_eq (h : last = some cursor.position) :
    mayRepeat most count last cursor = false := by
  simp [mayRepeat, h]

/-! A loop that may begin no other round ends, however many rounds are left. -/

theorem loopMost_ended (h : least ≤ count ∧ last = some cursor.position) :
    loopMost round least most next fuel count last cursor = next cursor := by
  cases fuel with
  | zero => rfl
  | succ fuel => simp [loopMost, Nat.not_lt.2 h.1, mayRepeat_of_eq h.2]

theorem loopFewest_ended (h : least ≤ count ∧ last = some cursor.position) :
    loopFewest round least most next fuel count last cursor = next cursor := by
  cases fuel with
  | zero => rfl
  | succ fuel =>
    rw [loopFewest, if_neg (Nat.not_lt.2 h.1), mayRepeat_of_eq h.2]
    cases next cursor <;> rfl

theorem loopPossessive_ended (h : least ≤ count ∧ last = some cursor.position) :
    loopPossessive round least most fuel count last cursor = some cursor := by
  cases fuel with
  | zero => rfl
  | succ fuel => simp [loopPossessive, Nat.not_lt.2 h.1, mayRepeat_of_eq h.2]

theorem Advances.chain {found : Cursor} (h : Advances round) (hr : round cursor next = some found)
    (hn : ∀ middle, next middle = some found →
      ∃ cursor', middle.Onward cursor' ∧ next' cursor' = some found) :
    ∃ cursor', cursor.Onward cursor' ∧ next' cursor' = some found := by
  obtain ⟨middle, ho, hm⟩ := h hr
  obtain ⟨cursor', ho', hf⟩ := hn middle hm
  exact ⟨cursor', ho.trans ho', hf⟩

theorem Advances.loopMost (h : Advances round) (fuel count : Nat) (last : Option Nat) :
    Advances fun cursor next ↦ loopMost round least most next fuel count last cursor := by
  intro cursor next found hr
  induction fuel generalizing cursor count last with
  | zero => exact ⟨cursor, .refl _, hr⟩
  | succ fuel ih =>
    simp only [Regex.loopMost] at hr
    split_ifs at hr
    · exact h.chain hr fun _ ↦ ih _ _
    · split at hr
      · rename_i hs
        cases hr
        exact h.chain hs fun _ ↦ ih _ _
      · exact ⟨cursor, .refl _, hr⟩
    · exact ⟨cursor, .refl _, hr⟩

theorem Advances.loopFewest (h : Advances round) (fuel count : Nat) (last : Option Nat) :
    Advances fun cursor next ↦ loopFewest round least most next fuel count last cursor := by
  intro cursor next found hr
  induction fuel generalizing cursor count last with
  | zero => exact ⟨cursor, .refl _, hr⟩
  | succ fuel ih =>
    simp only [Regex.loopFewest] at hr
    split at hr
    · exact h.chain hr fun _ ↦ ih _ _
    · split at hr
      · rename_i hn
        cases hr
        exact ⟨cursor, .refl _, hn⟩
      · split at hr
        · exact h.chain hr fun _ ↦ ih _ _
        · cases hr

theorem Advances.onward_some (h : Advances round) (hr : round cursor some = some cursor') :
    cursor.Onward cursor' := by
  obtain ⟨middle, ho, hm⟩ := h hr
  cases hm
  exact ho

theorem Advances.loopPossessive (h : Advances round)
    (hr : loopPossessive round least most fuel count last cursor = some cursor') :
    cursor.Onward cursor' := by
  induction fuel generalizing cursor count last with
  | zero =>
    cases hr
    exact .refl _
  | succ fuel ih =>
    rw [Regex.loopPossessive] at hr
    split at hr
    · obtain ⟨middle, hm, hr⟩ := Option.bind_eq_some_iff.1 hr
      exact (h.onward_some hm).trans (ih hr)
    · split at hr
      · split at hr
        · rename_i middle hm
          exact (h.onward_some hm).trans (ih hr)
        · cases hr
          exact .refl _
      · cases hr
        exact .refl _

def LoopsAgree (text : Text) (next next' : Cursor → Option Cursor) (least fuel fuel' count : Nat)
    (loop loop' : Option Nat → Cursor → Option Cursor) : Prop :=
  ∀ ⦃last cursor⦄, cursor.text = text → Enough least fuel count last cursor →
    Enough least fuel' count last cursor →
    (∀ cursor', cursor.Onward cursor' → next cursor' = next' cursor') →
    loop last cursor = loop' last cursor

section

variable {loop loop' : Option Nat → Cursor → Option Cursor} (h : AgreeIn text round round')
  (hl : LoopsAgree text next next' least fuel fuel' (count + 1) loop loop')
  (ht : cursor.text = text) (he : Enough least (fuel + 1) count last cursor)
  (he' : Enough least (fuel' + 1) count last cursor)
  (hn : ∀ cursor', cursor.Onward cursor' → next cursor' = next' cursor')

include h hl ht he he' hn

theorem LoopsAgree.round_least (hc : count < least) :
    round cursor (loop last) = round' cursor (loop' last) :=
  h ht fun _ ho ↦ hl (ho.text_eq.trans ht) (he.round_least hc ho) (he'.round_least hc ho)
    fun _ ho' ↦ hn _ (ho.trans ho')

theorem LoopsAgree.round_more (hc : ¬count < least)
    (hm : mayRepeat most count last cursor = true) :
    round cursor (loop (some cursor.position)) = round' cursor (loop' (some cursor.position)) := by
  have hc := Nat.not_lt.1 hc
  have hlast := ne_of_mayRepeat hm
  exact h ht fun _ ho ↦ hl (ho.text_eq.trans ht) (he.round_more hc hlast ho)
    (he'.round_more hc hlast ho) fun _ ho' ↦ hn _ (ho.trans ho')

end

theorem AgreeIn.loopMost (h : AgreeIn text round round') (fuel fuel' count : Nat) :
    LoopsAgree text next next' least fuel fuel' count
      (loopMost round least most next fuel count) (loopMost round' least most next' fuel' count) := by
  intro last cursor ht he he' hn
  induction fuel generalizing fuel' count last cursor with
  | zero => rw [loopMost_ended he.zero, loopMost_ended he.zero, hn _ (.refl _)]
  | succ fuel ih =>
    cases fuel' with
    | zero => rw [loopMost_ended he'.zero, loopMost_ended he'.zero, hn _ (.refl _)]
    | succ fuel' =>
      have hl : LoopsAgree text next next' least fuel fuel' (count + 1)
          (Regex.loopMost round least most next fuel (count + 1))
          (Regex.loopMost round' least most next' fuel' (count + 1)) := ih _ _
      simp only [Regex.loopMost]
      split
      · rename_i hc
        exact hl.round_least h ht he he' hn hc
      · rename_i hc
        rw [hn _ (.refl _)]
        cases hm : mayRepeat most count last cursor with
        | false => rfl
        | true => rw [if_pos rfl, if_pos rfl, hl.round_more h ht he he' hn hc hm]

theorem AgreeIn.loopFewest (h : AgreeIn text round round') (fuel fuel' count : Nat) :
    LoopsAgree text next next' least fuel fuel' count
      (loopFewest round least most next fuel count)
      (loopFewest round' least most next' fuel' count) := by
  intro last cursor ht he he' hn
  induction fuel generalizing fuel' count last cursor with
  | zero => rw [loopFewest_ended he.zero, loopFewest_ended he.zero, hn _ (.refl _)]
  | succ fuel ih =>
    cases fuel' with
    | zero => rw [loopFewest_ended he'.zero, loopFewest_ended he'.zero, hn _ (.refl _)]
    | succ fuel' =>
      have hl : LoopsAgree text next next' least fuel fuel' (count + 1)
          (Regex.loopFewest round least most next fuel (count + 1))
          (Regex.loopFewest round' least most next' fuel' (count + 1)) := ih _ _
      simp only [Regex.loopFewest]
      split
      · rename_i hc
        exact hl.round_least h ht he he' hn hc
      · rename_i hc
        rw [hn _ (.refl _)]
        cases hm : mayRepeat most count last cursor with
        | false => rfl
        | true => rw [if_pos rfl, if_pos rfl, hl.round_more h ht he he' hn hc hm]

theorem AgreeIn.loopPossessive (h : AgreeIn text round round') (ha : Advances round)
    (ht : cursor.text = text) (he : Enough least fuel count last cursor)
    (he' : Enough least fuel' count last cursor) :
    loopPossessive round least most fuel count last cursor =
      loopPossessive round' least most fuel' count last cursor := by
  induction fuel generalizing fuel' count last cursor with
  | zero => rw [loopPossessive_ended he.zero, loopPossessive_ended he.zero]
  | succ fuel ih =>
    cases fuel' with
    | zero => rw [loopPossessive_ended he'.zero, loopPossessive_ended he'.zero]
    | succ fuel' =>
      have hround : round cursor some = round' cursor some := h ht fun _ _ ↦ rfl
      simp only [Regex.loopPossessive, ← hround]
      cases hr : round cursor some with
      | none => rfl
      | some middle =>
        have ho := ha.onward_some hr
        have htext := ho.text_eq.trans ht
        split
        · rename_i hc
          exact ih htext (he.round_least hc ho) (he'.round_least hc ho)
        · rename_i hc
          have hc := Nat.not_lt.1 hc
          split
          · rename_i hm
            have hlast := ne_of_mayRepeat hm
            exact ih htext (he.round_more hc hlast ho) (he'.round_more hc hlast ho)
          · rfl

end

variable {size size' : Nat} {text : Text} {cursor cursor' : Cursor} {next : Cursor → Option Cursor}

theorem advances_run (size : Nat) (expr : Expr) : Advances (expr.run size) := by
  intro cursor next found h
  induction expr generalizing cursor next found with
  | empty => exact ⟨cursor, .refl _, h⟩
  | letter test =>
    rw [Expr.run] at h
    split at h
    · rename_i c rest ha
      split at h
      · exact ⟨_, Cursor.onward_step ha, h⟩
      · cases h
    · cases h
  | anchor condition =>
    rw [Expr.run] at h
    split at h
    · exact ⟨cursor, .refl _, h⟩
    · cases h
  | seq first second ih ih' => exact Advances.chain ih h fun _ ↦ ih'
  | either first second ih ih' =>
    rw [Expr.run] at h
    split at h
    · rename_i hf
      cases h
      exact ih hf
    · exact ih' h
  | loop greed least most body ih =>
    have hbody : Advances (body.run size) := ih
    cases greed with
    | most => exact hbody.loopMost _ _ _ h
    | fewest => exact hbody.loopFewest _ _ _ h
    | possessive =>
      obtain ⟨cursor', hl, h⟩ := Option.bind_eq_some_iff.1 h
      exact ⟨cursor', hbody.loopPossessive hl, h⟩
  | group index body ih =>
    obtain ⟨cursor', ho, h⟩ := ih h
    exact ⟨_, (cursor.onward_openGroup index).trans (ho.trans (cursor'.onward_closeGroup index)), h⟩
  | again index folding width =>
    obtain ⟨cursor', ht, h⟩ := Option.bind_eq_some_iff.1 h
    obtain ⟨expected, -, ht⟩ := Option.bind_eq_some_iff.1 ht
    exact ⟨cursor', Cursor.onward_of_takeText? ht, h⟩
  | ahead negated body ih =>
    rw [Expr.run] at h
    split at h <;> split at h
    · cases h
    · exact ⟨_, cursor.onward_borders _ _, h⟩
    · exact ⟨cursor, .refl _, h⟩
    · cases h
  | behind negated body ih =>
    rw [Expr.run] at h
    split at h <;> split at h
    · cases h
    · exact ⟨_, cursor.onward_borders _ _, h⟩
    · exact ⟨cursor, .refl _, h⟩
    · cases h
  | atomic body ih =>
    obtain ⟨cursor', hb, h⟩ := Option.bind_eq_some_iff.1 h
    exact ⟨cursor', Advances.onward_some ih hb, h⟩
  | ifGroup index present absent ih ih' =>
    rw [Expr.run] at h
    split at h
    · exact ih h
    · exact ih' h

/-- The bound on the rounds of a loop does not matter once it is the length of the text. -/
theorem agreeIn_run (h : text.length ≤ size) (h' : text.length ≤ size') (expr : Expr) :
    AgreeIn text (expr.run size) (expr.run size') := by
  intro cursor next next' ht hn
  induction expr generalizing cursor next next' with
  | empty => exact hn _ (.refl _)
  | letter test =>
    rw [Expr.run, Expr.run]
    split
    · rename_i c rest ha
      rw [hn _ (Cursor.onward_step ha)]
    · rfl
  | anchor condition => rw [Expr.run, Expr.run, hn _ (.refl _)]
  | seq first second ih ih' =>
    exact ih ht fun middle ho ↦ ih' (ho.text_eq.trans ht) fun cursor' ho' ↦ hn _ (ho.trans ho')
  | either first second ih ih' => rw [Expr.run, Expr.run, ih ht hn, ih' ht hn]
  | loop greed least most body ih =>
    have hbody : AgreeIn text (body.run size) (body.run size') := ih
    have hlength : cursor.after.length ≤ text.length := by
      rw [← ht, Cursor.text, List.length_append]
      omega
    have he : Enough least (least + size + 2) 0 none cursor := .inr (by omega)
    have he' : Enough least (least + size' + 2) 0 none cursor := .inr (by omega)
    cases greed with
    | most => exact hbody.loopMost _ _ _ ht he he' hn
    | fewest => exact hbody.loopFewest _ _ _ ht he he' hn
    | possessive =>
      rw [Expr.run, Expr.run, ← hbody.loopPossessive (advances_run size body) ht he he']
      refine Option.bind_congr fun cursor' hl ↦ ?_
      exact hn _ (Advances.loopPossessive (advances_run size body) hl)
  | group index body ih =>
    refine ih ht fun cursor' ho ↦ hn _ ?_
    exact (cursor.onward_openGroup index).trans (ho.trans (cursor'.onward_closeGroup index))
  | again index folding width =>
    rw [Expr.run, Expr.run]
    refine Option.bind_congr fun cursor' h ↦ ?_
    obtain ⟨expected, -, h⟩ := Option.bind_eq_some_iff.1 h
    exact hn _ (Cursor.onward_of_takeText? h)
  | ahead negated body ih =>
    rw [Expr.run, Expr.run, ih ht fun _ _ ↦ rfl, hn cursor (.refl _)]
    split
    · rw [hn _ (cursor.onward_borders _ _)]
    · rfl
  | behind negated body ih =>
    have hback : (cursor.back? body.width.1).bind (body.run size · some) =
        (cursor.back? body.width.1).bind (body.run size' · some) :=
      Option.bind_congr fun cursor' hb ↦
        ih ((Cursor.text_of_back? hb).trans ht) fun _ _ ↦ rfl
    rw [Expr.run, Expr.run, hback, hn cursor (.refl _)]
    split
    · rw [hn _ (cursor.onward_borders _ _)]
    · rfl
  | atomic body ih =>
    rw [Expr.run, Expr.run, ← ih ht fun _ _ ↦ rfl]
    refine Option.bind_congr fun cursor' hb ↦ ?_
    exact hn _ (Advances.onward_some (advances_run size body) hb)
  | ifGroup index present absent ih ih' => rw [Expr.run, Expr.run, ih ht hn, ih' ht hn]

end BuildTags.Regex
