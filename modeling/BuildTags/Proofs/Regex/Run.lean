import BuildTags.Proofs.Pattern.Choice
import BuildTags.Regex.Match

namespace BuildTags.Regex

open Pattern (Stretch stretches)

namespace Cursor

def skip (cursor : Cursor) (taken : Text) : Cursor :=
  { cursor with
    before := taken.reverse ++ cursor.before
    after := cursor.after.drop taken.length
    position := cursor.position + taken.length }

theorem skip_singleton {cursor : Cursor} {c : Char} {rest : Text} (h : cursor.after = c :: rest) :
    cursor.skip [c] = cursor.step c rest := by
  simp [skip, step, h]

theorem skip_skip (cursor : Cursor) (first second : Text) :
    (cursor.skip first).skip second = cursor.skip (first ++ second) := by
  simp [skip, Nat.add_assoc]

theorem after_skip {cursor : Cursor} {taken rest : Text} (h : cursor.after = taken ++ rest) :
    (cursor.skip taken).after = rest := by
  simp [skip, h]

end Cursor

def join (first second : Stretch) : Stretch := (first.1 ++ second.1, second.2)

def extend (more : Text → List Stretch) (found : List Stretch) : List Stretch :=
  found.flatMap fun stretch ↦ (more stretch.2).map (join stretch)

def Splits (found : Text → List Stretch) : Prop :=
  ∀ text, ∀ stretch ∈ found text, text = stretch.1 ++ stretch.2

theorem Splits.extend {found more : Text → List Stretch} (h : Splits found) (h' : Splits more) :
    Splits fun text ↦ extend more (found text) := by
  intro text stretch hm
  obtain ⟨first, hf, hm⟩ := List.mem_flatMap.1 hm
  obtain ⟨second, hs, rfl⟩ := List.mem_map.1 hm
  rw [h text first hf, h' first.2 second hs]
  simp [join]

theorem findSome?_congr {α β : Type} {f g : α → Option β} {l : List α} (h : ∀ a ∈ l, f a = g a) :
    l.findSome? f = l.findSome? g := by
  induction l with
  | nil => rfl
  | cons a l ih =>
    obtain ⟨ha, hl⟩ := List.forall_mem_cons.1 h
    rw [List.findSome?_cons, List.findSome?_cons, ha, ih hl]

section

variable {α : Type} {next : Cursor → Option α} {cursor : Cursor} {found : List Stretch}

def tryAll (next : Cursor → Option α) (cursor : Cursor) (found : List Stretch) : Option α :=
  found.findSome? fun stretch ↦ next (cursor.skip stretch.1)

theorem tryAll_here (rest : Text) : tryAll next cursor [([], rest)] = next cursor := by
  rw [tryAll, List.findSome?_singleton]
  rfl

theorem tryAll_append (found found' : List Stretch) : tryAll next cursor (found ++ found') =
    (tryAll next cursor found).or (tryAll next cursor found') :=
  List.findSome?_append

theorem tryAll_extend {more : Text → List Stretch} {next' : Cursor → Option α}
    (h : ∀ stretch ∈ found,
      next (cursor.skip stretch.1) = tryAll next' (cursor.skip stretch.1) (more stretch.2)) :
    tryAll next cursor found = tryAll next' cursor (extend more found) := by
  induction found with
  | nil => rfl
  | cons stretch found ih =>
    obtain ⟨hs, hf⟩ := List.forall_mem_cons.1 h
    have hjoin : tryAll next' cursor ((more stretch.2).map (join stretch)) =
        tryAll next' (cursor.skip stretch.1) (more stretch.2) := by
      rw [tryAll, List.findSome?_map]
      congr 1
      funext stretch'
      exact congrArg next' (Cursor.skip_skip _ _ _).symm
    rw [extend, List.flatMap_cons, tryAll_append, hjoin, ← extend, ← ih hf, ← hs, tryAll,
      List.findSome?_cons]
    cases next (cursor.skip stretch.1) <;> rfl

end

/-- Whether an expression takes stretches in order, in texts that are not too long. -/
def Takes (size : Nat) (expr : Expr) (found : Text → List Stretch) : Prop :=
  ∀ (cursor : Cursor) (next : Cursor → Option Cursor), cursor.after.length ≤ size →
    expr.run size cursor next = tryAll next cursor (found cursor.after)

theorem mayRepeat_of_ne {count : Nat} {last : Option Nat} {cursor : Cursor}
    (h : last ≠ some cursor.position) : mayRepeat none count last cursor = true := by
  simp [mayRepeat, h]

section

variable {size least fuel count : Nat} {last : Option Nat} {expr expr' : Expr}
  {found found' all : Text → List Stretch} {cursor : Cursor} {next : Cursor → Option Cursor}

theorem length_after_skip (hs : Splits found) {stretch : Stretch} (hm : stretch ∈ found cursor.after) :
    (cursor.skip stretch.1).after = stretch.2 ∧
      cursor.after.length = stretch.1.length + stretch.2.length := by
  have he := hs _ _ hm
  exact ⟨Cursor.after_skip he, by rw [he, List.length_append]⟩

theorem Takes.seq (h : Takes size expr found) (h' : Takes size expr' found') (hs : Splits found) :
    Takes size (.seq expr expr') fun text ↦ extend found' (found text) := by
  intro cursor next hsize
  rw [Expr.run, h cursor _ hsize]
  refine tryAll_extend fun stretch hm ↦ ?_
  obtain ⟨he, hl⟩ := length_after_skip hs hm
  rw [h' _ next (by rw [he]; omega), he]

theorem Takes.run_group (h : Takes size expr found) (index : Nat)
    (hsize : cursor.after.length ≤ size) : (Expr.group index expr).run size cursor next =
      (found cursor.after).findSome? fun stretch ↦
        next (((cursor.openGroup index).skip stretch.1).closeGroup index) :=
  h (cursor.openGroup index) (fun after ↦ next (after.closeGroup index)) hsize

structure Consumes (found : Text → List Stretch) : Prop where
  splits : Splits found
  ne_nil : ∀ text, ∀ stretch ∈ found text, stretch.1 ≠ []

theorem Consumes.nil (h : Consumes found) : found [] = [] := by
  refine List.eq_nil_iff_forall_not_mem.2 fun stretch hm ↦ h.ne_nil _ _ hm ?_
  exact (List.append_eq_nil_iff.1 (h.splits _ _ hm).symm).1

theorem Consumes.round (hc : Consumes found) (h : Takes size expr found)
    (hsize : cursor.after.length ≤ size) {loop : Cursor → Option Cursor}
    (hloop : ∀ cursor' : Cursor, cursor'.after.length < cursor.after.length →
      cursor.position ≠ cursor'.position → loop cursor' = tryAll next cursor' (all cursor'.after)) :
    expr.run size cursor loop = tryAll next cursor (extend all (found cursor.after)) := by
  rw [h cursor _ hsize]
  refine tryAll_extend fun stretch hm ↦ ?_
  obtain ⟨he, hl⟩ := length_after_skip hc.splits hm
  have hpos := List.length_pos_iff.2 (hc.ne_nil _ _ hm)
  rw [hloop (cursor.skip stretch.1) (by rw [he]; omega) (by simp only [Cursor.skip]; omega), he]

/-- A loop that would rather go on tries the ways to begin another round before it ends. -/
theorem loopMost_eq (h : Takes size expr found) (hc : Consumes found)
    (hall : ∀ text, all text = extend all (found text) ++ [([], text)]) (hcount : least ≤ count)
    (hsize : cursor.after.length ≤ size) (hfuel : cursor.after.length ≤ fuel)
    (hlast : last ≠ some cursor.position) :
    loopMost (expr.run size) least none next fuel count last cursor =
      tryAll next cursor (all cursor.after) := by
  induction fuel generalizing cursor count last with
  | zero =>
    rw [List.eq_nil_of_length_eq_zero (Nat.le_zero.1 hfuel), hall, hc.nil]
    exact (tryAll_here []).symm
  | succ fuel ih =>
    have hround := hc.round h hsize fun cursor' hl hp ↦ ih (Nat.le_succ_of_le hcount)
      (by omega) (by omega) fun he ↦ hp (Option.some.inj he)
    rw [loopMost, if_neg (Nat.not_lt.2 hcount), mayRepeat_of_ne hlast, if_pos rfl, hround, hall,
      tryAll_append, tryAll_here]
    cases tryAll next cursor (extend all (found cursor.after)) <;> rfl

/-- A loop that would rather end tries that before the ways to begin another round. -/
theorem loopFewest_eq (h : Takes size expr found) (hc : Consumes found)
    (hall : ∀ text, all text = ([], text) :: extend all (found text)) (hcount : least ≤ count)
    (hsize : cursor.after.length ≤ size) (hfuel : cursor.after.length ≤ fuel)
    (hlast : last ≠ some cursor.position) :
    loopFewest (expr.run size) least none next fuel count last cursor =
      tryAll next cursor (all cursor.after) := by
  induction fuel generalizing cursor count last with
  | zero =>
    rw [List.eq_nil_of_length_eq_zero (Nat.le_zero.1 hfuel), hall, hc.nil]
    exact (tryAll_here []).symm
  | succ fuel ih =>
    have hround := hc.round h hsize fun cursor' hl hp ↦ ih (Nat.le_succ_of_le hcount)
      (by omega) (by omega) fun he ↦ hp (Option.some.inj he)
    rw [loopFewest, if_neg (Nat.not_lt.2 hcount), mayRepeat_of_ne hlast, if_pos rfl, hround, hall,
      ← List.singleton_append, tryAll_append, tryAll_here]
    cases next cursor <;> rfl

theorem takes_any_most (h : Takes size expr found) (hc : Consumes found)
    (hall : ∀ text, all text = extend all (found text) ++ [([], text)]) :
    Takes size (.loop .most 0 none expr) all := fun _ _ hs ↦
  loopMost_eq h hc hall (Nat.le_refl _) hs (by omega) nofun

theorem takes_any_fewest (h : Takes size expr found) (hc : Consumes found)
    (hall : ∀ text, all text = ([], text) :: extend all (found text)) :
    Takes size (.loop .fewest 0 none expr) all := fun _ _ hs ↦
  loopFewest_eq h hc hall (Nat.le_refl _) hs (by omega) nofun

theorem takes_some_most (h : Takes size expr found) (hc : Consumes found)
    (hall : ∀ text, all text = extend all (found text) ++ [([], text)]) :
    Takes size (.loop .most 1 none expr) fun text ↦ extend all (found text) := by
  intro cursor next hs
  rw [Expr.run, loopMost.eq_2, if_pos Nat.zero_lt_one]
  exact hc.round h hs fun cursor' hl _ ↦ loopMost_eq h hc hall (Nat.le_refl _) (by omega) (by omega)
    nofun

theorem run_optional (expr : Expr) (cursor : Cursor) (next : Cursor → Option Cursor) :
    (Expr.loop .most 0 (some 1) expr).run size cursor next =
      (expr.run size cursor next).or (next cursor) := by
  have hnext (last : Option Nat) (cursor' : Cursor) :
      loopMost (expr.run size) 0 (some 1) next (0 + size + 1) 1 last cursor' = next cursor' := by
    rw [loopMost, if_neg (Nat.not_lt_zero _)]
    rfl
  have hmay : mayRepeat (some 1) 0 none cursor = true := rfl
  rw [Expr.run, loopMost, if_neg (Nat.not_lt_zero _), hmay, if_pos rfl, funext (hnext _)]
  cases expr.run size cursor next <;> rfl

theorem Consumes.extend (h : Consumes found) (h' : Splits found') :
    Consumes fun text ↦ extend found' (found text) := by
  refine ⟨h.splits.extend h', fun text stretch hm he ↦ ?_⟩
  obtain ⟨first, hf, hm⟩ := List.mem_flatMap.1 hm
  obtain ⟨second, -, rfl⟩ := List.mem_map.1 hm
  exact h.ne_nil text first hf (List.append_eq_nil_iff.1 he).1

theorem extend_map_push (more : Text → List Stretch) (c : Char) (found : List Stretch) :
    Regex.extend more (found.map (Stretch.push c)) =
      (Regex.extend more found).map (Stretch.push c) := by
  simp only [Regex.extend, List.flatMap_map, List.map_flatMap, List.map_map]
  rfl

def oneOf (inClass : Char → Bool) : Text → List Stretch
  | [] => []
  | c :: text => if inClass c then [([c], text)] else []

theorem consumes_oneOf (inClass : Char → Bool) : Consumes (oneOf inClass) := by
  have h : ∀ text, ∀ stretch ∈ oneOf inClass text,
      text = stretch.1 ++ stretch.2 ∧ stretch.1 ≠ [] := by
    intro text stretch hm
    cases text with
    | nil => cases hm
    | cons c text =>
      rw [oneOf] at hm
      split at hm
      · obtain rfl := List.mem_singleton.1 hm
        exact ⟨rfl, List.cons_ne_nil _ _⟩
      · cases hm
  exact ⟨fun text stretch hm ↦ (h text stretch hm).1, fun text stretch hm ↦ (h text stretch hm).2⟩

theorem takes_letter (test : Letter) : Takes size (.letter test) (oneOf test.accepts) := by
  intro cursor next _
  rw [Expr.run]
  cases ht : cursor.after with
  | nil => rfl
  | cons c rest =>
    rw [oneOf]
    by_cases hc : test.accepts c = true
    · simp only [hc, if_true, tryAll, List.findSome?_singleton, Cursor.skip_singleton ht]
    · simp only [hc, if_false, Bool.false_eq_true, tryAll, List.findSome?_nil]

theorem extend_oneOf (inClass : Char → Bool) (more : Text → List Stretch) (c : Char) (text : Text) :
    extend more (oneOf inClass (c :: text)) =
      if inClass c then (more text).map (Stretch.push c) else [] := by
  rw [oneOf]
  split
  · exact List.flatMap_singleton _ _
  · rfl

theorem stretches_eq (inClass : Char → Bool) (text : Text) : stretches inClass text =
    ([], text) :: extend (stretches inClass) (oneOf inClass text) := by
  cases text with
  | nil => rfl
  | cons c text => rw [extend_oneOf, stretches]

theorem reverse_stretches_eq (inClass : Char → Bool) (text : Text) :
    (stretches inClass text).reverse =
      extend (fun text ↦ (stretches inClass text).reverse) (oneOf inClass text) ++ [([], text)] := by
  cases text with
  | nil => rfl
  | cons c text =>
    rw [extend_oneOf, stretches, List.reverse_cons]
    split <;> simp

end

end BuildTags.Regex
