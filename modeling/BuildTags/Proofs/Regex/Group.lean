import BuildTags.Proofs.Regex.Sequence

namespace BuildTags.Regex

open Reading

def Progress.opened (s : Progress) (name : Text) : Progress :=
  { s with widths := none :: s.widths, names := (name, s.widths.length + 1) :: s.names }

def Progress.captured (s : Progress) (name : Text) (width : Width) : Progress :=
  { s with widths := some width :: s.widths, names := (name, s.widths.length + 1) :: s.names }

variable {s s' : Progress} {parts inner : List Part} {name body rest : Text}

theorem close_apply (hr : rest ≠ ['\\']) (source : Source) (spot : Nat) :
    close spot source (s.at (')' :: rest)) = .ok ((), s.at rest) := by
  rw [close, bind_eq (accept_cons (by decide) hr)]
  rfl

theorem openGroup_apply (hn : ∀ entry ∈ s.names, entry.1 ≠ name) (source : Source) :
    openGroup (some name) source (s.at rest) =
      .ok (s.widths.length + 1, (s.opened name).at rest) := by
  have hfind : s.names.find? (·.1 = name) = none :=
    List.find?_eq_none.2 fun entry he ↦ by simpa using hn entry he
  have hg : groupCount source (s.at rest) = .ok (s.widths.length + 1, s.at rest) := rfl
  rw [openGroup, bind_eq hg, bind_eq (modify_apply _)]
  dsimp only
  rw [bind_eq get_apply]
  simp only [Progress.at, hfind]
  rfl

def ReadsBody (s : Progress) (body : Text) (inner : List Part) (rest : Text) : Prop :=
  ReadsOn s [] (body ++ ')' :: rest) s inner (')' :: rest)

section

variable {source : Source} {spot fuel : Nat}

theorem group_plain (h : ReadsBody s body inner rest) (hg : s.globals = []) (hr : rest ≠ ['\\'])
    (hf : (body ++ ')' :: rest).length < fuel) :
    group {} spot (.plain [] []) (fuel + 2) source (s.at (body ++ ')' :: rest)) =
      .ok (joinParts inner, s.at rest) := by
  have hm : Modes.change {} [] [] = {} := rfl
  rw [group, hm, bind_eq (alternatives_apply h (.inr ⟨_, rfl⟩) hg source false hf),
    bind_eq (close_apply hr source spot)]
  rfl

theorem group_capture (h : ReadsBody (s.opened name) body inner rest) (hg : s.globals = [])
    (hn : ∀ entry ∈ s.names, entry.1 ≠ name) (hr : rest ≠ ['\\'])
    (hf : (body ++ ')' :: rest).length < fuel) :
    group {} spot (.capture (some name)) (fuel + 2) source (s.at (body ++ ')' :: rest)) =
      .ok (.group (s.widths.length + 1) (joinParts inner),
        (s.captured name (joinParts inner).width).at rest) := by
  have hclose : closeGroup (s.widths.length + 1) (joinParts inner).width source
      ((s.opened name).at rest) = .ok ((), (s.captured name (joinParts inner).width).at rest) := by
    rw [closeGroup, modify_apply]
    simp [Progress.opened, Progress.at, Progress.captured]
  rw [group, bind_eq (openGroup_apply hn source),
    bind_eq (alternatives_apply h (.inr ⟨_, rfl⟩) hg source false hf), bind_eq (close_apply hr source spot),
    bind_eq hclose]
  rfl

end

theorem readsOn_group (head content : Text) {kind : Opening} {expr : Expr}
    (hk : (∃ name, kind = .capture name) ∨ kind = .plain [] []) (hh : 2 ≤ head.length)
    (hne : head ++ content ≠ ['\\']) (hlen : rest.length ≤ content.length)
    (ho : ∀ source spot, opening {} spot source (s.at (head ++ content)) = .ok (kind, s.at content))
    (hgroup : ∀ source spot fuel, content.length < fuel →
      group {} spot kind (fuel + 2) source (s.at content) = .ok (expr, s'.at rest)) :
    ReadsOn s parts ('(' :: (head ++ content)) s' (.other expr :: parts) rest := by
  intro source start fuel hf
  simp only [List.length_cons, List.length_append] at hf
  obtain ⟨fuel, rfl⟩ : ∃ n, fuel = n + 1 := ⟨fuel - 1, by omega⟩
  refine ⟨fuel, by omega, ?_⟩
  have hg : ∀ spot, group {} spot kind fuel source (s.at content) = .ok (expr, s'.at rest) := by
    obtain ⟨fuel, rfl⟩ : ∃ n, fuel = n + 2 := ⟨fuel - 2, by omega⟩
    exact fun spot ↦ hgroup source spot fuel (by omega)
  obtain ⟨name, rfl⟩ | rfl := hk
  · simp [sequence, bind_apply, next_apply, tokenOf_cons, position_apply, advance_cons, hne, ho, hg]
  · simp [sequence, bind_apply, next_apply, tokenOf_cons, position_apply, advance_cons, hne, ho, hg]

theorem append_close_ne (body rest : Text) : body ++ ')' :: rest ≠ ['\\'] := by
  intro he
  obtain he' | he' := List.append_eq_singleton_iff.1 he
  · exact absurd (List.cons.inj he'.2).1 (by decide)
  · exact List.cons_ne_nil _ _ he'.2

theorem readsOn_plain (h : ReadsBody s body inner rest) (hg : s.globals = []) (hr : rest ≠ ['\\']) :
    ReadsOn s parts ("(?:" ++ (body ++ ')' :: rest)) s (.other (joinParts inner) :: parts) rest := by
  refine readsOn_group ['?', ':'] (body ++ ')' :: rest) (.inr rfl) (Nat.le_refl _) (by simp) (by simp; omega)
    (fun source spot ↦ ?_) fun source spot fuel hf ↦ group_plain h hg hr hf
  rw [opening, List.cons_append, bind_eq (accept_cons (by decide) (by simp))]
  exact (bind_eq (take_cons (by decide) (append_close_ne body rest))).trans rfl

theorem readsOn_capture (h : ReadsBody (s.opened name) body inner rest) (hg : s.globals = [])
    (hn : ∀ entry ∈ s.names, entry.1 ≠ name) (hid : Text.isIdentifier name = true)
    (hname : name ≠ [] ∧ '\\' ∉ name ∧ '>' ∉ name) (hr : rest ≠ ['\\']) :
    ReadsOn s parts ("(?P<" ++ (name ++ '>' :: (body ++ ')' :: rest)))
      (s.captured name (joinParts inner).width)
      (.other (.group (s.widths.length + 1) (joinParts inner)) :: parts) rest := by
  obtain ⟨hne, hb, hclosing⟩ := hname
  have hc := append_close_ne body rest
  have hstart : name ++ '>' :: (body ++ ')' :: rest) ≠ ['\\'] := by
    cases name with
    | nil => exact absurd rfl hne
    | cons c name => simp
  have ho (source : Source) (spot : Nat) :
      opening {} spot source (s.at ('?' :: 'P' :: '<' :: (name ++ '>' :: (body ++ ')' :: rest)))) =
        .ok (.capture (some name), s.at (body ++ ')' :: rest)) := by
    have htake : takeName '>' "group name" source (s.at (name ++ '>' :: (body ++ ')' :: rest))) =
        .ok (name, s.at (body ++ ')' :: rest)) := by
      rw [takeName, bind_eq get_apply]
      exact takeUntil_apply (by decide) (fun c hm he ↦ hb (he ▸ hm)) hclosing (by simpa using hne) hc
        (by simp only [Progress.rest_at, List.length_append, List.length_cons]; omega)
    rw [opening, bind_eq (accept_cons (by decide) (by simp))]
    refine (bind_eq (take_cons (by decide) (by simp))).trans ?_
    refine (bind_eq (accept_cons (by decide) hstart)).trans ?_
    refine (bind_eq htake).trans ?_
    rw [checkName, hid]
    rfl
  have hgroup : ReadsOn s parts ('(' :: ('?' :: 'P' :: '<' :: (name ++ ['>']) ++ (body ++ ')' :: rest)))
      (s.captured name (joinParts inner).width)
      (.other (.group (s.widths.length + 1) (joinParts inner)) :: parts) rest :=
    readsOn_group _ _ (.inl ⟨some name, rfl⟩) (by simp) (by simp) (by simp; omega)
      (fun source spot ↦ by simpa using ho source spot)
      fun source spot fuel hf ↦ group_capture h hg hn hr hf
  simpa using hgroup

theorem whole_of_readsOn {source : Source}
    (h : ReadsOn { rest := source.text } [] source.text s inner []) (ht : source.text ≠ ['\\'])
    (hg : s.globals = []) (href : s.references = [])
    (hp : (joinParts inner).problem? false = none) :
    whole source { rest := source.text } = .ok (joinParts inner, s.at []) := by
  have ha : alternatives true true {} (3 * source.text.length + 3) source { rest := source.text } =
      .ok (joinParts inner, s.at []) :=
    alternatives_apply h (.inl rfl) rfl source true (by omega)
  rw [whole]
  refine (bind_eq (x := MonadReaderOf.read) (a := source) rfl).trans ?_
  rw [bind_eq (goTo_apply ht)]
  refine (bind_eq ha).trans ?_
  refine (bind_eq get_apply).trans ?_
  simp [bind_apply, next_apply, tokenOf, get_apply, pure_apply, groupCount, Progress.at, hg, href, hp]

def groupIndex? (text name : Text) : Option Nat :=
  match whole ⟨text, fun _ ↦ none⟩ { rest := text } with
  | .ok (_, progress) => (progress.names.find? (·.1 = name)).map (·.2)
  | .error _ => none

theorem read_of_whole {text : Text} {named : Text → Option Char} {expr : Expr}
    (h : whole ⟨text, named⟩ { rest := text } = .ok (expr, s)) : read text named = .ok ⟨expr⟩ := by
  rw [read]
  change (whole ⟨text, named⟩ { rest := text } >>= _) = _
  rw [h]
  rfl

theorem groupIndex?_of_whole {text : Text} {expr : Expr}
    (h : whole ⟨text, fun _ ↦ none⟩ { rest := text } = .ok (expr, s)) (name : Text) :
    groupIndex? text name = (s.names.find? (·.1 = name)).map (·.2) := by
  rw [groupIndex?, h]

end BuildTags.Regex
