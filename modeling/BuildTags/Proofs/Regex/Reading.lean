import BuildTags.Proofs.Outcome
import BuildTags.Regex.Reader
import Mathlib.Data.List.Basic

namespace BuildTags.Regex

def Progress.at (progress : Progress) (rest : Text) : Progress := { progress with rest }

@[simp] theorem Progress.rest_at (s : Progress) (rest : Text) : (s.at rest).rest = rest := rfl

namespace Reading

variable {α β : Type} {source : Source} {rest : Text} {s t : Progress} {x : Reading α}
  {f : α → Reading β} {a : α} {c : Char}

theorem bind_eq (h : x source s = .ok (a, t)) : (x >>= f) source s = f a source t := by
  change (x source s >>= fun p ↦ f p.1 source p.2) = _
  rw [h]
  rfl

theorem bind_apply : (x >>= f) source s = (x source s >>= fun p ↦ f p.1 source p.2) := rfl

theorem pure_apply (a : α) : (pure a : Reading α) source s = .ok (a, s) := rfl

theorem get_apply : (get : Reading Progress) source s = .ok (s, s) := rfl

theorem modify_apply (g : Progress → Progress) :
    (modify g : Reading Unit) source s = .ok ((), g s) := rfl

theorem next_apply : next source s = .ok (tokenOf s.rest, s) := rfl

theorem position_apply : position source s = .ok (source.text.length - s.rest.length, s) := rfl

theorem goTo_apply (h : rest ≠ ['\\']) : goTo rest source s = .ok ((), s.at rest) := by
  rw [goTo, if_neg h]
  rfl

theorem tokenOf_cons (hc : c ≠ '\\') : tokenOf (c :: rest) = some [c] := by
  unfold tokenOf
  split <;> simp_all

theorem tokenOf_escaped : tokenOf ('\\' :: c :: rest) = some ['\\', c] := rfl

theorem advance_of_tokenOf (token : Text) (h : tokenOf (token ++ rest) = some token)
    (hr : rest ≠ ['\\']) : advance source (s.at (token ++ rest)) = .ok ((), s.at rest) := by
  unfold advance
  rw [bind_eq get_apply]
  simp only [Progress.rest_at, h, List.drop_left]
  exact goTo_apply hr

theorem advance_cons (hc : c ≠ '\\') (hr : rest ≠ ['\\']) :
    advance source (s.at (c :: rest)) = .ok ((), s.at rest) :=
  advance_of_tokenOf [c] (tokenOf_cons hc) hr

theorem advance_escaped (hr : rest ≠ ['\\']) :
    advance source (s.at ('\\' :: c :: rest)) = .ok ((), s.at rest) :=
  advance_of_tokenOf ['\\', c] tokenOf_escaped hr

theorem take_cons (hc : c ≠ '\\') (hr : rest ≠ ['\\']) :
    take source (s.at (c :: rest)) = .ok (some [c], s.at rest) := by
  rw [take, bind_eq next_apply, bind_eq (advance_cons hc hr)]
  exact congrArg (fun token ↦ Except.ok (token, s.at rest)) (tokenOf_cons hc)

theorem accept_cons (hc : c ≠ '\\') (hr : rest ≠ ['\\']) :
    accept c source (s.at (c :: rest)) = .ok (true, s.at rest) := by
  rw [accept, bind_eq next_apply, Progress.rest_at, if_pos (tokenOf_cons hc),
    bind_eq (advance_cons hc hr)]
  rfl

theorem accept_of_ne (h : tokenOf s.rest ≠ some [c]) : accept c source s = .ok (false, s) := by
  rw [accept, bind_eq next_apply, if_neg h]
  rfl

theorem takeUntil_apply {closing : Char} {what name taken : Text} {fuel : Nat}
    (hc : closing ≠ '\\') (hn : ∀ c ∈ name, c ≠ '\\') (hclosing : closing ∉ name)
    (hne : taken ++ name ≠ []) (hr : rest ≠ ['\\']) (hf : name.length < fuel) :
    takeUntil closing what fuel taken source (s.at (name ++ closing :: rest)) =
      .ok (taken ++ name, s.at rest) := by
  induction name generalizing taken fuel with
  | nil =>
    obtain _ | fuel := fuel
    · cases hf
    rw [List.append_nil] at hne ⊢
    simp only [takeUntil, bind_apply, List.nil_append, take_cons hc hr]
    change (if [closing] = [closing] then _ else _ : Reading Text) source (s.at rest) = _
    rw [if_pos rfl, if_neg hne]
    rfl
  | cons c name ih =>
    obtain _ | fuel := fuel
    · cases hf
    obtain ⟨hcn, hn⟩ := List.forall_mem_cons.1 hn
    have hne' : name ++ closing :: rest ≠ ['\\'] := by
      intro he
      obtain he' | he' := List.append_eq_singleton_iff.1 he
      · exact hc (List.cons.inj he'.2).1
      · exact List.cons_ne_nil _ _ he'.2
    have hcc : ¬[c] = [closing] := fun he ↦ hclosing (by simp [(List.cons.inj he).1])
    rw [takeUntil, List.cons_append, bind_eq (take_cons hcn hne')]
    change (if [c] = [closing] then _ else _ : Reading Text) source _ = _
    have hnot : closing ∉ name := fun hm ↦ hclosing (List.mem_cons_of_mem _ hm)
    rw [if_neg hcc, ih hn hnot (by simp) (Nat.lt_of_succ_lt_succ hf)]
    simp

end Reading

end BuildTags.Regex
