namespace BuildTags

/-- Text is a list of characters, so that positions count characters. -/
abbrev Text := List Char

instance : Coe String Text := ⟨String.toList⟩

namespace Text

def join (separator : Text) : List Text → Text
  | [] => []
  | [piece] => piece
  | piece :: pieces => piece ++ separator ++ join separator pieces

def after? : (start text : Text) → Option Text
  | [], text => some text
  | _ :: _, [] => none
  | a :: start, b :: text => if a = b then after? start text else none

def startsWith (start text : Text) : Bool := (after? start text).isSome

def endsWith (tail text : Text) : Bool := startsWith tail.reverse text.reverse

def cutFirst? (mark : Text) : Text → Option (Text × Text)
  | [] => if mark = [] then some ([], []) else none
  | c :: text =>
    match after? mark (c :: text) with
    | some rest => some ([], rest)
    | none => (cutFirst? mark text).map fun (before, rest) => (c :: before, rest)

def cutLast? (mark text : Text) : Option (Text × Text) :=
  (cutFirst? mark.reverse text.reverse).map fun (rest, before) => (before.reverse, rest.reverse)

/-- The last position from `start` on and before `stop` where a character stands. -/
def lastIndex? (c : Char) (text : Text) (start : Nat) : (stop : Nat) → Option Nat
  | 0 => none
  | stop + 1 =>
    if stop < start then none
    else if text[stop]? = some c then some stop
    else lastIndex? c text start stop

def without (start text : Text) : Text := (after? start text).getD text

theorem after?_append (start text : Text) : after? start (start ++ text) = some text := by
  induction start with
  | nil => rfl
  | cons c start ih => simp [after?, ih]

theorem eq_append_of_after? {start text rest : Text} (h : after? start text = some rest) :
    text = start ++ rest := by
  fun_induction after? start text with
  | case1 => simp_all
  | case2 => simp at h
  | case3 a start text ih => simp [ih h]
  | case4 => simp at h

theorem after?_eq_some_iff {start text rest : Text} :
    after? start text = some rest ↔ text = start ++ rest :=
  ⟨eq_append_of_after?, fun h => h ▸ after?_append start rest⟩

end Text

end BuildTags
