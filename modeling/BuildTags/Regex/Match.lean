import BuildTags.Regex.Reader

namespace BuildTags.Regex

/-- A place in a text: the characters before it, the nearest first, and those after it, with the
borders of groups that were passed on the way. -/
structure Cursor where
  before : Text
  after : Text
  position : Nat
  starts : List (Nat × Nat) := []
  stops : List (Nat × Nat) := []
  deriving DecidableEq, Repr

namespace Cursor

def start (text : Text) : Cursor := { before := [], after := text, position := 0 }

def step (cursor : Cursor) (c : Char) (rest : Text) : Cursor :=
  { cursor with before := c :: cursor.before, after := rest, position := cursor.position + 1 }

def back? (cursor : Cursor) : Nat → Option Cursor
  | 0 => some cursor
  | n + 1 =>
    match cursor.before with
    | [] => none
    | c :: before =>
      back? { cursor with before, after := c :: cursor.after, position := cursor.position - 1 } n

def border? (borders : List (Nat × Nat)) (index : Nat) : Option Nat :=
  (borders.find? (·.1 = index)).map (·.2)

def group? (cursor : Cursor) (index : Nat) : Option (Nat × Nat) := do
  let start ← border? cursor.starts index
  let stop ← border? cursor.stops index
  if start ≤ stop then some (start, stop) else none

def openGroup (cursor : Cursor) (index : Nat) : Cursor :=
  { cursor with starts := (index, cursor.position) :: cursor.starts }

def closeGroup (cursor : Cursor) (index : Nat) : Cursor :=
  { cursor with stops := (index, cursor.position) :: cursor.stops }

def text (cursor : Cursor) : Text := cursor.before.reverse ++ cursor.after

def groupText? (cursor : Cursor) (index : Nat) : Option Text :=
  (cursor.group? index).map fun (start, stop) => (cursor.text.drop start).take (stop - start)

def takeText? (folding : Folding) : Text → Cursor → Option Cursor
  | [], cursor => some cursor
  | expected :: text, cursor =>
    match cursor.after with
    | c :: rest =>
      if folding.lower c.toNat = folding.lower expected.toNat then
        takeText? folding text (cursor.step c rest)
      else none
    | [] => none

end Cursor

/-- Whether a condition holds at a place. There are no word borders, and no places without one, in
the empty text. -/
def Anchor.holds (cursor : Cursor) : Anchor → Bool
  | .textStart => cursor.before = []
  | .textEnd => cursor.after = []
  | .lineStart => cursor.before = [] || cursor.before.head? = some '\n'
  | .lineEnd => cursor.after = [] || cursor.after.head? = some '\n'
  | .lastLineEnd => cursor.after = [] || cursor.after = ['\n']
  | .wordBorder ascii => border ascii && nonempty
  | .noWordBorder ascii => !border ascii && nonempty
where
  nonempty : Bool := !(cursor.before.isEmpty && cursor.after.isEmpty)
  border (ascii : Bool) : Bool :=
    cursor.before.head?.any (Category.word.contains ascii) !=
      cursor.after.head?.any (Category.word.contains ascii)

section

variable {α : Type} (round : Cursor → (Cursor → Option α) → Option α)
  (least : Nat) (most : Option Nat) (next : Cursor → Option α)

/-- Whether another round may begin after `count` rounds. Once there are enough, a round must not
begin where the last one began. -/
def mayRepeat (count : Nat) (last : Option Nat) (cursor : Cursor) : Bool :=
  most.all (count < ·) && last ≠ some cursor.position

def loopMost : (fuel count : Nat) → (last : Option Nat) → Cursor → Option α
  | 0, _, _, cursor => next cursor
  | fuel + 1, count, last, cursor =>
    if count < least then round cursor (loopMost fuel (count + 1) last)
    else
      let more := if mayRepeat most count last cursor then
          round cursor (loopMost fuel (count + 1) (some cursor.position))
        else none
      match more with
      | some found => some found
      | none => next cursor

def loopFewest : (fuel count : Nat) → (last : Option Nat) → Cursor → Option α
  | 0, _, _, cursor => next cursor
  | fuel + 1, count, last, cursor =>
    if count < least then round cursor (loopFewest fuel (count + 1) last)
    else
      match next cursor with
      | some found => some found
      | none =>
        if mayRepeat most count last cursor then
          round cursor (loopFewest fuel (count + 1) (some cursor.position))
        else none

end

def loopPossessive (round : Cursor → (Cursor → Option Cursor) → Option Cursor)
    (least : Nat) (most : Option Nat) :
    (fuel count : Nat) → (last : Option Nat) → Cursor → Option Cursor
  | 0, _, _, cursor => some cursor
  | fuel + 1, count, last, cursor =>
    if count < least then
      (round cursor some).bind (loopPossessive round least most fuel (count + 1) last)
    else if mayRepeat most count last cursor then
      match round cursor some with
      | some after =>
        loopPossessive round least most fuel (count + 1) (some cursor.position) after
      | none => some cursor
    else some cursor

/-- The first way, in the order of preference, to take an expression at a place so that `next`
succeeds after it. The length of the whole text, `size`, bounds the rounds of a loop beyond the
least ones, since each of them takes a character. -/
def Expr.run (size : Nat) : Expr → Cursor → (next : Cursor → Option Cursor) → Option Cursor
  | .empty, cursor, next => next cursor
  | .letter test, cursor, next =>
    match cursor.after with
    | c :: rest => if test.accepts c then next (cursor.step c rest) else none
    | [] => none
  | .anchor condition, cursor, next => if condition.holds cursor then next cursor else none
  | .seq first second, cursor, next =>
    first.run size cursor fun middle => second.run size middle next
  | .either first second, cursor, next =>
    match first.run size cursor next with
    | some found => some found
    | none => second.run size cursor next
  | .loop greed least most body, cursor, next =>
    let fuel := least + size + 2
    match greed with
    | .most => loopMost (body.run size) least most next fuel 0 none cursor
    | .fewest => loopFewest (body.run size) least most next fuel 0 none cursor
    | .possessive => (loopPossessive (body.run size) least most fuel 0 none cursor).bind next
  | .group index body, cursor, next =>
    body.run size (cursor.openGroup index) fun after => next (after.closeGroup index)
  | .again index folding _, cursor, next =>
    ((cursor.groupText? index).bind (Cursor.takeText? folding · cursor)).bind next
  | .ahead negated body, cursor, next =>
    match body.run size cursor some with
    | some found =>
      if negated then none
      else next { cursor with starts := found.starts, stops := found.stops }
    | none => if negated then next cursor else none
  | .behind negated body, cursor, next =>
    match (cursor.back? body.width.1).bind (body.run size · some) with
    | some found =>
      if negated then none
      else next { cursor with starts := found.starts, stops := found.stops }
    | none => if negated then next cursor else none
  | .atomic body, cursor, next => (body.run size cursor some).bind next
  | .ifGroup index present absent, cursor, next =>
    if (cursor.group? index).isSome then present.run size cursor next
    else absent.run size cursor next

end BuildTags.Regex
