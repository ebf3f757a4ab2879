import BuildTags.Regex.Match

namespace BuildTags

inductive Regex.Segment
  | between (text : Text)
  | found (text : Text)
  deriving DecidableEq, Repr

def Regex.Segment.text : Regex.Segment → Text
  | .between text => text
  | .found text => text

namespace Regex

def lengthAt? (regex : Regex) (size : Nat) (noEmpty : Bool) (start : Cursor) : Option Nat :=
  (regex.expr.run size start fun cursor =>
    if noEmpty && cursor.position = start.position then none else some cursor).map
      (·.position - start.position)

/-- The leftmost match from a place on: the characters before it, and its length. An empty match
may be excluded at the place itself. -/
def search? (regex : Regex) (size : Nat) (noEmpty : Bool) (before : Text) (position : Nat) :
    Text → Option (Text × Nat)
  | [] => (regex.lengthAt? size noEmpty { before, after := [], position }).map ([], ·)
  | c :: after =>
    match regex.lengthAt? size noEmpty { before, after := c :: after, position } with
    | some length => some ([], length)
    | none =>
      (search? regex size false (c :: before) (position + 1) after).map
        fun (skipped, length) => (c :: skipped, length)

/-- The matches of a text and what stands between them, from a place on. After an empty match the
next one at the same place must not be empty. -/
def segmentsFrom (regex : Regex) (size : Nat) :
    (fuel : Nat) → (noEmpty : Bool) → (before : Text) → (position : Nat) → (after : Text) →
      List Segment
  | 0, _, _, _, after => [.between after]
  | fuel + 1, noEmpty, before, position, after =>
    match regex.search? size noEmpty before position after with
    | none => [.between after]
    | some (skipped, length) =>
      let rest := after.drop skipped.length
      let matched := rest.take length
      .between skipped :: .found matched ::
        segmentsFrom regex size fuel (length = 0) (matched.reverse ++ (skipped.reverse ++ before))
          (position + skipped.length + length) (rest.drop length)

def segments (regex : Regex) (text : Text) : List Segment :=
  let size := text.length
  regex.segmentsFrom size (2 * size + 2) false [] 0 text

end Regex

end BuildTags
