import BuildTags.Regex.Letter

namespace BuildTags.Regex

inductive Anchor
  | textStart
  | textEnd
  | lineStart
  | lineEnd
  | lastLineEnd
  | wordBorder (ascii : Bool)
  | noWordBorder (ascii : Bool)
  deriving DecidableEq, Repr

/-- How a loop chooses the number of rounds: most first, fewest first, or most without a second
choice. -/
inductive Greed
  | most
  | fewest
  | possessive
  deriving DecidableEq, Repr

abbrev Width := Nat × Nat

inductive Expr
  | empty
  | letter (letter : Letter)
  | anchor (anchor : Anchor)
  | seq (first second : Expr)
  | either (first second : Expr)
  | loop (greed : Greed) (least : Nat) (most : Option Nat) (body : Expr)
  | group (index : Nat) (body : Expr)
  | again (index : Nat) (folding : Folding) (width : Width)
  | ahead (negated : Bool) (body : Expr)
  | behind (negated : Bool) (body : Expr)
  | atomic (body : Expr)
  | ifGroup (index : Nat) (present absent : Expr)
  deriving DecidableEq, Repr

def maxWidth : Nat := Nat.pow 2 64

def Width.cut (width : Width) : Width := (min width.1 maxWidth, min width.2 maxWidth)

def Expr.width : Expr → Width
  | .empty => (0, 0)
  | .letter _ => (1, 1)
  | .anchor _ => (0, 0)
  | .seq first second =>
    Width.cut (first.width.1 + second.width.1, first.width.2 + second.width.2)
  | .either first second =>
    (min first.width.1 second.width.1, max first.width.2 second.width.2)
  | .loop _ least most body =>
    let greatest := match most with
      | some most => body.width.2 * most
      | none => if body.width.2 = 0 then 0 else maxWidth
    Width.cut (body.width.1 * least, greatest)
  | .group _ body => body.width
  | .again _ _ width => width
  | .ahead _ _ => (0, 0)
  | .behind _ _ => (0, 0)
  | .atomic body => body.width
  | .ifGroup _ present absent =>
    (min present.width.1 absent.width.1, max present.width.2 absent.width.2)

end BuildTags.Regex
