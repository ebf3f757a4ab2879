import BuildTags.Text.Blank
import BuildTags.Text.Digit
import BuildTags.Text.LetterCase
import BuildTags.Text.Word

namespace BuildTags.Regex

/-- How capital and small letters are told apart: as they are, not at all in ASCII, or not at
all. -/
inductive Folding
  | exact
  | ascii
  | unicode
  deriving DecidableEq, Repr

/-- Small letters that are written differently and still count as one letter. -/
def twins : List (List Nat) :=
  [[0x69, 0x131], [0x73, 0x17f], [0xb5, 0x3bc], [0x345, 0x3b9, 0x1fbe], [0x390, 0x1fd3],
   [0x3b0, 0x1fe3], [0x3b2, 0x3d0], [0x3b5, 0x3f5], [0x3b8, 0x3d1], [0x3ba, 0x3f0],
   [0x3c0, 0x3d6], [0x3c1, 0x3f1], [0x3c2, 0x3c3], [0x3c6, 0x3d5], [0x432, 0x1c80],
   [0x434, 0x1c81], [0x43e, 0x1c82], [0x441, 0x1c83], [0x442, 0x1c84, 0x1c85], [0x44a, 0x1c86],
   [0x463, 0x1c87], [0x1c88, 0xa64b], [0x1e61, 0x1e9b], [0xfb05, 0xfb06]]

def twinsOf (n : Nat) : List Nat := (twins.find? (n ∈ ·)).getD [n]

namespace Folding

def lower : Folding → Nat → Nat
  | .exact, n => n
  | .ascii, n => Text.lowerAsciiCode n
  | .unicode, n => Text.lowerCode n

def peers : Folding → Nat → List Nat
  | .unicode, n => twinsOf n
  | _, n => [n]

def raised : Folding → Nat → List Nat
  | .exact, n => [n]
  | .ascii, n => if 0x61 ≤ n ∧ n ≤ 0x7a then [n, n - 32] else [n]
  | .unicode, n => n :: Text.caseRuns.filterMap fun run =>
      let source : Int := n - run.shift
      if (run.first : Int) ≤ source ∧ source ≤ run.last ∧ (source - run.first) % run.step = 0 then
        some source.toNat
      else none

def same (folding : Folding) (a b : Nat) : Bool :=
  folding.lower b ∈ folding.peers (folding.lower a)

end Folding

inductive Category
  | digit
  | space
  | word
  deriving DecidableEq, Repr

def Category.contains (ascii : Bool) (category : Category) (c : Char) : Bool :=
  if ascii then
    match category with
    | .digit => c.isDigit
    | .space => c = ' ' || (0x9 ≤ c.toNat && c.toNat ≤ 0xd)
    | .word => c.isAlphanum || c = '_'
  else
    match category with
    | .digit => Text.isDigit c
    | .space => Text.isBlank c
    | .word => Text.isWord c

inductive Entry
  | code (n : Nat)
  | range (first last : Nat)
  | category (category : Category) (negated : Bool)
  deriving DecidableEq, Repr

/-- Whether an entry covers a character. Beyond the basic plane a single letter of a set stands for
the small form of a character only. -/
def Entry.covers (folding : Folding) (ascii : Bool) (c : Char) : Entry → Bool
  | .code n =>
    if 0x10000 ≤ n then folding.lower c.toNat = n else folding.same n c.toNat
  | .range first last =>
    (folding.peers (folding.lower c.toNat)).any fun n =>
      (folding.raised n).any fun m => first ≤ m && m ≤ last
  | .category kind negated => kind.contains ascii c != negated

inductive Letter
  | any
  | anyButLineFeed
  | code (n : Nat) (folding : Folding) (negated : Bool)
  | set (entries : List Entry) (folding : Folding) (ascii negated : Bool)
  deriving DecidableEq, Repr

def Letter.accepts (c : Char) : Letter → Bool
  | .any => true
  | .anyButLineFeed => c ≠ '\n'
  | .code n folding negated => folding.same n c.toNat != negated
  | .set entries folding ascii negated =>
    entries.any (Entry.covers folding ascii c) != negated

end BuildTags.Regex
