import BuildTags.Text.Basic

namespace BuildTags.Json

/-- A number of the binary64 format. A finite one is `mantissa * 2 ^ exponent` with a mantissa
below `2 ^ 53` and an exponent from -1074 on. -/
inductive Fraction
  | finite (negative : Bool) (mantissa : Nat) (exponent : Int)
  | infinite (negative : Bool)
  | undefined
  deriving DecidableEq, Repr

namespace Fraction

def leastFull : Nat := Nat.pow 2 52

/-- The nearest whole number to a quotient; a half goes to the even neighbour. -/
def nearest (num den : Nat) : Nat :=
  let low := num / den
  let twice := 2 * (num % den)
  if twice < den then low
  else if den < twice then low + 1
  else if low % 2 = 0 then low else low + 1

def scaled (num den : Nat) (shift : Int) : Nat × Nat :=
  if 0 ≤ shift then (num, den * Nat.pow 2 shift.toNat) else (num * Nat.pow 2 (-shift).toNat, den)

def ofQuotient (negative : Bool) (num den : Nat) : Fraction :=
  let guess := max ((num.log2 : Int) - den.log2 - 52) (-1074)
  let (n, d) := scaled num den guess
  let exponent := if n / d < leastFull then max (guess - 1) (-1074) else guess
  let (n, d) := scaled num den exponent
  let mantissa := nearest n d
  let (mantissa, exponent) :=
    if mantissa = 2 * leastFull then (leastFull, exponent + 1) else (mantissa, exponent)
  if 971 < exponent then .infinite negative else .finite negative mantissa exponent

def ofDecimal (negative : Bool) (digits : Nat) (power : Int) : Fraction :=
  let size := ((Nat.toDigits 10 digits).length : Int) + power
  if digits = 0 ∨ size < -330 then .finite negative 0 (-1074)
  else if 330 < size then .infinite negative
  else if 0 ≤ power then ofQuotient negative (digits * Nat.pow 10 power.toNat) 1
  else ofQuotient negative digits (Nat.pow 10 (-power).toNat)

def tenTo (power : Int) : Nat × Nat :=
  if 0 ≤ power then (Nat.pow 10 power.toNat, 1) else (1, Nat.pow 10 (-power).toNat)

/-- The decimal `digits * 10 ^ power` that reads back as
`mantissa * 2 ^ exponent`, if there is one: of the two neighbours on the grid the nearer one, and of
two equally near the even one. -/
def onGrid? (mantissa : Nat) (exponent power : Int) : Option Nat :=
  -- All quantities are multiplied by the same factor, which makes them whole.
  let (ten, unten) := tenTo power
  let (two, untwo) := if 0 ≤ exponent then (Nat.pow 2 exponent.toNat, 1)
    else (1, Nat.pow 2 (-exponent).toNat)
  let value := 4 * mantissa * two * unten
  let unit := 4 * ten * untwo
  let above := 2 * two * unten
  let below := if mantissa = leastFull ∧ -1074 < exponent then two * unten else above
  let reads (d : Nat) : Bool :=
    let point := d * unit
    if mantissa % 2 = 0 then value ≤ point + below && point ≤ value + above
    else value < point + below && point < value + above
  let low := value / unit
  let downward := value - low * unit
  let upward := (low + 1) * unit - value
  let lowFirst := downward < upward || (downward == upward && low % 2 == 0)
  match reads low, reads (low + 1) with
  | true, true => some (if lowFirst then low else low + 1)
  | true, false => some low
  | false, true => some (low + 1)
  | false, false => none

def leading (mantissa : Nat) (exponent : Int) : (steps : Nat) → Int → Int
  | 0, power => power
  | steps + 1, power =>
    let (ten, unten) := tenTo (power + 1)
    let (n, d) := scaled mantissa 1 (-exponent)
    if ten * d ≤ n * unten then leading mantissa exponent steps (power + 1) else power

def shortest (mantissa : Nat) (exponent : Int) : Nat × Int :=
  let top := leading mantissa exponent 700 (-330)
  ((List.range 17).findSome? fun (k : Nat) =>
    let power : Int := top - k
    (onGrid? mantissa exponent power).map (·, power)).getD (0, 0)

def withoutTrailingZeros (digits : Text) : Text :=
  match (digits.reverse.dropWhile (· = '0')).reverse with
  | [] => ['0']
  | digits => digits

/-- Positional notation from `1e-4` up to below `1e16`, and an exponent of two digits or more
elsewhere. -/
def writeFinite (mantissa : Nat) (exponent : Int) : Text :=
  if mantissa = 0 then "0.0" else
  let (number, power) := shortest mantissa exponent
  let all := Nat.toDigits 10 number
  let point : Int := all.length + power
  let digits := withoutTrailingZeros all
  if -4 < point ∧ point ≤ 16 then
    if point ≤ 0 then '0' :: '.' :: List.replicate (-point).toNat '0' ++ digits
    else
      let whole := digits.take point.toNat
      let fraction := digits.drop point.toNat
      whole ++ List.replicate (point.toNat - whole.length) '0' ++
        '.' :: (if fraction = [] then ['0'] else fraction)
  else
    let shown := (point - 1).natAbs
    let tens := Nat.toDigits 10 shown
    let first := digits.take 1
    let rest := digits.drop 1
    first ++ (if rest = [] then [] else '.' :: rest) ++
      'e' :: (if point - 1 < 0 then '-' else '+') :: (if shown < 10 then '0' :: tens else tens)

def write : Fraction → Text
  | .finite negative mantissa exponent =>
    if negative then '-' :: writeFinite mantissa exponent else writeFinite mantissa exponent
  | .infinite negative => if negative then "-Infinity" else "Infinity"
  | .undefined => "NaN"

end Fraction

end BuildTags.Json
