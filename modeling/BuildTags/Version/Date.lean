import BuildTags.Numeral

namespace BuildTags.Version

structure Date where
  year : Nat
  month : Nat
  day : Nat
  deriving DecidableEq, Repr

def twoDigits (n : Nat) : Text :=
  if n < 10 then '0' :: Nat.toDigits 10 n else Nat.toDigits 10 n

def Date.compact (date : Date) : Text :=
  twoDigits date.day ++ twoDigits date.month ++ Nat.toDigits 10 date.year

def Date.read? (text : Text) : Option Date :=
  match (text.splitOn '-').map fun part => (Numeral.read part).toOption.map Int.toNat with
  | [some year, some month, some day] => some ⟨year, month, day⟩
  | _ => none

end BuildTags.Version
