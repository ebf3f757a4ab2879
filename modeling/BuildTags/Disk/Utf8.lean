import BuildTags.Text.Quoted

namespace BuildTags.Utf8

inductive Defect
  | startByte
  | continuationByte
  | endOfData
  deriving DecidableEq, Repr

def Defect.message : Defect → Text
  | .startByte => "invalid start byte"
  | .continuationByte => "invalid continuation byte"
  | .endOfData => "unexpected end of data"

structure Fault where
  position : Nat
  bytes : List UInt8
  defect : Defect
  deriving DecidableEq, Repr

def Fault.message (fault : Fault) : Text :=
  let place : Text := match fault.bytes with
    | [byte] => "byte 0x" ++ Text.hex 2 byte.toNat ++ " in position " ++
        Nat.toDigits 10 fault.position
    | bytes => "bytes in position " ++ Nat.toDigits 10 fault.position ++ "-" ++
        Nat.toDigits 10 (fault.position + bytes.length - 1)
  "'utf-8' codec can't decode " ++ place ++ ": " ++ fault.defect.message

def encodeChar (c : Char) : List UInt8 :=
  let n := c.toNat
  if n < 0x80 then [UInt8.ofNat n]
  else if n < 0x800 then [UInt8.ofNat (0xc0 + n / 0x40), UInt8.ofNat (0x80 + n % 0x40)]
  else if n < 0x10000 then
    [UInt8.ofNat (0xe0 + n / 0x1000), UInt8.ofNat (0x80 + n / 0x40 % 0x40),
     UInt8.ofNat (0x80 + n % 0x40)]
  else
    [UInt8.ofNat (0xf0 + n / 0x40000), UInt8.ofNat (0x80 + n / 0x1000 % 0x40),
     UInt8.ofNat (0x80 + n / 0x40 % 0x40), UInt8.ofNat (0x80 + n % 0x40)]

def encode (text : Text) : List UInt8 := text.flatMap encodeChar

def isContinuation (byte : UInt8) : Bool := 0x80 ≤ byte.toNat && byte.toNat < 0xc0

/-- The least and greatest second byte after a first one; they keep out long forms, surrogates and
numbers that are too large. -/
def secondRange (first : Nat) : Nat × Nat :=
  if first = 0xe0 then (0xa0, 0xbf)
  else if first = 0xed then (0x80, 0x9f)
  else if first = 0xf0 then (0x90, 0xbf)
  else if first = 0xf4 then (0x80, 0x8f)
  else (0x80, 0xbf)

def size? (first : Nat) : Option Nat :=
  if first < 0x80 then some 1
  else if first < 0xc2 then none
  else if first < 0xe0 then some 2
  else if first < 0xf0 then some 3
  else if first < 0xf5 then some 4
  else none

def firstBits (size first : Nat) : Nat :=
  match size with
  | 1 => first
  | 2 => first - 0xc0
  | 3 => first - 0xe0
  | _ => first - 0xf0

def continuations (first count : Nat) (bytes : List UInt8) : List UInt8 :=
  match count, bytes with
  | count + 1, second :: rest =>
    let (low, high) := secondRange first
    if low ≤ second.toNat ∧ second.toNat ≤ high then
      second :: (rest.take count).takeWhile isContinuation
    else []
  | _, _ => []

def decodeFrom : (fuel position : Nat) → List UInt8 → Except Fault Text
  | _, _, [] => .ok []
  | 0, _, _ => .ok []
  | fuel + 1, position, first :: bytes =>
    match size? first.toNat with
    | none => .error ⟨position, [first], .startByte⟩
    | some size =>
      let tail := continuations first.toNat (size - 1) bytes
      if tail.length + 1 = size then do
        let number := tail.foldl (fun n byte => n * 0x40 + (byte.toNat - 0x80))
          (firstBits size first.toNat)
        let text ← decodeFrom fuel (position + size) (bytes.drop tail.length)
        pure (Char.ofNat number :: text)
      else .error ⟨position, first :: tail,
        if bytes.length = tail.length then .endOfData else .continuationByte⟩

def decode (bytes : List UInt8) : Except Fault Text := decodeFrom bytes.length 0 bytes

end BuildTags.Utf8
