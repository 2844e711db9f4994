import ClientForge.Text.Base64

namespace ClientForge.Text

def replacement : Char := '\ufffd'

structure Section where
  bits : Nat
  value : Nat
  half : Option Nat
deriving DecidableEq, Repr

def isFirstHalf (unit : Nat) : Bool := 0xd800 ≤ unit && unit < 0xdc00

def isSecondHalf (unit : Nat) : Bool := 0xdc00 ≤ unit && unit < 0xe000

def joinHalves (first second : Nat) : Char := Char.ofNat (0x10000 + (first - 0xd800) * 0x400 + (second - 0xdc00))

def unitChar (unit : Nat) : Char := if isFirstHalf unit || isSecondHalf unit then replacement else Char.ofNat unit

namespace Section

def empty : Section := ⟨0, 0, none⟩

def addUnit (s : Section) (unit : Nat) : Section × List Char :=
  match s.half with
  | some first =>
    if isSecondHalf unit then ({ s with half := none }, [joinHalves first unit])
    else if isFirstHalf unit then ({ s with half := some unit }, [replacement])
    else ({ s with half := none }, [replacement, unitChar unit])
  | none => if isFirstHalf unit then ({ s with half := some unit }, []) else (s, [unitChar unit])

def addDigit (s : Section) (digit : Nat) : Section × List Char :=
  let value := s.value * 64 + digit
  let bits := s.bits + 6
  if bits < 16 then (⟨bits, value, s.half⟩, [])
  else
    let left := bits - 16
    (⟨left, value % Nat.pow 2 left, s.half⟩ : Section).addUnit (value / Nat.pow 2 left)

def isWhole (s : Section) : Bool := s.bits < 6 && s.value = 0

end Section

def decodeUtf7From : Option Section → List UInt8 → List Char
  | none, [] => []
  | some s, [] => if s.isWhole && s.half.isNone then [] else [replacement]
  | some s, b :: rest =>
    match sextet? (Char.ofNat b.toNat) with
    | some digit =>
      let (s, chars) := s.addDigit digit
      chars ++ decodeUtf7From (some s) rest
    | none =>
      let lost := if s.half.isSome && b < 0x80 then [replacement] else []
      if !s.isWhole then replacement :: decodeUtf7From none rest
      else if b = 0x2d then lost ++ decodeUtf7From none rest
      else lost ++ (if b < 0x80 then Char.ofNat b.toNat else replacement) :: decodeUtf7From none rest
  | none, b :: rest =>
    if b = 0x2b then
      match rest with
      | [] => []
      | d :: more =>
        if d = 0x2d then '+' :: decodeUtf7From none more
        else if (sextet? (Char.ofNat d.toNat)).isNone then replacement :: decodeUtf7From none more
        else decodeUtf7From (some .empty) (d :: more)
    else (if b < 0x80 then Char.ofNat b.toNat else replacement) :: decodeUtf7From none rest

def decodeUtf7 (bytes : List UInt8) : List Char := decodeUtf7From none bytes

def unitOf (highFirst : Bool) (bytes : List UInt8) : Nat :=
  (if highFirst then bytes else bytes.reverse).foldl (fun n b => n * 256 + b.toNat) 0

def decodeUtf16 (highFirst : Bool) : List UInt8 → List Char
  | a :: b :: c :: d :: rest =>
    let first := unitOf highFirst [a, b]
    let second := unitOf highFirst [c, d]
    if isFirstHalf first && isSecondHalf second then joinHalves first second :: decodeUtf16 highFirst rest
    else unitChar first :: decodeUtf16 highFirst (c :: d :: rest)
  | [a, b, _] =>
    let unit := unitOf highFirst [a, b]
    if isFirstHalf unit then [replacement] else [unitChar unit, replacement]
  | [a, b] => [unitChar (unitOf highFirst [a, b])]
  | [_] => [replacement]
  | [] => []

def decodeUtf32 (highFirst : Bool) : List UInt8 → List Char
  | a :: b :: c :: d :: rest =>
    let unit := unitOf highFirst [a, b, c, d]
    (if 0x10ffff < unit then replacement else unitChar unit) :: decodeUtf32 highFirst rest
  | [] => []
  | _ => [replacement]

end ClientForge.Text
