import ClientForge.Text.Pieces

namespace ClientForge.Text

def decimalZeros : List Nat := [
  0x30, 0x660, 0x6f0, 0x7c0, 0x966, 0x9e6, 0xa66, 0xae6, 0xb66, 0xbe6, 0xc66, 0xce6, 0xd66, 0xde6, 0xe50,
  0xed0, 0xf20, 0x1040, 0x1090, 0x17e0, 0x1810, 0x1946, 0x19d0, 0x1a80, 0x1a90, 0x1b50, 0x1bb0, 0x1c40, 0x1c50,
  0xa620, 0xa8d0, 0xa900, 0xa9d0, 0xa9f0, 0xaa50, 0xabf0, 0xff10, 0x104a0, 0x10d30, 0x11066, 0x110f0, 0x11136,
  0x111d0, 0x112f0, 0x11450, 0x114d0, 0x11650, 0x116c0, 0x11730, 0x118e0, 0x11950, 0x11c50, 0x11d50, 0x11da0,
  0x16a60, 0x16ac0, 0x16b50, 0x1d7ce, 0x1d7d8, 0x1d7e2, 0x1d7ec, 0x1d7f6, 0x1e140, 0x1e2f0, 0x1e950, 0x1fbf0]

def decimalValue? (c : Char) : Option Nat :=
  (decimalZeros.find? fun z => z ≤ c.toNat && c.toNat < z + 10).map (c.toNat - ·)

def letterValue? (c : Char) : Option Nat :=
  if 'a' ≤ c && c ≤ 'z' then some (c.toNat - 'a'.toNat + 10)
  else if 'A' ≤ c && c ≤ 'Z' then some (c.toNat - 'A'.toNat + 10)
  else none

def digitValue? (base : Nat) (c : Char) : Option Nat :=
  ((decimalValue? c).or (letterValue? c)).filter (· < base)

def furtherDigits? (base value : Nat) : List Char → Option Nat
  | [] => some value
  | '_' :: c :: rest => do furtherDigits? base (value * base + (← digitValue? base c)) rest
  | c :: rest => do furtherDigits? base (value * base + (← digitValue? base c)) rest

def digits? (base : Nat) : List Char → Option Nat
  | [] => none
  | c :: rest => do furtherDigits? base (← digitValue? base c) rest

def dropBaseMark (base : Nat) : List Char → List Char
  | '0' :: c :: rest =>
    let mark := if base = 16 then 'x' else if base = 8 then 'o' else if base = 2 then 'b' else '0'
    if mark ≠ '0' && c.toLower = mark then
      match rest with
      | '_' :: more => more
      | _ => rest
    else '0' :: c :: rest
  | s => s

/-- The most digits that a number in base 10 may have where it is read or written. -/
def maxDecimals : Nat := 4300

def decimalCount (s : List Char) : Nat := (s.filter fun c => (decimalValue? c).isSome).length

/-- White space around a number; the separators of ASCII are none. -/
def isMargin (c : Char) : Bool := isBlank c && !('\x1c' ≤ c && c ≤ '\x1f')

def trimMargins (s : List Char) : List Char := ((s.dropWhile isMargin).reverse.dropWhile isMargin).reverse

def readInt? (base : Nat) (s : List Char) : Option Int :=
  match trimMargins s with
  | '-' :: rest => (digits? base (dropBaseMark base rest)).map fun n => -n
  | '+' :: rest => (digits? base (dropBaseMark base rest)).map fun n => n
  | rest => (digits? base (dropBaseMark base rest)).map fun n => n

def hexDigit (n : Nat) : Char := if n < 10 then Char.ofNat (48 + n) else Char.ofNat (87 + n)

def hexDigits : Nat → Nat → List Char
  | 0, _ => []
  | width + 1, n => hexDigits width (n / 16) ++ [hexDigit (n % 16)]

def padded (width n : Nat) : List Char :=
  let digits := (toString n).toList
  List.replicate (width - digits.length) '0' ++ digits

end ClientForge.Text
