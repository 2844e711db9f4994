import ClientForge.Number.Binary64
import ClientForge.Text.Numeral

namespace ClientForge.Binary64

def leadingDigits : Nat → Nat → List Char → Nat × Nat × List Char
  | value, count, [] => (value, count, [])
  | value, count, c :: rest =>
    match Text.decimalValue? c with
    | some d => leadingDigits (value * 10 + d) (count + 1) rest
    | none => (value, count, c :: rest)

def readExponent? : List Char → Option Int
  | [] => some 0
  | e :: rest =>
    if e ≠ 'e' && e ≠ 'E' then none
    else
      let (negative, digits) := match rest with
        | '-' :: more => (true, more)
        | '+' :: more => (false, more)
        | more => (false, more)
      match leadingDigits 0 0 digits with
      | (n, count, []) => if count = 0 then none else some (if negative then -n else n)
      | _ => none

def readUnsigned? (negative : Bool) (s : List Char) : Option Binary64 :=
  let (whole, wholeCount, rest) := leadingDigits 0 0 s
  let (digits, count, rest) := match rest with
    | '.' :: more => leadingDigits whole 0 more
    | _ => (whole, 0, rest)
  if wholeCount + count = 0 then none
  else (readExponent? rest).map fun e => ofDecimal negative digits (e - count)

def readNamed? (negative : Bool) (s : List Char) : Option Binary64 :=
  let name := String.ofList (s.map Char.toLower)
  if name = "inf" || name = "infinity" then some (.infinite negative)
  else if name = "nan" then some .nan
  else none

def read? (s : List Char) : Option Binary64 :=
  let (negative, rest) := match Text.trimMargins s with
    | '-' :: rest => (true, rest)
    | '+' :: rest => (false, rest)
    | rest => (false, rest)
  (readUnsigned? negative rest).or (readNamed? negative rest)

end ClientForge.Binary64

namespace ClientForge

namespace Binary64

def exactDecimal (m : Nat) (e : Int) : Nat × Int :=
  if 0 ≤ e then (m * Nat.pow 2 e.toNat, 0) else (m * Nat.pow 5 (-e).toNat, e)

def neighbour? (x : Binary64) (digits : Nat) (exponent : Int) (cut : Nat) : Option (Nat × Int) :=
  let unit := Nat.pow 10 cut
  let low := digits / unit
  let reads (n : Nat) : Bool := ofDecimal x.isNegative n (exponent + cut) = x
  let nearest := divRound digits unit
  let other := if nearest = low then low + 1 else low
  if reads nearest then some (nearest, exponent + cut)
  else if reads other then some (other, exponent + cut)
  else none

def trimZeros : Nat → Nat → Int → Nat × Int
  | 0, digits, exponent => (digits, exponent)
  | fuel + 1, digits, exponent =>
    if digits % 10 = 0 then trimZeros fuel (digits / 10) (exponent + 1) else (digits, exponent)

/-- Digits and power of ten of the shortest decimal that reads back as ± m · 2^e. -/
def shortest (x : Binary64) (m : Nat) (e : Int) : Nat × Int :=
  let (digits, exponent) := exactDecimal m e
  let size := (toString digits).length
  let (digits, exponent) :=
    ((List.range 17).findSome? fun k => neighbour? x digits exponent (size - (k + 1))).getD (digits, exponent)
  trimZeros 17 digits exponent

structure Layout where
  leastPlain : Int
  greatestPlain : Int
  exponentWidth : Nat

def layout : Layout := ⟨-4, 15, 2⟩

def withPoint (digits : String) (point : Nat) : String :=
  .ofList (digits.toList.take point ++ '.' :: digits.toList.drop point)

def exponentText (width : Nat) (e : Int) : String :=
  let digits := toString e.natAbs
  (if e < 0 then "-" else "+") ++ .ofList (List.replicate (width - digits.length) '0') ++ digits

def Layout.decimal (form : Layout) (digits : Nat) (exponent : Int) : String :=
  let ds := toString digits
  let first := exponent + ds.length - 1
  let zeros (n : Int) : String := .ofList (List.replicate n.toNat '0')
  if first < form.leastPlain || form.greatestPlain < first then
    (if ds.length = 1 then ds else withPoint ds 1) ++ "e" ++ exponentText form.exponentWidth first
  else if 0 ≤ exponent then ds ++ zeros exponent ++ ".0"
  else if 0 ≤ first then withPoint ds (first.toNat + 1)
  else "0." ++ zeros (-first - 1) ++ ds

def text : Binary64 → String
  | .nan => "nan"
  | .infinite s => if s then "-inf" else "inf"
  | .finite s m e =>
    (if s then "-" else "") ++
      if m = 0 then "0.0"
      else
        let (digits, exponent) := shortest (.finite s m e) m e
        layout.decimal digits exponent

end Binary64

end ClientForge
