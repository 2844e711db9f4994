namespace ClientForge

/-- `finite negative m e` is ± m · 2^e. Of the ways to write a number only one is used: `m` has 53 bits, or `e`
is the least exponent, -1074. -/
inductive Binary64
  | finite (negative : Bool) (significand : Nat) (exponent : Int)
  | infinite (negative : Bool)
  | nan
deriving DecidableEq, Repr, Inhabited

namespace Binary64

def divRound (n d : Nat) : Nat :=
  let q := n / d
  if 2 * (n % d) < d then q
  else if d < 2 * (n % d) then q + 1
  else q + q % 2

def shifted (n d : Nat) (e : Int) : Nat × Nat :=
  if 0 ≤ e then (n, d * Nat.pow 2 e.toNat) else (n * Nat.pow 2 (-e).toNat, d)

def exponentOf (n d : Nat) : Int :=
  let e : Int := (n.log2 : Int) - d.log2 - 52
  let (n', d') := shifted n d e
  max (if n' < d' * Nat.pow 2 52 then e - 1 else e) (-1074)

def ofFraction (negative : Bool) (n d : Nat) : Binary64 :=
  if n = 0 then .finite negative 0 (-1074)
  else
    let e := exponentOf n d
    let (n', d') := shifted n d e
    let m := divRound n' d'
    let (m, e) := if m = Nat.pow 2 53 then (Nat.pow 2 52, e + 1) else (m, e)
    if 971 < e then .infinite negative else .finite negative m e

def ofDecimal (negative : Bool) (digits : Nat) (exponent : Int) : Binary64 :=
  if digits = 0 then .finite negative 0 (-1074)
  else if 400 < exponent then .infinite negative
  else if exponent < -400 - (digits.log2 : Int) then .finite negative 0 (-1074)
  else if 0 ≤ exponent then ofFraction negative (digits * Nat.pow 10 exponent.toNat) 1
  else ofFraction negative digits (Nat.pow 10 (-exponent).toNat)

def ofNat (n : Nat) : Binary64 := ofFraction false n 1

def negate : Binary64 → Binary64
  | .finite s m e => .finite (!s) m e
  | .infinite s => .infinite (!s)
  | .nan => .nan

def isNegative : Binary64 → Bool
  | .finite s _ _ => s
  | .infinite s => s
  | .nan => false

def isZero : Binary64 → Bool
  | .finite _ m _ => m = 0
  | _ => false

def toInt? : Binary64 → Option Int
  | .finite s m e =>
    let (n, d) := if 0 ≤ e then (m * Nat.pow 2 e.toNat, 1) else (m, Nat.pow 2 (-e).toNat)
    if n % d = 0 then some (if s then -(n / d : Nat) else (n / d : Nat)) else none
  | _ => none

def add : Binary64 → Binary64 → Binary64
  | .finite s m e, .finite t k f =>
    let low := min e f
    let sign (b : Bool) (n : Nat) : Int := if b then -n else n
    let total := sign s (m * Nat.pow 2 (e - low).toNat) + sign t (k * Nat.pow 2 (f - low).toNat)
    let negative := if total = 0 then s && t else total < 0
    if 0 ≤ low then ofFraction negative (total.natAbs * Nat.pow 2 low.toNat) 1
    else ofFraction negative total.natAbs (Nat.pow 2 (-low).toNat)
  | .nan, _ => .nan
  | _, .nan => .nan
  | .infinite s, .infinite t => if s = t then .infinite s else .nan
  | .infinite s, _ => .infinite s
  | _, .infinite t => .infinite t

def scale (x : Binary64) (n : Nat) : Binary64 :=
  match x, ofNat n with
  | .finite s m e, .finite _ k f =>
    if 0 ≤ e + f then ofFraction s (m * k * Nat.pow 2 (e + f).toNat) 1
    else ofFraction s (m * k) (Nat.pow 2 (-(e + f)).toNat)
  | .finite s m _, .infinite _ => if m = 0 then .nan else .infinite s
  | .infinite s, y => if y.isZero then .nan else .infinite s
  | _, _ => .nan

end Binary64

end ClientForge
