import ClientForge.Text.Numeral

/-!
Punycode: a text in any script as one of letters, digits and hyphens. First come the characters that are of that kind
already, up to the last hyphen; after it stands for each other character, in the order of code points, how far to go on
from the place of the one before. Characters are their code points.
-/

namespace ClientForge.Punycode

def digit? (c : Char) : Option Nat :=
  if 'a' ≤ c && c ≤ 'z' then some (c.toNat - 0x61)
  else if '0' ≤ c && c ≤ '9' then some (c.toNat - 0x30 + 26)
  else none

def digitChar (n : Nat) : Char := Char.ofNat (if n < 26 then 0x61 + n else 0x30 + (n - 26))

def threshold (bias place : Nat) : Nat := min 26 (max 1 (36 * (place + 1) - bias))

theorem threshold_pos (bias place : Nat) : 0 < threshold bias place := by unfold threshold; omega

def damped (n : Nat) : Nat × Nat :=
  if 455 < n then
    let (left, count) := damped (n / 35)
    (left, count + 36)
  else (n, 0)
termination_by n

def shifted (isFirst : Bool) (n size : Nat) : Nat :=
  let n := if isFirst then n / 700 else n / 2
  let (left, count) := damped (n + n / size)
  count + 36 * left / (left + 38)

/-- What has been read: the text so far, its newest character, the place behind that, and the shift of thresholds. -/
structure State where
  text : List Nat
  newest : Nat
  place : Nat
  bias : Nat
  isFirst : Bool
deriving DecidableEq, Repr

def State.start (text : List Nat) : State := ⟨text, 0x80, 0, 72, true⟩

def State.next? (s : State) (n : Nat) : Option State :=
  let size := s.text.length + 1
  let newest := s.newest + (s.place + n) / size
  let place := (s.place + n) % size
  if 0x10ffff < newest then none
  else some ⟨s.text.insertIdx place newest, newest, place + 1, shifted s.isFirst n size, false⟩

def decodeFrom (s : State) (place weight value : Nat) : List Char → List Nat × Bool
  | [] => (s.text, place = 0)
  | c :: rest =>
    match digit? c with
    | none => (s.text, false)
    | some d =>
      let t := threshold s.bias place
      let value := value + d * weight
      if d < t then
        match s.next? value with
        | some s => decodeFrom s 0 1 0 rest
        | none => (s.text, false)
      else decodeFrom s (place + 1) (weight * (36 - t)) value rest

def split (s : List Char) : List Char × List Char :=
  let digits := (s.reverse.takeWhile (· ≠ '-')).reverse
  (s.take (s.length - digits.length - 1), digits)

def decode? (s : List Char) : Option (List Nat) :=
  let (plain, digits) := split s
  let (text, isWhole) := decodeFrom (.start (plain.map Char.toNat)) 0 1 0 digits
  if isWhole then some text else none

def digitsOf (bias place n : Nat) : List Char :=
  let t := threshold bias place
  if n < t then [digitChar n]
  else digitChar (t + (n - t) % (36 - t)) :: digitsOf bias (place + 1) ((n - t) / (36 - t))
termination_by n
decreasing_by
  have := threshold_pos bias place
  have := Nat.div_le_self (n - threshold bias place) (36 - threshold bias place)
  omega

structure Writing where
  digits : List Char
  steps : Nat
  size : Nat
  bias : Nat
  isFirst : Bool
deriving DecidableEq, Repr

def Writing.pass (n : Nat) (w : Writing) (c : Nat) : Writing :=
  if c < n then { w with steps := w.steps + 1 }
  else if c = n then
    ⟨w.digits ++ digitsOf w.bias 0 w.steps, 0, w.size + 1, shifted w.isFirst w.steps (w.size + 1), false⟩
  else w

def encodeFrom (s : List Nat) (least : Nat) (w : Writing) : List Nat → List Char
  | [] => w.digits
  | n :: rest =>
    let w := s.foldl (·.pass n ·) { w with steps := w.steps + (n - least) * (w.size + 1) }
    encodeFrom s (n + 1) { w with steps := w.steps + 1 } rest

def encode (s : List Nat) : List Char :=
  let plain := s.filter (· < 0x80)
  let others := ((s.filter (0x80 ≤ ·)).mergeSort (· ≤ ·)).eraseReps
  (plain.map Char.ofNat) ++ (if plain.isEmpty then [] else ['-']) ++
    encodeFrom s 0x80 ⟨[], 0, plain.length, 72, true⟩ others

end ClientForge.Punycode
