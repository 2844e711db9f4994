import ClientForge.Document.Access

namespace ClientForge.Coercion

def dropZeros (last : Char) : List Char → Option (List Char)
  | [] => some [last]
  | c :: rest =>
    if c = '0' || c = '_' then dropZeros c rest
    else if c.isDigit then some (c :: rest)
    else if c = '.' then some (last :: c :: rest)
    else none

def dropLeadingZeros : List Char → Option (List Char)
  | '0' :: rest => dropZeros '0' rest
  | c :: rest => if c.isDigit || c = '-' then some (c :: rest) else none
  | [] => none

def dropPoint (s : List Char) : List Char :=
  let places := (s.dropWhile (· ≠ '.')).drop 1
  if !places.isEmpty && places.all (· = '0') then s.takeWhile (· ≠ '.') else s

def dropUnderscores (s : List Char) : List Char :=
  if s.head? = some '_' || ['-', '_'].isPrefixOf s || s.getLast? = some '_' || Text.occursIn ['_', '_'] s then s
  else s.filter (· ≠ '_')

def bareInteger? (s : List Char) : Option (List Char) :=
  let s := Text.trimMargins s
  let unsigned := match s with
    | '+' :: '-' :: _ => none
    | '+' :: rest => some rest
    | rest => some rest
  (unsigned.bind dropLeadingZeros).map fun s => dropUnderscores (dropPoint s)

def decimal? (s : List Char) : Option Nat :=
  if s.isEmpty || !s.all Char.isDigit then none
  else some (s.foldl (fun n c => n * 10 + (c.toNat - 48)) 0)

def longLength : Nat := 19

/-- The digits of a bare number. A long one may still hold underscores behind its first digit. -/
def digits (bare unsigned : List Char) : List Char :=
  if longLength ≤ bare.length && unsigned.head? ≠ some '_' then unsigned.filter (· ≠ '_') else unsigned

def maxLength : Nat := 4300

def integerOfText (s : String) : Except OptionFault Int :=
  match bareInteger? s.toList with
  | none => .error .unreadableInteger
  | some bare =>
    if maxLength < (String.ofList bare).utf8ByteSize then .error .integerTooLong
    else
      let (negative, unsigned) := match bare with
        | '-' :: rest => (true, rest)
        | rest => (false, rest)
      match decimal? (digits bare unsigned) with
      | none => .error .unreadableInteger
      | some n => .ok (if negative then -n else n)

def integer (d : Document) : Except OptionFault Int :=
  match d with
  | .int n => .ok n
  | .bool b => .ok (if b then 1 else 0)
  | .real x =>
    match x with
    | .finite _ _ _ =>
      match x.toInt? with
      | none => .error .fractional
      | some n => if n.natAbs < Nat.pow 2 63 then .ok n else .error .integerTooLong
    | _ => .error .notFinite
  | .text s => integerOfText s
  | _ => .error .notInteger

def trueWords : List String := ["1", "on", "t", "true", "y", "yes"]

def falseWords : List String := ["0", "off", "f", "false", "n", "no"]

def truth? (d : Document) : Option Bool :=
  match d with
  | .bool b => some b
  | .int n => if n = 0 then some false else if n = 1 then some true else none
  | .real x => match x.toInt? with
    | some 0 => some false
    | some 1 => some true
    | _ => none
  | .text s =>
    let word := s.toLower
    if word ∈ trueWords then some true else if word ∈ falseWords then some false else none
  | _ => none

end ClientForge.Coercion
