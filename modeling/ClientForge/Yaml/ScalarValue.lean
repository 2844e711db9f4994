import ClientForge.Document.Basic
import ClientForge.Number.Decimal
import ClientForge.Text.Base64
import ClientForge.Text.Pieces
import ClientForge.Yaml.Cursor
import ClientForge.Yaml.Implicit

namespace ClientForge.Yaml

def malformed {α : Type} (fault : Malformed) : Except Fault α := .error (.malformed fault)

def orMalformed {α : Type} (fault : Malformed) (x : Option α) : Except Fault α := x.elim (malformed fault) .ok

def withoutUnderscores (s : List Char) : List Char := s.filter (· ≠ '_')

def splitSign (s : List Char) : Except Fault (Bool × List Char) :=
  match s with
  | [] => malformed .emptyNumber
  | '-' :: rest => .ok (true, rest)
  | '+' :: rest => .ok (false, rest)
  | s => .ok (false, s)

def readInt (base : Nat) (s : List Char) : Except Fault Int := orMalformed .notNumber (Text.readInt? base s)

def decimalInt (s : List Char) : Except Fault Int := do
  let n ← readInt 10 s
  if Text.maxDecimals < Text.decimalCount s then malformed .tooManyDigits
  else return n

def unsignedInt (s : List Char) : Except Fault Int :=
  match s with
  | [] => malformed .emptyNumber
  | ['0'] => .ok 0
  | '0' :: 'b' :: rest => readInt 2 rest
  | '0' :: 'x' :: rest => readInt 16 rest
  | '0' :: _ => readInt 8 s
  | s =>
    if s.contains ':' then do
      return (← (Text.pieces ':' s).mapM decimalInt).foldl (fun n d => n * 60 + d) 0
    else decimalInt s

def intValue (s : List Char) : Except Fault Scalar := do
  let (negative, s) ← splitSign (withoutUnderscores s)
  let n ← unsignedInt s
  return .int (if negative then -n else n)

/-- The most parts of a number to the base 60; the power that belongs to a further one is out of range. -/
def maxSixtieths : Nat := 174

def sumSixtieths (parts : List Binary64) : Except Fault Binary64 :=
  if maxSixtieths < parts.length then malformed .numberTooLarge
  else .ok ((parts.reverse.zipIdx).foldl (fun sum (x, k) => sum.add (x.scale (Nat.pow 60 k))) (.ofNat 0))

def unsignedReal (s : List Char) : Except Fault Binary64 :=
  let read (s : List Char) := orMalformed .notNumber (Binary64.read? s)
  if s = ".inf".toList then .ok (.infinite false)
  else if s = ".nan".toList then .ok .nan
  else if s.contains ':' then do sumSixtieths (← (Text.pieces ':' s).mapM read)
  else read s

def isUsualNan (s : List Char) : Bool := dropSign ((withoutUnderscores s).map Char.toLower) = ".nan".toList

def realValue (s : List Char) : Except Fault Scalar := do
  let (negative, s) ← splitSign ((withoutUnderscores s).map Char.toLower)
  let x ← unsignedReal s
  return .real (if negative then x.negate else x)

def boolValue (s : List Char) : Except Fault Scalar :=
  orMalformed .notTruthValue ((boolWords.lookup (.ofList (s.map Char.toLower))).map .bool)

def bytesValue (s : List Char) : Except Fault Scalar :=
  if s.all fun c => c.toNat < 128 then (Text.decodeBase64 s).elim (.error .unreadable) (.ok ∘ .bytes)
  else .error .unreadable

def Stamp.value (x : Stamp) : Option Scalar :=
  let date : Date := ⟨x.year, x.month, x.day⟩
  match x.time with
  | none => if date.isValid then some (.date date) else none
  | some (hour, minute, second, micro) =>
    let m : Moment := ⟨date, hour, minute, second, micro, x.offset⟩
    if m.isValid then some (.moment m) else none

def stampValue (s : List Char) : Except Fault Scalar := do
  orMalformed .noSuchDay (← orMalformed .notMoment (Stamp.read? s)).value

def scalarReader? (tag : String) : Option (List Char → Except Fault Scalar) :=
  ([("null", fun _ => .ok .null), ("bool", boolValue), ("int", intValue), ("float", realValue),
    ("binary", bytesValue), ("timestamp", stampValue), ("str", fun s => .ok (.text (.ofList s)))].find?
      (tagOf ·.1 = tag)).map (·.2)

end ClientForge.Yaml
