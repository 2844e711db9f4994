import ClientForge.Text.Numeral

namespace ClientForge.Yaml

def tagOf (name : String) : String := "tag:yaml.org,2002:" ++ name

def nullTag : String := tagOf "null"

def textTag : String := tagOf "str"

def sequenceTag : String := tagOf "seq"

def mappingTag : String := tagOf "map"

def atEnd (s : List Char) : Bool := s = [] || s = ['\n']

def isOneOf (words : List String) (s : List Char) : Bool :=
  words.any fun w => (w.toList.isPrefixOf? s).any atEnd

def boolWords : List (String × Bool) := [("yes", true), ("no", false), ("true", true), ("false", false), ("on", true),
  ("off", false)]

def spellings (words : List String) : List String := words.flatMap fun w => [w, w.capitalize, w.toUpper]

def isBool (s : List Char) : Bool := isOneOf (spellings (boolWords.map (·.1))) s

def dropSign : List Char → List Char
  | '+' :: rest => rest
  | '-' :: rest => rest
  | s => s

def isDigitOrLine (c : Char) : Bool := c.isDigit || c = '_'

def sixtieths : Nat → List Char → Option (List Char)
  | fuel + 1, ':' :: rest =>
    let digits := rest.takeWhile Char.isDigit
    let after := rest.dropWhile Char.isDigit
    if digits.length = 1 || (digits.length = 2 && digits.head?.any (· ≤ '5')) then
      if after.head? = some ':' then sixtieths fuel after else some after
    else none
  | _, _ => none

def afterSixtieths (s : List Char) : Option (List Char) := sixtieths s.length s

def exponentEnds (s : List Char) : Bool :=
  match s with
  | e :: sign :: d :: rest =>
    if (e = 'e' || e = 'E') && (sign = '-' || sign = '+') then d.isDigit && atEnd (rest.dropWhile Char.isDigit)
    else atEnd s
  | s => atEnd s

def startsWithDigit (s : List Char) : Bool := s.head?.any Char.isDigit

def isFloat (s : List Char) : Bool :=
  let unsigned := dropSign s
  let afterDigits := unsigned.dropWhile isDigitOrLine
  (startsWithDigit unsigned && match afterDigits with
    | '.' :: places => exponentEnds (places.dropWhile isDigitOrLine)
    | _ => false)
  || (match s with
    | '.' :: places => startsWithDigit places && exponentEnds (places.dropWhile isDigitOrLine)
    | _ => false)
  || (startsWithDigit unsigned && match afterSixtieths afterDigits with
    | some ('.' :: places) => atEnd (places.dropWhile isDigitOrLine)
    | _ => false)
  || isOneOf [".inf", ".Inf", ".INF"] unsigned
  || isOneOf [".nan", ".NaN", ".NAN"] s

def isRun (p : Char → Bool) (s : List Char) : Bool := s.head?.any p && atEnd (s.dropWhile p)

def isHexDigit (c : Char) : Bool := c.isDigit || ('a' ≤ c && c ≤ 'f') || ('A' ≤ c && c ≤ 'F')

def isInt (s : List Char) : Bool :=
  match dropSign s with
  | '0' :: 'b' :: rest => isRun (fun c => c = '0' || c = '1' || c = '_') rest
  | '0' :: 'x' :: rest => isRun (fun c => isHexDigit c || c = '_') rest
  | '0' :: rest => atEnd rest || isRun (fun c => ('0' ≤ c && c ≤ '7') || c = '_') rest
  | d :: rest =>
    d.isDigit &&
      (atEnd (rest.dropWhile isDigitOrLine) || (afterSixtieths (rest.dropWhile isDigitOrLine)).any atEnd)
  | [] => false

structure Stamp where
  year : Nat
  month : Nat
  day : Nat
  fullDate : Bool
  time : Option (Nat × Nat × Nat × Nat)
  offset : Option Int
deriving DecidableEq, Repr

def number (digits : List Char) : Nat := digits.foldl (fun n d => n * 10 + (d.toNat - 48)) 0

def fewDigits? (least most : Nat) (s : List Char) : Option (List Char × List Char) :=
  let digits := (s.take most).takeWhile Char.isDigit
  if digits.length < least then none else some (digits, s.drop digits.length)

def sign? (c : Char) : List Char → Option (List Char)
  | d :: rest => if d = c then some rest else none
  | [] => none

def millionths (digits : List Char) : Nat :=
  let digits := digits.take 6
  number digits * Nat.pow 10 (6 - digits.length)

def offset? (s : List Char) : Option (Option Int) :=
  if atEnd s then some none
  else match s.dropWhile fun c => c = ' ' || c = '\t' with
    | 'Z' :: rest => if atEnd rest then some (some 0) else none
    | c :: rest =>
      if c ≠ '+' && c ≠ '-' then none
      else do
        let (hours, rest) ← fewDigits? 1 2 rest
        let minutes ← if atEnd rest then some 0
          else do
            let (minutes, rest) ← fewDigits? 2 2 (← sign? ':' rest)
            if atEnd rest then some (number minutes) else none
        let total : Int := number hours * 60 + minutes
        return some (if c = '-' then -total else total)
    | [] => none

def time? (s : List Char) : Option ((Nat × Nat × Nat × Nat) × Option Int) := do
  let (hour, rest) ← fewDigits? 1 2 s
  let (minute, rest) ← fewDigits? 2 2 (← sign? ':' rest)
  let (second, rest) ← fewDigits? 2 2 (← sign? ':' rest)
  let (fraction, rest) := match rest with
    | '.' :: rest => (rest.takeWhile Char.isDigit, rest.dropWhile Char.isDigit)
    | rest => ([], rest)
  return ((number hour, number minute, number second, millionths fraction), ← offset? rest)

def timeStart? : List Char → Option (List Char)
  | c :: rest =>
    if c = 'T' || c = 't' then some rest
    else if c = ' ' || c = '\t' then some (rest.dropWhile fun c => c = ' ' || c = '\t')
    else none
  | [] => none

def Stamp.read? (s : List Char) : Option Stamp := do
  let (year, rest) ← fewDigits? 4 4 s
  let (month, rest) ← fewDigits? 1 2 (← sign? '-' rest)
  let (day, rest) ← fewDigits? 1 2 (← sign? '-' rest)
  let full := month.length = 2 && day.length = 2
  if atEnd rest then return ⟨number year, number month, number day, full, none, none⟩
  else
    let (time, offset) ← time? (← timeStart? rest)
    return ⟨number year, number month, number day, full, some time, offset⟩

def isStamp (s : List Char) : Bool := (Stamp.read? s).any fun x => x.time.isSome || x.fullDate

def isNull (s : List Char) : Bool := s.isEmpty || isOneOf ["~", "null", "Null", "NULL"] s

def implicitForms : List ((List Char → Bool) × String) := [
  (isBool, "bool"), (isFloat, "float"), (isInt, "int"), (isOneOf ["<<"], "merge"), (isNull, "null"),
  (isStamp, "timestamp"), (isOneOf ["="], "value"), (isOneOf ["!", "&", "*"], "yaml")]

def implicitTag (text : String) : String :=
  tagOf (((implicitForms.find? fun (fits, _) => fits text.toList).map (·.2)).getD "str")

end ClientForge.Yaml
