import ClientForge.Json.Fault
import ClientForge.Json.Value
import ClientForge.Number.Decimal

/-!
Reading JSON. Besides the standard's values `NaN`, `Infinity` and `-Infinity` are read, and of two entries with one
name the last gives the value. There are limits to the digits of an integer and to the depth of a value.

Each reader takes the text from where it stands, and gives what it read and what is left. A fault carries what
was left at its place.
-/

namespace ClientForge.Json

inductive Stop
  | fault (reason : Reason) (rest : List Char)
  | tooManyDigits (count : Nat)
  | tooDeep

def isSpace (c : Char) : Bool := c = ' ' || c = '\t' || c = '\n' || c = '\r'

def skipSpace (s : List Char) : List Char := s.dropWhile isSpace

def fourDigits? : List Char → Option (Nat × List Char)
  | a :: b :: c :: d :: rest =>
    match [a, b, c, d].mapM (fun h => if h.toNat < 128 then Text.digitValue? 16 h else none) with
    | some digits => some (digits.foldl (fun n k => n * 16 + k) 0, rest)
    | none => none
  | _ => none

def unicodeEscape (s : List Char) : Except Stop (Text.CodePoint × List Char) :=
  let fault := .error (.fault .badCodePoint ('u' :: s))
  if s.length ≤ 4 then fault
  else match fourDigits? s with
    | none => fault
    | some (high, rest) =>
      if 0xD800 ≤ high && high < 0xDC00 && 6 < rest.length then
        match rest with
        | '\\' :: 'u' :: more =>
          match fourDigits? more with
          | none => .error (.fault .badCodePoint ('u' :: more))
          | some (low, after) =>
            if 0xDC00 ≤ low && low < 0xE000 then
              .ok (.ofNat _ (0x10000 + (high - 0xD800) * 0x400 + (low - 0xDC00)), after)
            else .ok (.ofNat _ high, rest)
        | _ => .ok (.ofNat _ high, rest)
      else .ok (.ofNat _ high, rest)

def simpleEscape? (c : Char) : Option Char :=
  match c with
  | '"' => some '"'
  | '\\' => some '\\'
  | '/' => some '/'
  | 'b' => some '\x08'
  | 'f' => some '\x0c'
  | 'n' => some '\n'
  | 'r' => some '\r'
  | 't' => some '\t'
  | _ => none

def textFrom (start : List Char) : Nat → List Text.CodePoint → List Char →
    Except Stop (List Text.CodePoint × List Char)
  | _, _, [] => .error (.fault .openText start)
  | 0, _, _ => .error (.fault .openText start)
  | fuel + 1, done, c :: rest =>
    if c = '"' then .ok (done.reverse, rest)
    else if c = '\\' then
      match rest with
      | [] => .error (.fault .openText start)
      | 'u' :: more => do
        let (d, after) ← unicodeEscape more
        textFrom start fuel (d :: done) after
      | e :: more =>
        match simpleEscape? e with
        | some d => textFrom start fuel (Text.codePoint d :: done) more
        | none => .error (.fault .badEscape (c :: rest))
    else if c.toNat < 0x20 then .error (.fault .control (c :: rest))
    else textFrom start fuel (Text.codePoint c :: done) rest

def text (s : List Char) : Except Stop (List Text.CodePoint × List Char) := textFrom ('"' :: s) (s.length + 1) [] s

def fraction (s : List Char) : List Char × List Char :=
  match s with
  | '.' :: d :: rest => if d.isDigit then ((d :: rest).takeWhile Char.isDigit, rest.dropWhile Char.isDigit) else ([], s)
  | _ => ([], s)

def exponent? (s : List Char) : Option (Int × List Char) :=
  match s with
  | e :: rest =>
    if e ≠ 'e' && e ≠ 'E' then none
    else
      let (negative, digits) := match rest with
        | '-' :: more => (true, more)
        | '+' :: more => (false, more)
        | more => (false, more)
      match Binary64.leadingDigits 0 0 (digits.takeWhile Char.isDigit) with
      | (_, 0, _) => none
      | (n, _, _) => some (if negative then -n else n, digits.dropWhile Char.isDigit)
  | [] => none

def digitsValue (s : List Char) : Nat := (Binary64.leadingDigits 0 0 s).1

def number? (s : List Char) : Option (Value × Nat × List Char) :=
  let (negative, s) := match s with
    | '-' :: rest => (true, rest)
    | rest => (false, rest)
  let whole := match s with
    | '0' :: rest => some (['0'], rest)
    | c :: _ => if c.isDigit then some (s.takeWhile Char.isDigit, s.dropWhile Char.isDigit) else none
    | [] => none
  whole.map fun (digits, rest) =>
    let (places, rest) := fraction rest
    match exponent? rest with
    | some (e, after) =>
      (.real (.ofDecimal negative (digitsValue (digits ++ places)) (e - places.length)), 0, after)
    | none =>
      if places.isEmpty then
        let n : Int := digitsValue digits
        (.int (if negative then -n else n), digits.length, rest)
      else (.real (.ofDecimal negative (digitsValue (digits ++ places)) (-(places.length : Int))), 0, rest)

def words : List (List Char × Value) := [
  ("null".toList, .null), ("true".toList, .bool true), ("false".toList, .bool false), ("NaN".toList, .real .nan),
  ("Infinity".toList, .real (.infinite false)), ("-Infinity".toList, .real (.infinite true))]

def word? (s : List Char) : Option (Value × List Char) :=
  words.findSome? fun (w, v) => (w.isPrefixOf? s).map (v, ·)

def bare (s : List Char) : Except Stop (Value × List Char) :=
  match word? s with
  | some found => .ok found
  | none =>
    match number? s with
    | some (v, digits, rest) => if Text.maxDecimals < digits then .error (.tooManyDigits digits) else .ok (v, rest)
    | none => .error (.fault .value s)

def maxDepth : Nat := 990

/-! Every call of `value`, `items` and `members` but the first comes after a character has been taken, or is one
of two in a row; `fuel` counts them. `room` is the number of lists and mappings that may still be opened. -/

mutual

def value : Nat → Nat → List Char → Except Stop (Value × List Char)
  | 0, _, s => .error (.fault .value s)
  | fuel + 1, room, s =>
    match s with
    | '"' :: rest => (fun (t, after) => (.text t, after)) <$> text rest
    | '\x7b' :: rest =>
      if room = 0 then .error .tooDeep
      else match skipSpace rest with
        | '\x7d' :: after => .ok (.map [], after)
        | inside => (fun (m, after) => (.map m, after)) <$> members fuel (room - 1) [] inside
    | '[' :: rest =>
      if room = 0 then .error .tooDeep
      else match skipSpace rest with
        | ']' :: after => .ok (.list [], after)
        | inside => (fun (vs, after) => (.list vs, after)) <$> items fuel (room - 1) [] inside
    | _ => bare s

def items : Nat → Nat → List Value → List Char → Except Stop (List Value × List Char)
  | 0, _, _, s => .error (.fault .value s)
  | fuel + 1, room, done, s => do
    let (v, rest) ← value fuel room s
    match skipSpace rest with
    | ']' :: after => .ok ((v :: done).reverse, after)
    | ',' :: after => items fuel room (v :: done) (skipSpace after)
    | other => .error (.fault .comma other)

def members : Nat → Nat → Members → List Char → Except Stop (Members × List Char)
  | 0, _, _, s => .error (.fault .value s)
  | fuel + 1, room, done, s =>
    match s with
    | '"' :: afterQuote => do
      let (name, rest) ← text afterQuote
      match skipSpace rest with
      | ':' :: afterColon =>
        let (v, rest) ← value fuel room (skipSpace afterColon)
        let done := done.insert name v
        match skipSpace rest with
        | '\x7d' :: after => .ok (done, after)
        | ',' :: after => members fuel room done (skipSpace after)
        | other => .error (.fault .comma other)
      | other => .error (.fault .colon other)
    | _ => .error (.fault .name s)

end

def whole (s : List Char) : Except Stop Value :=
  match s with
  | '\ufeff' :: _ => .error (.fault .byteOrderMark s)
  | _ => do
    let (v, rest) ← value (2 * s.length + 2) maxDepth (skipSpace s)
    match skipSpace rest with
    | [] => .ok v
    | other => .error (.fault .extra other)

def readValue (content : String) : Except Trouble Value :=
  let s := content.toList
  match whole s with
  | .ok v => .ok v
  | .error (.fault reason rest) => .error (.fault (.after reason s (s.length - rest.length)))
  | .error (.tooManyDigits count) => .error (.tooManyDigits count)
  | .error .tooDeep => .error .tooDeep

def read (content : String) : Except Trouble Document := Value.document <$> readValue content

end ClientForge.Json
