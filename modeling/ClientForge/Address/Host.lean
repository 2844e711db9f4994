import ClientForge.Address.Label
import ClientForge.Text.Numeral
import ClientForge.Text.Pieces
import ClientForge.Text.Unicode.Lower

/-!
Hosts as an address has them and as they are sent, called by a number or by a name, and which addresses a request can
be made for.
-/

namespace ClientForge.Address.Numeric

def looksDecimal (s : List Char) : Bool :=
  let runs := Text.pieces ' ' (s.map fun c => if c.isDigit then c else ' ')
  runs.all (!·.isEmpty) && runs.length ≤ 4 && 4 ≤ runs.length + runs.foldr (fun run n => (run.length - 1) / 2 + n) 0

def isByte (s : List Char) : Bool :=
  s.all Char.isDigit && s.length ≤ 3 && (s.length = 1 || s.head? ≠ some '0') && (Text.digits? 10 s).any (· ≤ 255)

def isDecimal (s : List Char) : Bool :=
  let parts := Text.pieces '.' s
  parts.length = 4 && parts.all isByte

def isGroup (s : List Char) : Bool :=
  !s.isEmpty && s.length ≤ 4 && s.all fun c => c.isDigit || 'a' ≤ c.toLower && c.toLower ≤ 'f'

def groups? (s : List Char) : Option (List (List Char)) :=
  let parts := Text.pieces ':' s
  let last := parts.getLast?.getD []
  if !last.contains '.' then some parts
  else if isDecimal last then some (parts.dropLast ++ [['0'], ['0']])
  else none

def besideGap (parts : List (List Char)) : List (List Char) := if parts = [[]] then [] else parts

def isGrouped (s : List Char) : Bool :=
  match groups? s with
  | none => false
  | some parts =>
    match (parts.drop 1).dropLast.findIdx? (·.isEmpty) with
    | none => parts.length = 8 && parts.all isGroup
    | some i =>
      let shown := besideGap (parts.take (i + 1)) ++ besideGap (parts.drop (i + 2))
      shown.length ≤ 7 && shown.all isGroup

/-- Whether a text is eight numbers and perhaps, behind a percent sign, a zone in which they count. -/
def isZoned (s : List Char) : Bool :=
  let address := s.takeWhile (· ≠ '%')
  let zone := (s.drop address.length).drop 1
  isGrouped address && (address.length = s.length || !zone.isEmpty && !zone.contains '%')

end ClientForge.Address.Numeric

namespace ClientForge.Address.Name

def points : List Char := ['.', '\u3002', '\uff0e', '\uff61']

def endsInPoint (s : List Char) : Bool := s.getLast? = some '.'

def labels (s : List Char) : List (List Char) :=
  if endsInPoint s then (Text.pieces '.' s).dropLast else Text.pieces '.' s

def checkSent (s : List Char) : Except NameFault Unit :=
  if Label.maxName < s.length then .error .illFormed else (labels s).forM Label.checkSent

def sent (s : List Char) : Except NameFault (List Char) := do
  if Label.maxName < s.length then throw .illFormed
  let s := s.map fun c => if points.contains c then '.' else c
  let labels ← (labels s).mapM Label.sent
  let name := ['.'].intercalate (if endsInPoint s then labels ++ [[]] else labels)
  if (if endsInPoint s then Label.maxName else Label.maxName - 1) < name.length then throw .illFormed
  return name

end ClientForge.Address.Name

namespace ClientForge.Address

inductive AddressFault
  | illFormed
  | name (fault : NameFault)
  | zone
deriving DecidableEq, Repr

namespace Host

def isAscii (s : List Char) : Bool := s.all (·.toNat < 0x80)

def signs : List Char := "-._~!$&'()*+,;=\"`\x7b\x7d%|\\".toList

def quotedChar (c : Char) : List Char :=
  if c.isAlphanum || signs.contains c then [c] else '%' :: (Text.hexDigits 2 c.toNat).map Char.toUpper

def bracketed? (s : List Char) : Option (List Char) :=
  if 1 < s.length && s.head? = some '[' && s.getLast? = some ']' then some (s.drop 1).dropLast else none

def sent (s : List Char) : Except AddressFault (List Char) :=
  if Numeric.looksDecimal s then
    if Numeric.isDecimal s then .ok s else .error .illFormed
  else match bracketed? s with
    | some inner => if Numeric.isZoned inner then .ok inner else .error .illFormed
    | none =>
      if isAscii s then .ok ((s.map Char.toLower).flatMap quotedChar)
      else (Name.sent ((Text.lowered (s.map Char.toNat)).map Char.ofNat)).mapError fun _ => .illFormed

def check (s : List Char) : Except AddressFault Unit := do
  if Label.codeMark.isPrefixOf s then (Name.checkSent s).mapError .name
  if !isAscii s then throw .zone

end Host

structure Authority where
  host : List Char
  port : List Char
deriving DecidableEq, Repr

namespace Authority

def withoutUser (s : List Char) : List Char := (s.reverse.takeWhile (· ≠ '@')).reverse

def hostLength (s : List Char) : Nat :=
  if s.head? = some '[' && s.contains ']' then s.length - (s.reverse.takeWhile (· ≠ ']')).length
  else (s.takeWhile (· ≠ ':')).length

def ofText (s : List Char) : Authority :=
  let s := withoutUser s
  let rest := s.drop (hostLength s)
  ⟨s.take (hostLength s), if rest.head? = some ':' then rest.tail else rest⟩

def ofAddress (s : List Char) : Authority :=
  ofText (((s.dropWhile (· ≠ '/')).drop 2).takeWhile fun c => c ≠ '/' && c ≠ '?' && c ≠ '#')

def hasNumber (a : Authority) : Bool :=
  a.port.isEmpty || (Text.readInt? 10 a.port).isSome && Text.decimalCount a.port ≤ Text.maxDecimals

end Authority

def maxLength : Nat := 65536

def isControl (c : Char) : Bool := c.toNat < 0x20 || c.toNat = 0x7f

def check (address : String) : Except AddressFault Unit := do
  let s := address.toList
  if maxLength < s.length || s.any isControl then throw .illFormed
  let authority := Authority.ofAddress s
  let host ← Host.sent authority.host
  if !authority.hasNumber then throw .illFormed
  Host.check host

end ClientForge.Address
