import ClientForge.Address.Direction
import ClientForge.Address.Permitted
import ClientForge.Address.Punycode
import ClientForge.Address.Script
import ClientForge.Text.Unicode.Composition

namespace ClientForge.Address

inductive NameFault
  | illFormed
  | character
  | context
  | direction
deriving DecidableEq, Repr

namespace Label

def hyphen : Nat := 0x2d

def maxName : Nat := 254

def maxSent : Nat := 63

def codeMark : List Char := ['x', 'n', '-', '-']

def easternDigits : Text.Runs := [(0x660, 0x669)]

def persianDigits : Text.Runs := [(0x6f0, 0x6f9)]

def isSilencer (n : Nat) : Bool := Text.combiningClass n = 9

def reaches (runs : Text.Runs) (s : List Nat) : Bool := (s.dropWhile acrossRuns.holds).head?.any runs.holds

def rule? (n : Nat) : Option (List Nat → List Nat → Bool) :=
  if n = 0x200c then some fun before after =>
    before.head?.any isSilencer || reaches forwardRuns before && reaches backwardRuns after
  else if n = 0x200d then some fun before _ => before.head?.any isSilencer
  else if n = 0xb7 then some fun before after => before.head? = some 0x6c && after.head? = some 0x6c
  else if n = 0x375 then some fun _ after => after.head?.any greekRuns.holds
  else if n = 0x5f3 || n = 0x5f4 then some fun before _ => before.head?.any hebrewRuns.holds
  else if n = 0x30fb then some fun before after => (before ++ after).any japaneseRuns.holds
  else if easternDigits.holds n then some fun before after => !(before ++ after).any persianDigits.holds
  else if persianDigits.holds n then some fun before after => !(before ++ after).any easternDigits.holds
  else none

def checkAfter (before : List Nat) : List Nat → Except NameFault Unit
  | [] => .ok ()
  | n :: rest =>
    if isPermitted n then checkAfter (n :: before) rest
    else match rule? n with
      | none => .error .character
      | some rule => if rule before rest then checkAfter (n :: before) rest else .error .context

/-- A label with anything from right to left begins with a letter of that direction, has none of the other direction,
ends in a letter or a digit apart from marks, and has digits of one kind. -/
def isDirected (s : List Direction) : Bool :=
  if s.contains .right || s.contains .arabicDigit then
    s.head? = some .right && !s.contains .left && !(s.contains .digit && s.contains .arabicDigit) &&
      (s.reverse.find? (· ≠ .mark)).any (· ≠ .neutral)
  else true

def check (s : List Nat) : Except NameFault Unit := do
  if s.isEmpty || maxName < s.length || !Text.isComposed s then throw .illFormed
  if (s.drop 2).take 2 = [hyphen, hyphen] || s.head? = some hyphen || s.getLast? = some hyphen then throw .illFormed
  if s.head?.any Text.isMark then throw .illFormed
  checkAfter [] s
  if !isDirected (s.map direction) then throw .direction

def checkSent (s : List Char) : Except NameFault Unit :=
  let s := s.map Char.toLower
  if codeMark.isPrefixOf s then
    let code := s.drop codeMark.length
    if code.isEmpty || code.getLast? = some '-' then .error .illFormed
    else match Punycode.decode? code with
      | none => .error .illFormed
      | some label => check label
  else check (s.map Char.toNat)

def sent (s : List Char) : Except NameFault (List Char) := do
  let label ← if s.all (·.toNat < 0x80) then checkSent s *> pure s
    else check (s.map Char.toNat) *> pure (codeMark ++ Punycode.encode (s.map Char.toNat))
  if maxSent < label.length then throw .illFormed
  return label

end Label

end ClientForge.Address
