namespace ClientForge.Text

def sextet? (c : Char) : Option Nat :=
  if 'A' ≤ c && c ≤ 'Z' then some (c.toNat - 65)
  else if 'a' ≤ c && c ≤ 'z' then some (c.toNat - 71)
  else if '0' ≤ c && c ≤ '9' then some (c.toNat + 4)
  else if c = '+' then some 62
  else if c = '/' then some 63
  else none

def decodeBase64From (held left pads : Nat) : List Char → Option (List UInt8)
  | [] => if held = 0 then some [] else none
  | '=' :: rest =>
    if 2 ≤ held && 4 ≤ held + pads + 1 then some []
    else decodeBase64From held left (if 2 ≤ held then pads + 1 else pads) rest
  | c :: rest =>
    match sextet? c with
    | none => decodeBase64From held left pads rest
    | some v =>
      match held with
      | 0 => decodeBase64From 1 v 0 rest
      | 1 => (UInt8.ofNat (left * 4 + v / 16) :: ·) <$> decodeBase64From 2 (v % 16) 0 rest
      | 2 => (UInt8.ofNat (left * 16 + v / 4) :: ·) <$> decodeBase64From 3 (v % 4) 0 rest
      | _ => (UInt8.ofNat (left * 64 + v) :: ·) <$> decodeBase64From 0 0 0 rest

def decodeBase64 (s : List Char) : Option (List UInt8) := decodeBase64From 0 0 0 s

end ClientForge.Text
