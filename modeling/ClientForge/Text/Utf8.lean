import ClientForge.Text.Numeral

namespace ClientForge.Text

inductive Utf8Reason
  | badStart
  | badContinuation
  | truncated
deriving DecidableEq, Repr

def Utf8Reason.message : Utf8Reason → String
  | .badStart => "invalid start byte"
  | .badContinuation => "invalid continuation byte"
  | .truncated => "unexpected end of data"

structure Utf8Fault where
  reason : Utf8Reason
  position : Nat
  length : Nat
  first : UInt8
deriving DecidableEq, Repr

def Utf8Fault.message (f : Utf8Fault) : String :=
  let place := if f.length = 1
    then s!"byte 0x" ++ .ofList (hexDigits 2 f.first.toNat) ++ s!" in position {f.position}"
    else s!"bytes in position {f.position}-{f.position + f.length - 1}"
  s!"'utf-8' codec can't decode {place}: {f.reason.message}"

def secondByteBounds (lead : UInt8) : UInt8 × UInt8 :=
  if lead = 0xE0 then (0xA0, 0xBF)
  else if lead = 0xED then (0x80, 0x9F)
  else if lead = 0xF0 then (0x90, 0xBF)
  else if lead = 0xF4 then (0x80, 0x8F)
  else (0x80, 0xBF)

def payload (b : UInt8) : Nat := b.toNat % 64

def isContinuation (b : UInt8) : Bool := 0x80 ≤ b && b ≤ 0xBF

def isSecond (lead b : UInt8) : Bool := (secondByteBounds lead).1 ≤ b && b ≤ (secondByteBounds lead).2

def decodeUtf8From (position : Nat) : List UInt8 → Except Utf8Fault (List Char)
  | [] => .ok []
  | b :: rest =>
    let fault reason length : Except Utf8Fault (List Char) := .error ⟨reason, position, length, b⟩
    if b < 0x80 then (Char.ofNat b.toNat :: ·) <$> decodeUtf8From (position + 1) rest
    else if b < 0xC2 || 0xF5 ≤ b then fault .badStart 1
    else match rest with
      | [] => fault .truncated 1
      | c :: rest =>
        if !isSecond b c then fault .badContinuation 1
        else if b < 0xE0 then
          (Char.ofNat (b.toNat % 32 * 64 + payload c) :: ·) <$> decodeUtf8From (position + 2) rest
        else match rest with
          | [] => fault .truncated 2
          | d :: rest =>
            if !isContinuation d then fault .badContinuation 2
            else if b < 0xF0 then
              (Char.ofNat ((b.toNat % 16 * 64 + payload c) * 64 + payload d) :: ·)
                <$> decodeUtf8From (position + 3) rest
            else match rest with
              | [] => fault .truncated 3
              | e :: rest =>
                if !isContinuation e then fault .badContinuation 3
                else
                  (Char.ofNat (((b.toNat % 8 * 64 + payload c) * 64 + payload d) * 64 + payload e) :: ·)
                    <$> decodeUtf8From (position + 4) rest

def decodeUtf8 (bytes : List UInt8) : Except Utf8Fault String := .ofList <$> decodeUtf8From 0 bytes

def decodeUtf8Leniently : Nat → List UInt8 → List Char
  | 0, _ => []
  | fuel + 1, bytes =>
    match decodeUtf8From 0 bytes with
    | .ok s => s
    | .error fault =>
      ((decodeUtf8From 0 (bytes.take fault.position)).toOption.getD []) ++
        '\ufffd' :: decodeUtf8Leniently fuel (bytes.drop (fault.position + fault.length))

def encodeUtf8 (s : String) : List UInt8 := s.toUTF8.toList

end ClientForge.Text
