namespace ClientForge.Json

inductive Reason
  | byteOrderMark
  | value
  | name
  | colon
  | comma
  | extra
  | openText
  | control
  | badEscape
  | badCodePoint
deriving DecidableEq, Repr

def Reason.message : Reason → String
  | .byteOrderMark => "Unexpected UTF-8 BOM (decode using utf-8-sig)"
  | .value => "Expecting value"
  | .name => "Expecting property name enclosed in double quotes"
  | .colon => "Expecting ':' delimiter"
  | .comma => "Expecting ',' delimiter"
  | .extra => "Extra data"
  | .openText => "Unterminated string starting at"
  | .control => "Invalid control character at"
  | .badEscape => "Invalid \\escape"
  | .badCodePoint => "Invalid \\uXXXX escape"

structure Fault where
  reason : Reason
  line : Nat
  column : Nat
  position : Nat
deriving DecidableEq, Repr

def Fault.message (f : Fault) : String :=
  f.reason.message ++ s!": line {f.line} column {f.column} (char {f.position})"

def Fault.after (reason : Reason) (text : List Char) (position : Nat) : Fault :=
  let before := text.take position
  ⟨reason, before.count '\n' + 1, (before.reverse.takeWhile (· ≠ '\n')).length + 1, position⟩

inductive Trouble
  | fault (f : Fault)
  | tooManyDigits (count : Nat)
  | tooDeep
deriving DecidableEq, Repr

end ClientForge.Json
