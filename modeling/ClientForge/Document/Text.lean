import ClientForge.Document.Basic
import ClientForge.Number.Decimal
import ClientForge.Text.Numeral
import ClientForge.Text.Quoted

namespace ClientForge

def escapeByte (quote : Char) (b : UInt8) : List Char :=
  let c := Char.ofNat b.toNat
  if c = '\\' || c = quote then ['\\', c]
  else if c = '\n' then ['\\', 'n']
  else if c = '\r' then ['\\', 'r']
  else if c = '\t' then ['\\', 't']
  else if b < 0x20 || 0x7F ≤ b then '\\' :: 'x' :: Text.hexDigits 2 b.toNat
  else [c]

def bytesLiteral (data : List UInt8) : String :=
  let quote := if data.contains 39 && !data.contains 34 then '"' else '\''
  .ofList ('b' :: quote :: (data.flatMap (escapeByte quote) ++ [quote]))

def Date.literal (d : Date) : String := s!"datetime.date({d.year}, {d.month}, {d.day})"

def offsetLiteral (minutes : Int) : String :=
  if minutes = 0 then "datetime.timezone.utc"
  else
    let days := Int.fdiv minutes 1440
    let seconds := Int.fmod minutes 1440 * 60
    let parts := (if days = 0 then [] else [s!"days={days}"]) ++ (if seconds = 0 then [] else [s!"seconds={seconds}"])
    "datetime.timezone(datetime.timedelta(" ++ ", ".intercalate parts ++ "))"

def Moment.literal (m : Moment) : String :=
  let numbers := [m.date.year, m.date.month, m.date.day, m.hour, m.minute]
    ++ (if m.second = 0 && m.micro = 0 then [] else [m.second]) ++ (if m.micro = 0 then [] else [m.micro])
  let offset := match m.offset with
    | none => ""
    | some o => ", tzinfo=" ++ offsetLiteral o
  "datetime.datetime(" ++ ", ".intercalate (numbers.map toString) ++ offset ++ ")"

def Scalar.literal : Scalar → String
  | .null => "None"
  | .bool b => if b then "True" else "False"
  | .int n => toString n
  | .real x => x.text
  | .text s => s.shown
  | .bytes data => bytesLiteral data
  | .date d => d.literal
  | .moment m => m.literal

def Scalar.display : Scalar → String
  | .text s => s
  | .date d => d.text
  | .moment m => m.text " "
  | s => s.literal

def Scalar.isWritable : Scalar → Bool
  | .int n => n.natAbs < Nat.pow 10 Text.maxDecimals
  | _ => true

namespace Document

mutual

def isWritable : Document → Bool
  | .scalar s => s.isWritable
  | .list items => itemsWritable items
  | .map entries => entriesWritable entries
  | .set members => members.all Scalar.isWritable
  | .pair a b => isWritable a && isWritable b
  | .knot _ whole => isWritable whole
  | .again _ => true

def itemsWritable : List Document → Bool
  | [] => true
  | d :: rest => isWritable d && itemsWritable rest

def entriesWritable : List (Scalar × Document) → Bool
  | [] => true
  | (k, d) :: rest => k.isWritable && isWritable d && entriesWritable rest

end

def dots : Document → String
  | .map _ => "\x7b...\x7d"
  | .pair _ _ => "(...)"
  | _ => "[...]"

mutual

def literalWithin (met : List (Nat × String)) : Document → String
  | .scalar s => s.literal
  | .list items => "[" ++ ", ".intercalate (itemLiterals met items) ++ "]"
  | .map entries => "\x7b" ++ ", ".intercalate (entryLiterals met entries) ++ "\x7d"
  | .set [] => "set()"
  | .set members => "\x7b" ++ ", ".intercalate (members.map Scalar.literal) ++ "\x7d"
  | .pair a b => "(" ++ literalWithin met a ++ ", " ++ literalWithin met b ++ ")"
  | .knot label whole =>
    match met.lookup label with
    | some dots => dots
    | none => literalWithin ((label, whole.dots) :: met) whole
  | .again label => (met.lookup label).getD "..."

def itemLiterals (met : List (Nat × String)) : List Document → List String
  | [] => []
  | d :: rest => literalWithin met d :: itemLiterals met rest

def entryLiterals (met : List (Nat × String)) : List (Scalar × Document) → List String
  | [] => []
  | (k, d) :: rest => (k.literal ++ ": " ++ literalWithin met d) :: entryLiterals met rest

end

def literal (d : Document) : String := d.literalWithin []

def display : Document → String
  | .scalar s => s.display
  | d => d.literal

def codeLiteral : Document → String
  | .text s => s.quoted
  | d => d.literal

def kindName : Document → String
  | .scalar .null => "NoneType"
  | .scalar (.bool _) => "bool"
  | .scalar (.int _) => "int"
  | .scalar (.real _) => "float"
  | .scalar (.text _) => "str"
  | .scalar (.bytes _) => "bytes"
  | .scalar (.date _) => "date"
  | .scalar (.moment _) => "datetime"
  | .list _ => "list"
  | .map _ => "dict"
  | .set _ => "set"
  | .pair _ _ => "tuple"
  | .knot _ whole => whole.kindName
  | .again _ => "object"

end Document

end ClientForge
