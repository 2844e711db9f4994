import ClientForge.Document.Text

/-!
Values of JSON, whose texts may hold half of a surrogate pair, and texts as they are written in JSON.
-/

namespace ClientForge.Json

inductive Value
  | null
  | bool (b : Bool)
  | int (n : Int)
  | real (x : Binary64)
  | text (s : List Text.CodePoint)
  | list (items : List Value)
  | map (members : List (List Text.CodePoint × Value))
deriving Inhabited, Repr

abbrev Members := List (List Text.CodePoint × Value)

namespace Members

def get? (members : Members) (name : String) : Option Value :=
  (members.find? fun e => e.1 = Text.points name).map (·.2)

def insert (members : Members) (name : List Text.CodePoint) (v : Value) : Members :=
  match members with
  | [] => [(name, v)]
  | e :: rest => if e.1 = name then (name, v) :: rest else e :: insert rest name v

end Members

namespace Value

def isNull : Value → Bool
  | .null => true
  | _ => false

def isGiven : Value → Bool
  | .null => false
  | .bool b => b
  | .int n => n ≠ 0
  | .real x => !x.isZero
  | .text s => !s.isEmpty
  | .list items => !items.isEmpty
  | .map members => !members.isEmpty

mutual

/-- The document that a value is, each half of a pair being the replacement character. -/
def document : Value → Document
  | .null => .null
  | .bool b => .bool b
  | .int n => .int n
  | .real x => .real x
  | .text s => .text (Text.ofPoints s)
  | .list items => .list (documents items)
  | .map members => .map (Entries.ofList (entries members))

def documents : List Value → List Document
  | [] => []
  | v :: rest => document v :: documents rest

def entries : List (List Text.CodePoint × Value) → List (Scalar × Document)
  | [] => []
  | (name, v) :: rest => (.text (Text.ofPoints name), document v) :: entries rest

end

mutual

def literal : Value → String
  | .null => Scalar.null.literal
  | .bool b => (Scalar.bool b).literal
  | .int n => (Scalar.int n).literal
  | .real x => (Scalar.real x).literal
  | .text s => .ofList (Text.shownPoints s)
  | .list items => "[" ++ ", ".intercalate (itemLiterals items) ++ "]"
  | .map members => "\x7b" ++ ", ".intercalate (memberLiterals members) ++ "\x7d"

def itemLiterals : List Value → List String
  | [] => []
  | v :: rest => literal v :: itemLiterals rest

def memberLiterals : List (List Text.CodePoint × Value) → List String
  | [] => []
  | (name, v) :: rest => (.ofList (Text.shownPoints name) ++ ": " ++ literal v) :: memberLiterals rest

end

def display : Value → List Text.CodePoint
  | .text s => s
  | v => Text.points v.literal

end Value

def escape (c : Char) : List Char :=
  if c = '"' || c = '\\' then ['\\', c]
  else if c = '\n' then ['\\', 'n']
  else if c = '\r' then ['\\', 'r']
  else if c = '\t' then ['\\', 't']
  else if c = '\x08' then ['\\', 'b']
  else if c = '\x0c' then ['\\', 'f']
  else if c.toNat < 0x20 then '\\' :: 'u' :: Text.hexDigits 4 c.toNat
  else [c]

def quoted (s : String) : String := .ofList ('"' :: (s.toList.flatMap escape ++ ['"']))

end ClientForge.Json
