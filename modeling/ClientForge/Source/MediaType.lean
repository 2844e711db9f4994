import ClientForge.Text.Numeral
import ClientForge.Text.Pieces

namespace ClientForge.MediaType

def partsFrom (part : List Char) (quoted : Bool) : List Char → List (List Char)
  | [] => [part.reverse]
  | c :: rest =>
    if c = ';' && !(quoted && !part.isEmpty) then part.reverse :: partsFrom [] false rest
    else partsFrom (c :: part) (if c = '"' && part.head? ≠ some '\\' then !quoted else quoted) rest

structure Parameter where
  name : List Char
  value : List Char
deriving DecidableEq, Repr

def parameter (part : List Char) : Parameter :=
  let name := part.takeWhile (· ≠ '=')
  ⟨(Text.strip name).map Char.toLower, Text.strip ((part.drop name.length).drop 1)⟩

def parameters (s : List Char) : List Parameter := (partsFrom [] false s).map parameter

def unescaped : List Char → List Char
  | '\\' :: c :: rest => if c = '\\' || c = '"' then c :: unescaped rest else '\\' :: unescaped (c :: rest)
  | c :: rest => c :: unescaped rest
  | [] => []

def unquoted (s : List Char) : List Char :=
  if 1 < s.length && s.head? = some '"' && s.getLast? = some '"' then unescaped (s.drop 1).dropLast
  else if 1 < s.length && s.head? = some '<' && s.getLast? = some '>' then (s.drop 1).dropLast
  else s

def unpercented : List Char → List Char
  | '%' :: a :: b :: rest =>
    match Text.digitValue? 16 a, Text.digitValue? 16 b with
    | some x, some y => Char.ofNat (16 * x + y) :: unpercented rest
    | _, _ => '%' :: unpercented (a :: b :: rest)
  | c :: rest => c :: unpercented rest
  | [] => []

def sectionOf? (name : List Char) : Option (List Char × Nat × Bool) :=
  let base := name.takeWhile (· ≠ '*')
  let number := ((name.drop base.length).drop 1).takeWhile Char.isDigit
  let after := (name.drop base.length).drop (1 + number.length)
  if base.isEmpty || base.length = name.length then none
  else if after = [] then some (base, ((Text.digits? 10 number).getD 0), number.isEmpty)
  else if after = ['*'] && !number.isEmpty then some (base, ((Text.digits? 10 number).getD 0), true)
  else none

def behindTicks (s : List Char) : List Char :=
  match Text.pieces '\'' s with
  | _ :: _ :: part :: rest => ['\''].intercalate (part :: rest)
  | _ => s

def joined (name : List Char) (ps : List Parameter) : Option (List Char) :=
  let sections := ps.filterMap fun p =>
    (sectionOf? p.name).bind fun (base, number, percented) =>
      if base = name then some (number, percented, unquoted p.value) else none
  let text := (sections.mergeSort fun a b => a.1 ≤ b.1).flatMap fun (_, percented, s) =>
    if percented then unpercented s else s
  if sections.isEmpty then none
  else some (if sections.any (·.2.1) then behindTicks text else text)

def value? (name : List Char) (s : List Char) : Option (List Char) :=
  let ps := parameters s
  match ps.find? (·.name = name) with
  | some p => some (unquoted p.value)
  | none => joined name ps.tail

def charset? (s : String) : Option String :=
  ((value? "charset".toList s.toList).filter fun name => name.all (·.toNat < 0x80)).map .ofList

end ClientForge.MediaType
