import ClientForge.Failure

namespace ClientForge

def Entries.mappings (entries : Entries) : List (Scalar × Entries) :=
  entries.filterMap fun (k, d) =>
    match d.opened with
    | .map fields => some (k, fields)
    | _ => none

namespace Document

def entries (d : Document) : Except Malformed Entries :=
  match d.opened with
  | .map entries => .ok entries
  | _ => .error .notMapping

def givenEntries (d : Document) : Except Malformed Entries := if d.isGiven then d.entries else .ok []

def items (d : Document) : Except Malformed (List Document) :=
  match d.opened with
  | .list items => .ok items
  | .map entries => .ok (entries.map fun e => .scalar e.1)
  | .set members => .ok (members.map .scalar)
  | .pair a b => .ok [a, b]
  | .scalar (.text s) => .ok (s.toList.map fun c => .text (.ofList [c]))
  | .scalar (.bytes data) => .ok (data.map fun b => .int b.toNat)
  | _ => .error .notIterable

def givenItems (d : Document) : Except Malformed (List Document) := if d.isGiven then d.items else .ok []

def text? : Document → Option String
  | .scalar (.text s) => some s
  | .scalar (.bytes data) => (Text.decodeUtf8 data).toOption
  | _ => none

def optionalText? : Document → Option (Option String)
  | .scalar .null => some none
  | d => (text? d).map some

def key : Document → Except Malformed (List Key)
  | .scalar s => .ok [s.key]
  | .pair a b => do return (← a.key) ++ (← b.key)
  | .knot _ whole => whole.key
  | _ => .error .unhashableKey

def keyMentions (k : Scalar) (part : String) : Except Malformed Bool :=
  match k with
  | .text s => .ok (s.mentions part)
  | _ => .error .keyNotText

def displayed (d : Document) : Except Malformed String :=
  if d.isWritable then .ok d.display else .error .tooManyDigits

end Document

end ClientForge
