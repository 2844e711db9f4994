import ClientForge.Document.Access
import ClientForge.Document.Reference
import ClientForge.Schema.Basic

/-!
Schemas as documents describe them. A reference comes before everything else, then fixed values, then
compositions, and last what is said of the type.
-/

namespace ClientForge.Schema

def referenceName (d : Document) : Except DescriptionFault String :=
  match d with
  | .scalar (.text target) =>
    match schemaReferenceStart.toList.isPrefixOf? target.toList with
    | some rest => .ok (.ofList (Pointer.unescape rest))
    | none => .error (.schemaReference d.literal)
  | _ => .error (.schemaReference d.literal)

def declaredTypes (entries : Entries) : Except Malformed (List String) :=
  let found := Document.field entries "type"
  match found.opened with
  | .null => .ok []
  | .list items => items.mapM Document.displayed
  | _ => do return [← found.displayed]

def looseMarks (entries : Entries) (types : List String) : Marks where
  nullable := (Document.field entries "nullable").isGiven || types.contains "null"
  description := .ofDocument (Document.field entries "description")

def checkMarks (record : RecordKind) (entries : Entries) (marks : Marks) : Except Malformed Marks :=
  match (Document.field entries "description").optionalText? with
  | some description => .ok ⟨marks.nullable, .ofText? description⟩
  | none => .error (.rejected record [.description])

def readEnum (marks : Marks) (entries : Entries) (values : List Document) : Except Malformed Schema := do
  return .enum (← checkMarks .enumSchema entries marks) values

def readPrimitive (marks : Marks) (entries : Entries) (type : PrimitiveType) : Except Malformed Schema :=
  match (Document.field entries "description").optionalText?, (Document.field entries "format").optionalText? with
  | some description, some format => .ok (.primitive ⟨marks.nullable, .ofText? description⟩ type format)
  | description, format =>
    .error (.rejected .primitiveSchema
      ((if description.isNone then [.description] else []) ++ if format.isNone then [.format] else []))

inductive TypedShape
  | object
  | array
  | primitive (type : PrimitiveType)
  | untyped

def typedShape (entries : Entries) (type : Option String) : TypedShape :=
  let holds := Entries.has entries
  if type = some "object" || (type.isNone && (holds "properties" || holds "additionalProperties")) then .object
  else if type = some "array" || (type.isNone && holds "items") then .array
  else match type.bind PrimitiveType.ofName? with
    | some type => .primitive type
    | none => .untyped

def insertProperty (properties : List (String × Schema)) (name : String) (s : Schema) : List (String × Schema) :=
  match properties with
  | [] => [(name, s)]
  | p :: rest => if p.1 = name then (name, s) :: rest else p :: insertProperty rest name s

/-! The parts of a mapping are read by `read`, which stands for the whole reader one level further down. -/

section Mapping

variable (read : Document → Except Failure Schema)

def ofMembers (d : Document) : Except Failure (List Schema) := do (← d.givenItems).mapM read

def ofProperties (entries : Entries) : Except Failure (List (String × Schema)) :=
  entries.foldlM (fun properties (k, d) => do
    return insertProperty properties (← (Document.scalar k).displayed) (← read d)) []

def ofAdditional (d : Document) : Except Failure (Option Schema) :=
  match d.opened with
  | .bool true => .ok (some anything)
  | .map _ => some <$> read d
  | _ => .ok none

def requiredNames (entries : Entries) : Except Malformed (List String) := do
  (← (Document.field entries "required").givenItems).mapM Document.displayed

def ofObject (marks : Marks) (entries : Entries) : Except Failure Schema := do
  let additional ← ofAdditional read (Document.field entries "additionalProperties")
  let properties ← ofProperties read (← (Document.field entries "properties").givenEntries)
  let required ← requiredNames entries
  return .object marks properties required additional

def ofTyped (marks : Marks) (entries : Entries) (type : Option String) : Except Failure Schema :=
  match typedShape entries type with
  | .object => ofObject read marks entries
  | .array => do
    let item ← read (Document.field entries "items")
    return .array (← checkMarks .arraySchema entries marks) item
  | .primitive type => readPrimitive marks entries type
  | .untyped => do return .untyped (← checkMarks .untypedSchema entries marks)

def ofTypes (marks : Marks) (entries : Entries) (types : List String) : Except Failure Schema :=
  match types with
  | [] => ofTyped read marks entries none
  | [type] => ofTyped read marks entries (some type)
  | types => do
    let members ← types.mapM fun type => ofTyped read ⟨false, marks.description⟩ entries (some type)
    return .union (← checkMarks .anyOfSchema entries marks) .anyOf members

def ofAllOf (marks : Marks) (entries : Entries) : Except Failure Schema := do
  let members ← ofMembers read (Document.field entries "allOf")
  let own ← if Entries.has entries "properties" then (fun o => [o]) <$> ofObject read ⟨false, .absent⟩ entries
    else pure []
  return .allOf (← checkMarks .allOfSchema entries marks) (members ++ own)

def ofUnion (record : RecordKind) (kind : UnionKind) (marks : Marks) (entries : Entries) (d : Document) :
    Except Failure Schema := do
  let members ← ofMembers read d
  return .union (← checkMarks record entries marks) kind members

def ofMapping (entries : Entries) : Except Failure Schema := do
  let types ← declaredTypes entries
  let marks := looseMarks entries types
  let field := Document.field entries
  let holds := Entries.has entries
  if holds "$ref" then
    if !(field "$ref").isWritable then throw (.malformed .tooManyDigits)
    let name ← referenceName (field "$ref")
    return .ref (← checkMarks .referenceSchema entries marks) name
  else if holds "enum" then readEnum marks entries (← (field "enum").givenItems)
  else if holds "const" then readEnum marks entries [field "const"]
  else if holds "allOf" then ofAllOf read marks entries
  else if holds "oneOf" then ofUnion read .oneOfSchema .oneOf marks entries (field "oneOf")
  else if holds "anyOf" then ofUnion read .anyOfSchema .anyOf marks entries (field "anyOf")
  else ofTypes read marks entries (types.filter (· ≠ "null"))

end Mapping

/-- Reads a value with at most `fuel` levels inside one another; a value without entries describes nothing. One that
holds itself is not read again inside of itself, `met` being the labels that it is read inside of. -/
def ofDocumentWithin : Nat → List Nat → Document → Except Failure Schema
  | _, _, .map [] => .ok anything
  | fuel + 1, met, .map entries => ofMapping (ofDocumentWithin fuel met) entries
  | fuel + 1, met, .knot label whole =>
    if label ∈ met then .error (.malformed .endless)
    else match (Document.knot label whole).opened with
      | .map entries => ofMapping (ofDocumentWithin fuel (label :: met)) entries
      | _ => .ok anything
  | _, _, _ => .ok anything

/-- The levels that a value may have: at each knot on a way into it all of them may come once more. -/
def levels (d : Document) : Nat := (d.knots + 1) * d.depth

def ofDocument : Document → Except Failure Schema
  | .map [] => .ok anything
  | .map entries => ofMapping (fun part => ofDocumentWithin (levels part) [] part) entries
  | d => ofDocumentWithin (levels d) [] d

end ClientForge.Schema
