import ClientForge.Code.Basic
import ClientForge.Code.ModelClass
import ClientForge.Naming.Identifier
import ClientForge.Naming.Symbol

/-!
Schemas as types of the generated code. An object becomes a class that is named for the place where it stands;
everything else becomes a type expression. What a type needs goes with it: the names of the schemas it refers to,
the classes made for it, those it inherits from or is made of before itself, and the library names.
-/

namespace ClientForge

/-- `runtimeRefs` are those of the references that are needed when a value is checked, and not only when the classes
are completed. -/
structure Compiled where
  type : TypeExpr
  refs : List String
  models : List ClassDef
  symbols : List String
  runtimeRefs : List String
deriving Inhabited, Repr

namespace Compiled

def plain (type : TypeExpr) (symbols : List String) : Compiled := ⟨type, [], [], symbols, []⟩

def anything : Compiled := plain .any ["Any"]

def combine (type : TypeExpr) (parts : List Compiled) (symbols : List String) (models : List ClassDef)
    (runtimeRefs : List String) : Compiled where
  type := type
  refs := (parts.flatMap (·.refs)).eraseDups
  models := parts.flatMap (·.models) ++ models
  symbols := (parts.flatMap (·.symbols) ++ symbols).eraseDups
  runtimeRefs := (parts.flatMap (·.runtimeRefs) ++ runtimeRefs).eraseDups

def orNone (c : Compiled) : Compiled :=
  if c.type.takesNone then c
  else { c with type := .optional c.type, symbols := (c.symbols ++ ["Optional"]).eraseDups }

end Compiled

namespace Schema

def formatType? (format : String) : Option String :=
  [("date-time", "datetime"), ("date", "date"), ("email", "EmailStr"), ("uri", "AnyUrl"), ("url", "AnyUrl"),
    ("uuid", "UUID"), ("binary", "bytes")].lookup format

def primitiveTypeName (type : PrimitiveType) (format : Option String) : String :=
  match type with
  | .number => "float"
  | .integer => "float"
  | .boolean => "bool"
  | .string => (format.bind formatType?).getD "str"

def compilePrimitive (type : PrimitiveType) (format : Option String) : Compiled :=
  let name := primitiveTypeName type format
  .plain (.named name) (if name ∈ ["str", "float", "bool", "bytes"] then [] else [name])

def compileEnum (values : List Document) : Except Failure Compiled :=
  if values.isEmpty then .ok .anything
  else if values.all Document.isWritable then .ok (.plain (.literal values) ["Literal"])
  else .error (.malformed .tooManyDigits)

def compileRef (r : Registry) (name : String) : Except Failure Compiled :=
  match r.get? name with
  | some e => .ok ⟨.named e.symbol, [name], [], [], []⟩
  | none => .error (.reference name)

def classDoc (s : Description) : Except Failure (Option String) :=
  match s with
  | .absent => .ok none
  | .text s => .ok (some s)
  | .unchecked d => match d.text? with
    | some s => .ok (some s)
    | none => .error (.malformed (.rejected .classDefinition [.doc]))

def freeClassName (r : Registry) (hint : String) : String :=
  Naming.free "Model" (r.symbols ++ Naming.reservedSymbols) hint

def className (r : Registry) (hint : String) (top : Bool) : String := if top then hint else freeClassName r hint

def fieldOf (r : Registry) (required : List String) (before : List FieldDef) (property : String) (type : TypeExpr) :
    FieldDef :=
  let name := Naming.fieldName property
  let name := if r.symbols.contains name then name ++ "_" else name
  let name := Naming.unique name (before.map (·.name)) "_"
  let isRequired := required.contains property
  { name := name
    type := if isRequired then type else type.orNone
    default := if isRequired then none else some "None"
    dataName := if name = property then none else some property }

def fieldSymbols (required : List String) (property : String) (type : TypeExpr) (field : FieldDef) : List String :=
  (if required.contains property || type.takesNone then [] else ["Optional"])
    ++ if field.dataName.isSome then ["Field"] else []

structure ClassDraft where
  hints : List String
  parts : List Compiled
  fields : List FieldDef
  symbols : List String

namespace ClassDraft

def start : ClassDraft := ⟨[], [], [], ["BaseModel"]⟩

def hint (draft : ClassDraft) (name property : String) : String :=
  Naming.unique (name ++ Naming.pascalCase property) draft.hints ""

def add (draft : ClassDraft) (r : Registry) (required : List String) (hint property : String) (c : Compiled) :
    ClassDraft :=
  let field := fieldOf r required draft.fields property c.type
  ⟨draft.hints ++ [hint], draft.parts ++ [c], draft.fields ++ [field],
    draft.symbols ++ fieldSymbols required property c.type field⟩

/-- Finishes the class; `extra` is the type of further properties, and `isOpen` says that there may be any. -/
def finish (draft : ClassDraft) (name : String) (doc : Option String) (isOpen : Bool) (extra : Option Compiled) :
    Compiled :=
  let config := (if draft.fields.any (·.dataName.isSome) then ["populate_by_name=True"] else [])
    ++ if isOpen then ["extra=\"allow\""] else []
  let model : ClassDef := ⟨name, ["BaseModel"], doc, config, draft.fields, extra.map fun c => .dict c.type⟩
  .combine (.named name) (draft.parts ++ extra.toList)
    (draft.symbols ++ if config.isEmpty then [] else ["ConfigDict"]) [model] []

end ClassDraft

/-- An intersection of several types: a class that inherits from all if they are classes, else the first one with
checks for the others. -/
def combineAll (r : Registry) (members : List Schema) (description : Description) (name : String)
    (parts : List Compiled) : Except Failure Compiled :=
  if (constraining members).all r.isModel then do
    let doc ← classDoc description
    let model : ClassDef := ⟨name, (parts.map (·.type.text)).eraseDups, doc, [], [], none⟩
    return .combine (.named name) parts [] [model] []
  else match parts with
    | [] => .ok .anything
    | first :: others =>
      .ok (.combine (.checked first.type (others.map (·.type))) parts ["Annotated", "BeforeValidator", "TypeAdapter"]
        [] (others.flatMap (·.refs)).eraseDups)

def combineAny (parts : List Compiled) : Compiled :=
  match TypeExpr.distinct (parts.map (·.type)) with
  | [type] => .combine type parts [] [] []
  | types => .combine (.union types) parts ["Union"] [] []

def markNullable (nullable : Bool) (c : Compiled) : Compiled := if nullable then c.orNone else c

mutual

/-- The type of a schema that stands at the place `hint`; `top` says that it is a named schema itself. -/
def compileAt (r : Registry) : Schema → String → Bool → Except Failure Compiled
  | .ref m name, _, _ => markNullable m.nullable <$> compileRef r name
  | .object m properties required additional, hint, top => do
    let name := className r hint top
    let draft ← compileProperties r required name .start properties
    let extra ← compileAdditional r (name ++ "Value") additional
    let doc ← classDoc m.description
    return markNullable m.nullable (draft.finish name doc additional.isSome extra)
  | .array m item, hint, _ => do
    let c ← compileAt r item (hint ++ "Item") false
    return markNullable m.nullable { c with type := .list c.type }
  | .enum m values, _, _ => markNullable m.nullable <$> compileEnum values
  | .allOf m members, hint, top => do
    let several := 1 < (constraining members).length
    let parts ← compileMembers r (!·.isUntyped) (fun k => if several then s!"{hint}Part{k}" else hint)
      (top && !several) 1 members
    let c ← match parts with
      | [] => pure .anything
      | [c] => pure c
      | parts => combineAll r members m.description (className r hint top) parts
    return markNullable m.nullable c
  | .union m _ members, hint, top => do
    let several := 1 < members.length
    let parts ← compileMembers r (fun _ => true) (fun k => if several then s!"{hint}Option{k}" else hint)
      (top && !several) 1 members
    let c := match parts with
      | [] => .anything
      | [c] => c
      | parts => combineAny parts
    return markNullable m.nullable c
  | .primitive m type format, _, _ => .ok (markNullable m.nullable (compilePrimitive type format))
  | .untyped m, _, _ => .ok (markNullable m.nullable .anything)

def compileProperties (r : Registry) (required : List String) (name : String) (draft : Schema.ClassDraft) :
    List (String × Schema) → Except Failure Schema.ClassDraft
  | [] => .ok draft
  | (property, s) :: rest => do
    let hint := draft.hint name property
    let c ← compileAt r s hint false
    compileProperties r required name (draft.add r required hint property c) rest

def compileAdditional (r : Registry) (hint : String) : Option Schema → Except Failure (Option Compiled)
  | none => .ok none
  | some s => if s.isUntyped then .ok none else some <$> compileAt r s hint false

def compileMembers (r : Registry) (counts : Schema → Bool) (hint : Nat → String) (top : Bool) (k : Nat) :
    List Schema → Except Failure (List Compiled)
  | [] => .ok []
  | s :: rest =>
    if counts s then do
      let c ← compileAt r s (hint k) top
      return c :: (← compileMembers r counts hint top (k + 1) rest)
    else compileMembers r counts hint top k rest

end

def compile (r : Registry) (s : Schema) (hint : String) : Except Failure Compiled := compileAt r s hint false

end Schema

namespace NamedSchema

def wrapper (symbol : String) (doc : Option String) (type : TypeExpr) : ClassDef :=
  ⟨symbol, ["RootModel"], doc, [], [⟨"root", type, none, none⟩], none⟩

/-- The classes of a named schema, the last of which has its name. Where the type is no class of that name it is
wrapped, and a type that is nothing but the name itself is taken for any value. -/
def compile (r : Registry) (e : NamedSchema) : Except Failure Compiled := do
  let c ← Schema.compileAt r e.schema e.symbol true
  if c.models.any (·.name == e.symbol) then return { c with type := .named e.symbol }
  else
    let doc ← Schema.classDoc e.schema.marks.description
    if c.type.text = e.symbol then
      return { type := .named e.symbol, refs := c.refs.filter (· ≠ e.name)
               models := c.models ++ [wrapper e.symbol doc .any]
               symbols := (c.symbols ++ ["RootModel", "Any"]).eraseDups
               runtimeRefs := c.runtimeRefs.filter (· ≠ e.name) }
    else
      return { type := .named e.symbol, refs := c.refs, models := c.models ++ [wrapper e.symbol doc c.type]
               symbols := (c.symbols ++ ["RootModel"]).eraseDups, runtimeRefs := c.runtimeRefs }

end NamedSchema

end ClientForge
