import ClientForge.Document.Basic

namespace ClientForge

inductive PrimitiveType
  | string
  | number
  | integer
  | boolean
deriving DecidableEq, Repr

namespace PrimitiveType

def name : PrimitiveType → String
  | .string => "string"
  | .number => "number"
  | .integer => "integer"
  | .boolean => "boolean"

def ofName? (name : String) : Option PrimitiveType :=
  [PrimitiveType.string, .number, .integer, .boolean].find? (·.name = name)

end PrimitiveType

inductive UnionKind
  | oneOf
  | anyOf
deriving DecidableEq, Repr

/-- The description of a schema. That of an object may be anything until a class is made of it. -/
inductive Description
  | absent
  | text (s : String)
  | unchecked (d : Document)
deriving Inhabited, Repr

namespace Description

def ofText? : Option String → Description
  | none => .absent
  | some s => .text s

def ofDocument : Document → Description
  | .null => .absent
  | .text s => .text s
  | d => .unchecked d

end Description

structure Marks where
  nullable : Bool
  description : Description
deriving Inhabited, Repr

inductive Schema
  | ref (marks : Marks) (name : String)
  | object (marks : Marks) (properties : List (String × Schema)) (required : List String)
      (additional : Option Schema)
  | array (marks : Marks) (item : Schema)
  | enum (marks : Marks) (values : List Document)
  | allOf (marks : Marks) (members : List Schema)
  | union (marks : Marks) (kind : UnionKind) (members : List Schema)
  | primitive (marks : Marks) (type : PrimitiveType) (format : Option String)
  | untyped (marks : Marks)
deriving Inhabited, Repr

namespace Schema

def marks : Schema → Marks
  | .ref m _ => m
  | .object m _ _ _ => m
  | .array m _ => m
  | .enum m _ => m
  | .allOf m _ => m
  | .union m _ _ => m
  | .primitive m _ _ => m
  | .untyped m => m

def nullable (s : Schema) : Bool := s.marks.nullable

def anything : Schema := .untyped ⟨false, .absent⟩

def isUntyped : Schema → Bool
  | .untyped _ => true
  | _ => false

mutual

def mentioned : Schema → List String
  | .ref _ name => [name]
  | .object _ properties _ additional => mentionedInProperties properties ++ mentionedInAdditional additional
  | .array _ item => mentioned item
  | .allOf _ members => mentionedInMembers members
  | .union _ _ members => mentionedInMembers members
  | _ => []

def mentionedInProperties : List (String × Schema) → List String
  | [] => []
  | (_, s) :: rest => mentioned s ++ mentionedInProperties rest

def mentionedInAdditional : Option Schema → List String
  | none => []
  | some s => mentioned s

def mentionedInMembers : List Schema → List String
  | [] => []
  | s :: rest => mentioned s ++ mentionedInMembers rest

end

def references (s : Schema) : List String := s.mentioned.eraseDups

end Schema

end ClientForge
