import ClientForge.Document.Text

namespace ClientForge

/-- `checked` is a type whose values are checked against the other types before they are read. -/
inductive TypeExpr
  | named (name : String)
  | list (item : TypeExpr)
  | dict (value : TypeExpr)
  | literal (values : List Document)
  | optional (inner : TypeExpr)
  | union (members : List TypeExpr)
  | checked (first : TypeExpr) (others : List TypeExpr)
deriving Inhabited, Repr

namespace TypeExpr

mutual

def text : TypeExpr → String
  | .named name => name
  | .list item => "list[" ++ text item ++ "]"
  | .dict value => "dict[str, " ++ text value ++ "]"
  | .literal values => "Literal[" ++ ", ".intercalate (values.map Document.codeLiteral) ++ "]"
  | .optional inner => "Optional[" ++ text inner ++ "]"
  | .union members => "Union[" ++ ", ".intercalate (texts members) ++ "]"
  | .checked first others => "Annotated[" ++ text first ++ ", " ++ ", ".intercalate (checkTexts others) ++ "]"

def texts : List TypeExpr → List String
  | [] => []
  | t :: rest => text t :: texts rest

def checkTexts : List TypeExpr → List String
  | [] => []
  | t :: rest =>
    ("BeforeValidator(lambda value: (TypeAdapter(" ++ text t ++ ").validate_python(value), value)[1])")
      :: checkTexts rest

end

def any : TypeExpr := .named "Any"

def takesNone : TypeExpr → Bool
  | .named name => name = "Any" || "Optional[".toList.isPrefixOf name.toList
  | .optional _ => true
  | _ => false

def orNone (t : TypeExpr) : TypeExpr := if t.takesNone then t else .optional t

theorem takesNone_orNone (t : TypeExpr) : t.orNone.takesNone = true := by
  unfold orNone
  split
  · assumption
  · rfl

def distinct (types : List TypeExpr) : List TypeExpr :=
  types.foldl (fun done t => if done.any fun d => d.text == t.text then done else done ++ [t]) []

end TypeExpr

end ClientForge
