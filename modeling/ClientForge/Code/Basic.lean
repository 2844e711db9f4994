import ClientForge.Api.Vocabulary
import ClientForge.Code.TypeExpr
import ClientForge.Text.Pieces

/-!
The modules of a generated package, as data: imports, classes, functions and what else stands in them.
-/

namespace ClientForge

/-- How a module names another one: by its dotted name, by the way from its own package, where one dot stays in
the package and each further one leads up, or from the root of a package on. -/
inductive ModuleName
  | dotted (name : String)
  | relative (dots : Nat) (parts : List String)
  | inPackage (package : String) (parts : List String)
deriving DecidableEq, Repr

def ModuleName.text : ModuleName → String
  | .dotted name => name
  | .relative dots parts => .ofList (List.replicate dots '.') ++ ".".intercalate parts
  | .inPackage package parts => ".".intercalate (package :: parts)

abbrev ModulePath := List String

namespace ModulePath

def text (p : ModulePath) : String := "/".intercalate p

def ofText (s : String) : ModulePath := s.pieces '/'

def package (p : ModulePath) : List String := p.dropLast

def stem (file : String) : String := .ofList (file.toList.take (file.toList.length - 3))

def inFolders (folders : List String) (module : String) : ModulePath := folders ++ [module ++ ".py"]

def index (folders : List String) : ModulePath := inFolders folders "__init__"

def dotted (p : ModulePath) : List String :=
  match p.getLast? with
  | none => []
  | some file => if stem file = "__init__" then p.dropLast else p.dropLast ++ [stem file]

end ModulePath

structure ImportedName where
  name : String
  asName : Option String
deriving DecidableEq, Repr

structure Import where
  source : ModuleName
  names : List ImportedName
  group : Int
deriving DecidableEq, Repr

namespace Import

def standard : Int := 0

def thirdParty : Int := 1

def own : Int := 2

end Import

/-- A field is required unless it has a default; `dataName` is its name in the data where that differs. -/
structure FieldDef where
  name : String
  type : TypeExpr
  default : Option String
  dataName : Option String
deriving Inhabited, Repr

structure ClassDef where
  name : String
  bases : List String
  doc : Option String
  config : List String
  fields : List FieldDef
  extra : Option TypeExpr
deriving Inhabited, Repr

structure AdapterDef where
  name : String
  type : TypeExpr
deriving Inhabited, Repr

structure ParamDef where
  name : String
  wireName : String
  location : ParameterLocation
  type : TypeExpr
  required : Bool
deriving Inhabited, Repr

inductive Encoding
  | json
  | form
  | content
deriving DecidableEq, Repr, Inhabited

structure BodyDef where
  type : TypeExpr
  required : Bool
  encoding : Encoding
  contentType : Option String
deriving Inhabited, Repr

inductive ResponseKind
  | model
  | list
  | adapter
  | none
deriving DecidableEq, Repr, Inhabited

structure ResponseDef where
  kind : ResponseKind
  type : TypeExpr
  model : Option String
  adapter : Option String
deriving Inhabited, Repr

def ResponseDef.nothing : ResponseDef := ⟨.none, .named "None", none, none⟩

structure OperationDef where
  name : String
  httpMethod : String
  url : String
  pathParams : List ParamDef
  queryParams : List ParamDef
  headerParams : List ParamDef
  cookieParams : List ParamDef
  body : Option BodyDef
  response : ResponseDef
  summary : Option String
  description : Option String
  operationId : Option String
  deprecated : Bool
deriving Inhabited, Repr

structure Assign where
  target : String
  value : String
deriving DecidableEq, Repr

/-- `deferred` imports are for type checkers only, and `references` are the modules that this one imports from. -/
structure Module where
  path : ModulePath
  doc : Option String
  future : Bool
  imports : List Import
  deferred : List Import
  exports : Option (List String)
  classes : List ClassDef
  adapters : List AdapterDef
  operations : List OperationDef
  assigns : List Assign
  rebuild : List String
  references : List ModulePath
deriving Inhabited, Repr

def Module.blank (path : ModulePath) : Module where
  path := path
  doc := none
  future := false
  imports := []
  deferred := []
  exports := none
  classes := []
  adapters := []
  operations := []
  assigns := []
  rebuild := []
  references := []

structure Artifact where
  path : String
  content : String
  references : List String
deriving DecidableEq, Repr

end ClientForge
