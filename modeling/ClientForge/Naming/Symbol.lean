import ClientForge.Naming.Identifier

/-!
The names of classes, modules, packages and fields, each made from a name in the document, and the names that generated
code needs for itself.
-/

namespace ClientForge.Naming

def reservedSymbols : List String := [
  "annotations", "Annotated", "Any", "Literal", "Optional", "TYPE_CHECKING", "Union", "date", "datetime", "UUID",
  "AnyUrl", "BaseModel", "BeforeValidator", "ConfigDict", "EmailStr", "Field", "RootModel", "TypeAdapter",
  "to_jsonable_python", "SDKConfig", "client", "config", "httpx", "routes", "schemas", "sdk_config"]

def modelAttributes : List String := [
  "construct", "copy", "dict", "from_orm", "json", "model_computed_fields", "model_config", "model_construct",
  "model_copy", "model_dump", "model_dump_json", "model_extra", "model_fields", "model_fields_set",
  "model_json_schema", "model_parametrized_name", "model_post_init", "model_rebuild", "model_validate",
  "model_validate_json", "model_validate_strings", "parse_file", "parse_obj", "parse_raw", "schema", "schema_json",
  "update_forward_refs", "validate"]

def isParameterSegment (segment : String) : Bool :=
  match segment.toList with
  | '\x7b' :: rest => 2 ≤ rest.length && rest.getLast? = some '\x7d'
  | _ => false

def parameterName (segment : String) : String := .ofList segment.toList.tail.dropLast

def dropUnderscores (s : String) : String := .ofList (s.toList.dropWhile (· = '_'))

def segmentSymbol (segment : String) : String :=
  if isParameterSegment segment then "by_" ++ dropUnderscores (identifier (parameterName segment))
  else identifier segment

def capitalWords : Bool → List Char → List Char
  | _, [] => []
  | start, c :: rest =>
    if c.isAlphanum then (if start then c.toUpper else c) :: capitalWords false rest else capitalWords true rest

def pascalCase (name : String) : String :=
  match capitalWords true name.toList with
  | [] => "Model"
  | c :: rest => .ofList (if c.isDigit then '_' :: c :: rest else c :: rest)

def classSymbol (name : String) : String := free "Model" reservedSymbols (identifier name)

/-- Lower case, as far as it matters to an identifier. Outside ASCII two capitals have a letter of it as their
small form: the Kelvin sign, and the dotted I, which takes two characters. -/
def lowerChar (c : Char) : List Char :=
  if c = '\u212a' then ['k'] else if c = '\u0130' then ['i', '\u0307'] else [c.toLower]

def moduleName (symbol : String) : String := identifier (.ofList (symbol.toList.flatMap lowerChar))

def fieldName (property : String) : String :=
  let name := identifier property
  let name := if name.toList.head? = some '_' then "field_" ++ dropUnderscores name else name
  if name ∈ modelAttributes || name ∈ reservedSymbols then name ++ "_" else name

end ClientForge.Naming
