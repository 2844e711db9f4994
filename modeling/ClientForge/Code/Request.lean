import ClientForge.Api.Basic
import ClientForge.Code.Compiled
import ClientForge.Code.ImportTable
import ClientForge.Route.Template
import ClientForge.Route.Tree

/-!
Request functions: what an operation becomes in the generated code, and what its module has to provide for it.
-/

namespace ClientForge

structure Needs where
  classes : List ClassDef
  adapter : Option AdapterDef
  refs : List String
  symbols : List String
deriving Inhabited, Repr

namespace Needs

def start : Needs := ⟨[], none, [], ["Optional"]⟩

def ofCompiled (c : Compiled) : Needs := ⟨c.models, none, c.refs, c.symbols⟩

def ofSymbols (symbols : List String) : Needs := ⟨[], none, [], symbols⟩

def append (a b : Needs) : Needs :=
  ⟨a.classes ++ b.classes, b.adapter.or a.adapter, a.refs ++ b.refs, a.symbols ++ b.symbols⟩

instance : Append Needs := ⟨append⟩

end Needs

namespace Request

/-- The names that the body of a request function binds or reads, besides its parameters. -/
def bodyNames : List String := [
  "body", "headers", "httpx", "item", "key", "params", "request_cookies", "request_headers", "response", "sdk_config",
  "to_jsonable_python", "url", "value"]

def reservedNames (r : Registry) : List String := bodyNames ++ r.symbols ++ Library.symbols

def parameterName (reserved used : List String) (wireName : String) (location : ParameterLocation) : String :=
  let name := Naming.identifier wireName
  let name := if reserved.contains name then name ++ "_" else name
  if used.contains name then Naming.unique s!"{name}_{location.name}" used "_" else name

def inOrder (parameters : List Parameter) : List Parameter :=
  parameters.filter (·.location = .path) ++ parameters.filter (·.location ≠ .path)

def paramDef (name : String) (p : Parameter) (type : TypeExpr) : ParamDef :=
  let required := p.required || p.location = .path
  ⟨name, p.name, p.location, if required then type else type.orNone, required⟩

def hintStart (o : Operation) : String := Naming.pascalCase o.method.name

def declaredParams (r : Registry) (hint : String) (done : List ParamDef) (needs : Needs) :
    List Parameter → Except Failure (List ParamDef × Needs)
  | [] => .ok (done, needs)
  | p :: rest => do
    let c ← Schema.compile r p.schema s!"{hint}{Naming.pascalCase p.name}Param"
    let name := parameterName (reservedNames r) (done.map (·.name)) p.name p.location
    declaredParams r hint (done ++ [paramDef name p c.type]) (needs ++ .ofCompiled c) rest

def addPlaceholder (r : Registry) (declared : List String) (done : List ParamDef) (placeholder : String) :
    List ParamDef :=
  if declared.contains placeholder then done
  else done ++ [⟨parameterName (reservedNames r) (done.map (·.name)) placeholder .path, placeholder, .path,
    .named "str", true⟩]

def withPlaceholders (r : Registry) (path : String) (done : List ParamDef) : List ParamDef :=
  let declared := (done.filter (·.location = .path)).map (·.wireName)
  (Route.placeholders path).eraseDups.foldl (addPlaceholder r declared) done

def placeholderPosition (names : List String) (name : String) : Nat :=
  match (names.reverse.idxOf? name) with
  | some k => names.length - 1 - k
  | none => names.eraseDups.length

def inPathOrder (path : String) (params : List ParamDef) : List ParamDef :=
  let names := Route.placeholders path
  params.mergeSort fun a b => placeholderPosition names a.wireName ≤ placeholderPosition names b.wireName

def argumentFor (params : List ParamDef) (placeholder : String) : String :=
  ((params.reverse.find? (·.wireName == placeholder)).map (·.name)).getD ""

def formContentTypes : List String := ["application/x-www-form-urlencoded", "multipart/form-data"]

def encodingOf (contentTypes : List String) : Encoding :=
  if contentTypes.isEmpty || contentTypes.any (·.mentions "json") then .json
  else if contentTypes.any (formContentTypes.contains ·) then .form
  else .content

def bodyDef (r : Registry) (hint : String) (body : RequestBody) : Except Failure (BodyDef × Needs) := do
  let encoding := encodingOf body.contentTypes
  let (type, needs) ← match encoding, body.schema with
    | .content, _ => pure (.named "bytes", Needs.ofSymbols [])
    | _, none => pure (.any, Needs.ofSymbols ["Any"])
    | _, some schema => do
      let c ← Schema.compile r schema (hint ++ "Body")
      pure (c.type, Needs.ofCompiled c)
  return ({ type := if body.required then type else type.orNone
            required := body.required
            encoding := encoding
            contentType := if encoding = .content then body.contentTypes.head? else none }, needs)

def resultSchema? (responses : List Response) : Option Schema :=
  (responses.filter fun r => r.isSuccess && r.isJson).findSome? (·.schema)

def symbolOf (r : Registry) (name : String) : String := ((r.get? name).map (·.symbol)).getD ""

def resultDef (r : Registry) (m : Method) (schema : Schema) (c : Compiled) : ResponseDef × Needs :=
  let needs := Needs.ofCompiled c
  let adapted : ResponseDef × Needs :=
    let name := "_" ++ Route.functionName m ++ "_response"
    (⟨.adapter, c.type, none, some name⟩, needs ++ ⟨[], some ⟨name, c.type⟩, [], ["TypeAdapter"]⟩)
  match schema with
  | .ref marks _ => if marks.nullable then adapted else (⟨.model, c.type, some c.type.text, none⟩, needs)
  | .array marks (.ref inner name) =>
    if marks.nullable || inner.nullable then adapted
    else (⟨.list, c.type, some (symbolOf r name), none⟩, needs)
  | _ => adapted

def responseDef (r : Registry) (hint : String) (o : Operation) : Except Failure (ResponseDef × Needs) :=
  match resultSchema? o.responses with
  | none => .ok (.nothing, .ofSymbols [])
  | some schema => do
    return resultDef r o.method schema (← Schema.compile r schema (hint ++ "Response"))

def define (r : Registry) (o : Operation) : Except Failure (OperationDef × Needs) := do
  let hint := hintStart o
  let (declared, needs) ← declaredParams r hint [] .start (inOrder o.parameters)
  let params := withPlaceholders r o.path declared
  let located (location : ParameterLocation) := params.filter (·.location = location)
  let body ← o.requestBody.mapM (bodyDef r hint)
  let (response, responseNeeds) ← responseDef r hint o
  let sendsValues := !(located .query).isEmpty || body.any (·.1.encoding ≠ .content)
  let needs := needs ++ (body.map (·.2)).getD (.ofSymbols []) ++ responseNeeds
    ++ .ofSymbols (if sendsValues then ["to_jsonable_python"] else [])
  return ({ name := Route.functionName o.method
            httpMethod := o.method.wireName
            url := Route.urlExpression o.path (argumentFor (located .path))
            pathParams := inPathOrder o.path (located .path)
            queryParams := located .query
            headerParams := located .header
            cookieParams := located .cookie
            body := body.map (·.1)
            response := response
            summary := o.summary
            description := o.description
            operationId := o.operationId
            deprecated := o.deprecated }, needs)

end Request

end ClientForge
