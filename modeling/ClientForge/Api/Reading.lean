import ClientForge.Api.Parameters
import ClientForge.Document.Reference

/-!
Interfaces as documents describe them.
-/

namespace ClientForge

def rejectedFields (fields : List (FieldKind × Bool)) : List FieldKind :=
  fields.filterMap fun (field, isFine) => if isFine then none else some field

def texts? (items : List Document) : Option (List String) := items.mapM Document.text?

def formatVersion (d : Document) : Except Failure String :=
  match d.opened with
  | .map entries =>
    match Entries.get? entries "swagger" with
    | some found => do throw (.description (.swagger (← found.displayed)))
    | none =>
      match Document.field entries "openapi" with
      | .null => .error (.description .noVersion)
      | found => do
        let version ← found.displayed
        if "3.".toList.isPrefixOf version.toList then return version
        else throw (.description (.version version))
  | .scalar (.text s) => .error (.malformed (if s.mentions "swagger" then .notText else .notMapping))
  | .list items =>
    .error (.malformed (if items.any (fun | .text s => s = "swagger" | _ => false) then .notText else .notMapping))
  | _ => .error (.malformed .notIterable)

def checkedVersion (d : Document) : Except Failure String := do
  let version ← formatVersion d
  let entries ← d.entries
  match (Document.field entries "info").opened with
  | .null => throw (.description (.missing "info"))
  | .map info =>
    if !Entries.has info "title" then throw (.description (.missing "info.title"))
    if !Entries.has info "version" then throw (.description (.missing "info.version"))
  | _ => throw (.description (.notObject "info"))
  match (Document.field entries "paths").opened with
  | .null => throw (.description (.missing "paths"))
  | .map _ => return version
  | _ => throw (.description .pathsNotObject)

def Info.ofDocument (d : Document) : Except Malformed Info := do
  let entries ← d.givenEntries
  let title ← ((Entries.get? entries "title").getD (.text "Untitled API")).displayed
  let version ← ((Entries.get? entries "version").getD (.text "0.0.0")).displayed
  match (Document.field entries "description").optionalText? with
  | none => throw (.rejected .info [.description])
  | some description => return { title := title, version := version, description := description }

def Server.ofEntries (entries : Entries) : Except Malformed Server :=
  match ((Entries.get? entries "url").getD (.text "/")).text?, (Document.field entries "description").optionalText? with
  | some url, some description => .ok ⟨url, description⟩
  | url, description =>
    .error (.rejected .server (rejectedFields [(.url, url.isSome), (.description, description.isSome)]))

def Server.ofList (d : Document) : Except Malformed (List Server) := do
  (← Parameter.mappings d).mapM Server.ofEntries

def RequestBody.ofDocument (d : Document) : Except Failure (Option RequestBody) :=
  match d.opened with
  | .map entries => do
    let content := Document.field entries "content"
    let types ← content.givenItems
    let schema ← optionalSchema (← contentSchema content)
    match (Document.field entries "description").optionalText?, texts? types with
    | some description, some types =>
      return some { required := (Document.field entries "required").isGiven, description := description
                    contentTypes := types, schema := schema }
    | description, types =>
      throw (.malformed (.rejected .requestBody
        (rejectedFields [(.description, description.isSome), (.contentTypes, types.isSome)])))
  | _ => .ok none

def Response.ofFields (status : Document) (entries : Entries) : Except Failure Response := do
  let status ← status.displayed
  let content := Document.field entries "content"
  let types ← content.givenItems
  let schema ← optionalSchema (← contentSchema content)
  match (Document.field entries "description").optionalText?, texts? types with
  | some description, some types =>
    return { status := status, description := description, contentTypes := types, schema := schema }
  | description, types =>
    throw (.malformed (.rejected .response
      (rejectedFields [(.description, description.isSome), (.contentTypes, types.isSome)])))

def Response.ofEntries (entries : Entries) : Except Failure (List Response) :=
  entries.mappings.mapM fun (status, fields) => ofFields (.scalar status) fields

namespace Operation

def ofEntries (path : Document) (method : Method) (ofPath : Document) (entries : Entries) :
    Except Failure Operation := do
  let field := Document.field entries
  let own ← Parameter.mappings (field "parameters")
  let merged ← Parameter.merge (← Parameter.mappings ofPath) own
  let path ← path.displayed
  let tags ← (field "tags").givenItems
  let parameters ← Parameter.ofList merged
  let body ← RequestBody.ofDocument (field "requestBody")
  let responses ← Response.ofEntries (← (field "responses").givenEntries)
  match (field "operationId").optionalText?, (field "summary").optionalText?, (field "description").optionalText?,
    texts? tags with
  | some operationId, some summary, some description, some tags =>
    return { path := path, method := method, operationId := operationId, summary := summary
             description := description, tags := tags, parameters := parameters, requestBody := body
             responses := responses, deprecated := (field "deprecated").isGiven }
  | operationId, summary, description, tags =>
    throw (.malformed (.rejected .operation (rejectedFields [(.operationId, operationId.isSome),
      (.summary, summary.isSome), (.description, description.isSome), (.tags, tags.isSome)])))

def keyed? (k : Scalar) (d : Document) : Option (Method × Entries) :=
  match k, d.opened with
  | .text name, .map entries => (Method.ofName? name).map (·, entries)
  | _, _ => none

def ofPathItem (path : Document) (entries : Entries) : Except Failure (List Operation) :=
  (entries.filterMap fun (k, d) => keyed? k d).mapM fun (method, fields) =>
    ofEntries path method (Document.field entries "parameters") fields

def ofPaths (entries : Entries) : Except Failure (List Operation) := do
  return (← entries.mappings.mapM fun (path, fields) => ofPathItem (.scalar path) fields).flatten

end Operation

namespace Api

def ofResolved (version : String) (d : Document) : Except Failure Api := do
  let entries ← d.entries
  let components := Document.field entries "components"
  let info ← Info.ofDocument (Document.field entries "info")
  let servers ← Server.ofList (Document.field entries "servers")
  let operations ← Operation.ofPaths (← (Document.field entries "paths").givenEntries)
  let schemas ← Registry.ofDocument (Document.field (← components.givenEntries) "schemas")
  return { info := info, servers := servers, operations := operations, schemas := schemas, version := version }

/-- The interface that a document describes. References to schemas stay references. -/
def ofDocument (version : String) (d : Document) : Except Failure Api := do
  ofResolved version (← d.resolve [schemaReferenceStart])

end Api

end ClientForge
