import ClientForge.Api.Basic
import ClientForge.Document.Access

namespace ClientForge

def schemasByContent (entries : Entries) : List (Scalar × Document) :=
  entries.mappings.filterMap fun (k, fields) => (Entries.get? fields "schema").map (k, ·)

def firstJson : List (Scalar × Document) → Except Malformed (Option Document)
  | [] => .ok none
  | (k, d) :: rest => do
    if ← Document.keyMentions k "json" then return some d
    else firstJson rest

/-- The schema of a content, taken from the first content type that speaks of JSON, else from the first one. Null
stands for none. -/
def contentSchema (content : Document) : Except Malformed Document := do
  let candidates := schemasByContent (← content.givenEntries)
  return (((← firstJson candidates).or (candidates.head?.map (·.2))).getD .null)

def optionalSchema (d : Document) : Except Failure (Option Schema) :=
  if d.isNull then .ok none else some <$> Schema.ofDocument d

namespace Parameter

def slot (entries : Entries) : Except Malformed (List Key × List Key) := do
  let name ← ((Entries.get? entries "name").getD (.text "")).key
  let place ← ((Entries.get? entries "in").getD (.text "")).key
  return (name, place)

def mappings (d : Document) : Except Malformed (List Entries) := do
  return (← d.givenItems).filterMap fun item =>
    match item.opened with
    | .map entries => some entries
    | _ => none

/-- The parameters of a path that none of an operation overrides, and those of the operation after them. -/
def merge (ofPath ofOperation : List Entries) : Except Malformed (List Entries) := do
  let overridden ← ofOperation.mapM slot
  let kept ← ofPath.filterM fun entries => do return !overridden.contains (← slot entries)
  return kept ++ ofOperation

def locationOf? (entries : Entries) : Option ParameterLocation :=
  match Entries.get? entries "in" with
  | none => some .query
  | some (.text name) => ParameterLocation.ofName? name
  | some _ => none

def schemaOf (entries : Entries) : Except Malformed Document :=
  let d := Document.field entries "schema"
  if d.isNull then contentSchema (Document.field entries "content") else .ok d

def ofEntries (location : ParameterLocation) (entries : Entries) : Except Failure Parameter := do
  let source ← schemaOf entries
  let name ← ((Entries.get? entries "name").getD (.text "")).displayed
  let schema ← Schema.ofDocument source
  match (Document.field entries "description").optionalText? with
  | none => throw (.malformed (.rejected .parameter [.description]))
  | some description =>
    return { name := name
             location := location
             required := location = .path || (Document.field entries "required").isGiven
             description := description
             deprecated := (Document.field entries "deprecated").isGiven
             schema := schema }

def ofList : List Entries → Except Failure (List Parameter)
  | [] => .ok []
  | entries :: rest =>
    match locationOf? entries with
    | none => ofList rest
    | some location => do
      let p ← ofEntries location entries
      return p :: (← ofList rest)

end Parameter

end ClientForge
