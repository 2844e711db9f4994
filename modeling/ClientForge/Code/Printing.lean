import ClientForge.Code.Basic
import ClientForge.Text.Quoted

/-!
The text of a module. Brackets whose items do not fit into a line have one item a line.
-/

namespace ClientForge

def lineWidth : Nat := 88

def indentation : String := "    "

def joinLines (lines : List String) : String := "\n".intercalate lines

def fits (line : String) : Bool := line.length ≤ lineWidth

def bracketed (start : String) (items : List String) (opening closing indent : String) : String :=
  let line := indent ++ start ++ opening ++ ", ".intercalate items ++ closing
  if fits line then line
  else indent ++ start ++ opening ++ "\n" ++ String.join (items.map fun i => indent ++ indentation ++ i ++ ",\n")
    ++ indent ++ closing

namespace ImportedName

def text (n : ImportedName) : String :=
  match n.asName with
  | none => n.name
  | some other => s!"{n.name} as {other}"

end ImportedName

namespace Import

def text (i : Import) (indent : String) : String :=
  if i.names.isEmpty then indent ++ "import " ++ i.source.text
  else
    let names := i.names.map ImportedName.text
    let start := s!"from {i.source.text} import "
    let line := indent ++ start ++ ", ".intercalate names
    if fits line then line else bracketed start names "(" ")" indent

def comesBefore (a b : Import) : Bool :=
  if a.names.isEmpty = b.names.isEmpty then a.source.text ≤ b.source.text else a.names.isEmpty

def groups (imports : List Import) : List Int := (imports.map (·.group)).eraseDups.mergeSort

def block (imports : List Import) (group : Int) : String :=
  let inGroup := imports.filter (·.group = group)
  joinLines ((if group = own then inGroup else inGroup.mergeSort comesBefore).map (·.text ""))

end Import

namespace FieldDef

def line (f : FieldDef) : String :=
  let start := s!"{f.name}: {f.type.text}"
  match f.dataName, f.default with
  | none, none => start
  | none, some value => s!"{start} = {value}"
  | some dataName, none => s!"{start} = Field(alias={dataName.quoted})"
  | some dataName, some value => s!"{start} = Field(default={value}, alias={dataName.quoted})"

end FieldDef

def docBlock (doc : Option String) : List String :=
  match doc with
  | some doc => if doc.isVacant then [] else [doc.docstring]
  | none => []

namespace ClassDef

def fieldLines (c : ClassDef) : List String :=
  c.fields.map FieldDef.line ++ (c.extra.map fun t => s!"__pydantic_extra__: {t.text}").toList

def blocks (c : ClassDef) : List String :=
  let blocks := docBlock c.doc
    ++ (if c.config.isEmpty then [] else ["model_config = ConfigDict(" ++ ", ".intercalate c.config ++ ")"])
    ++ if c.fieldLines.isEmpty then [] else [joinLines c.fieldLines]
  if blocks.isEmpty then ["pass"] else blocks

def dropFinalBreaks (s : String) : String := .ofList (Text.dropFinalFeeds s.toList)

def text (c : ClassDef) : String :=
  let header := s!"class {c.name}(" ++ ", ".intercalate c.bases ++ "):\n"
  dropFinalBreaks (header ++ "\n".intercalate (c.blocks.map fun b => indentation ++ b.indentRest ++ "\n"))

end ClassDef

namespace OperationDef

def keywordParams (o : OperationDef) : List ParamDef := o.queryParams ++ o.headerParams ++ o.cookieParams

def paragraphs (o : OperationDef) : List String :=
  let texts := ([o.summary, o.description].filterMap id).filter fun t => !t.isVacant
  (texts.map (·.stripped)).eraseDups ++ (if o.deprecated then ["Deprecated."] else [])
    ++ ((o.operationId.filter (· ≠ "")).map fun id => s!"Operation ID: ``{id}``").toList

def orMissing (required : Bool) : String := if required then "" else " = None"

def signature (o : OperationDef) : List String :=
  [s!"def {o.name}("]
    ++ o.pathParams.map (fun p => s!"    {p.name}: {p.type.text},")
    ++ ["    *,"]
    ++ o.keywordParams.map (fun p => s!"    {p.name}: {p.type.text}{orMissing p.required},")
    ++ (o.body.map fun b => s!"    body: {b.type.text}{orMissing b.required},").toList
    ++ ["    headers: Optional[dict[str, str]] = None,", s!") -> {o.response.type.text}:"]

def docLines (o : OperationDef) : List String :=
  if o.paragraphs.isEmpty then []
  else [indentation ++ ("\n\n".intercalate o.paragraphs).docstring.indentRest]

def queryLines (o : OperationDef) : List String :=
  if o.queryParams.isEmpty then []
  else ["    params = to_jsonable_python(", "        \x7b"]
    ++ o.queryParams.map (fun p => s!"            {p.wireName.quoted}: {p.name},")
    ++ ["        \x7d", "    )"]

def setLines (table : String) (p : ParamDef) : List String :=
  [s!"    if {p.name} is not None:", s!"        {table}[{p.wireName.quoted}] = str({p.name})"]

def headerLines (o : OperationDef) : List String :=
  "    request_headers = \x7b**sdk_config.headers, **(headers or \x7b\x7d)\x7d"
    :: o.headerParams.flatMap (setLines "request_headers")

def cookieLines (o : OperationDef) : List String :=
  if o.cookieParams.isEmpty then []
  else "    request_cookies: dict[str, str] = \x7b\x7d" :: o.cookieParams.flatMap (setLines "request_cookies")

def quotedOrNone (s : Option String) : String := (s.map String.quoted).getD "None"

def contentTypeLines (o : OperationDef) : List String :=
  match o.body with
  | some ⟨_, _, .content, contentType⟩ =>
    ["    if body is not None:",
      s!"        request_headers.setdefault(\"Content-Type\", {quotedOrNone contentType})"]
  | _ => []

def bodyArgument (encoding : Encoding) : String :=
  match encoding with
  | .json => "        json=to_jsonable_python(body, by_alias=True, exclude_none=True),"
  | .form => "        data=to_jsonable_python(body, by_alias=True, exclude_none=True),"
  | .content => "        content=body,"

def requestLines (o : OperationDef) : List String :=
  ["    response = httpx.request(", s!"        {o.httpMethod.quoted},", "        url,"]
    ++ (if o.queryParams.isEmpty then []
      else ["        params=\x7bkey: value for key, value in params.items() if value is not None\x7d,"])
    ++ ["        headers=request_headers,"]
    ++ (if o.cookieParams.isEmpty then [] else ["        cookies=request_cookies,"])
    ++ (o.body.map fun b => bodyArgument b.encoding).toList
    ++ ["        timeout=sdk_config.timeout,", "    )", "    response.raise_for_status()"]

def resultLines (r : ResponseDef) : List String :=
  match r.kind with
  | .model => [s!"    return {r.model.getD noName}.model_validate(response.json())"]
  | .list => [s!"    return [{r.model.getD noName}.model_validate(item) for item in response.json()]"]
  | .adapter => [s!"    return {r.adapter.getD noName}.validate_python(response.json())"]
  | .none => []
where
  noName := "None"

def text (o : OperationDef) : String :=
  joinLines (o.signature ++ o.docLines ++ [s!"    url = sdk_config.base_url + {o.url}"] ++ o.queryLines
    ++ o.headerLines ++ o.cookieLines ++ o.contentTypeLines ++ o.requestLines ++ resultLines o.response)

end OperationDef

namespace Module

def rebuildText (names : List String) : String :=
  let header := match names with
    | [name] => s!"for _model in ({name},):"
    | names => bracketed "for _model in " names "(" "):" ""
  header ++ "\n    _model.model_rebuild()\ndel _model"

def header (m : Module) : String := joinLines ("# Generated by sdking. Do not edit by hand." :: docBlock m.doc)

def deferredText (imports : List Import) : String :=
  joinLines ("if TYPE_CHECKING:" :: imports.map (·.text indentation))

def exportsText (names : List String) : String := bracketed "__all__ = " (names.map String.quoted) "[" "]" ""

def sections (m : Module) : List String :=
  [m.header] ++ (if m.future then ["from __future__ import annotations"] else [])
    ++ (Import.groups m.imports).map (Import.block m.imports)
    ++ (if m.deferred.isEmpty then [] else [deferredText m.deferred])
    ++ (m.exports.map exportsText).toList

def definitions (m : Module) : List String :=
  m.classes.map ClassDef.text
    ++ (if m.adapters.isEmpty then []
      else [joinLines (m.adapters.map fun a => s!"{a.name} = TypeAdapter({a.type.text})")])
    ++ m.operations.map OperationDef.text
    ++ (if m.assigns.isEmpty then [] else [joinLines (m.assigns.map fun a => s!"{a.target} = {a.value}")])
    ++ if m.rebuild.isEmpty then [] else [rebuildText m.rebuild]

def text (m : Module) : String :=
  "\n\n".intercalate m.sections ++ "\n" ++ String.join (m.definitions.map fun d => "\n\n" ++ d ++ "\n")

def artifact (m : Module) : Artifact := ⟨m.path.text, m.text, m.references.map ModulePath.text⟩

end Module

end ClientForge
