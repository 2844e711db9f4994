import ClientForge.Code.Basic
import ClientForge.Options.Coercion

namespace ClientForge

def partOr {α : Type} (entries : Entries) (name : String) (otherwise : Option α) (read : Document → Option α) :
    Option α :=
  match Entries.get? entries name with
  | none => otherwise
  | some d => read d

def listOf? {α : Type} (read : Document → Option α) : Document → Option (List α)
  | .list items => items.mapM read
  | _ => none

def orNull? {α : Type} (read : Document → Option α) : Document → Option (Option α)
  | .scalar .null => some none
  | d => some <$> read d

def mapping? : Document → Option Entries
  | .map entries => some entries
  | _ => none

def typeExpr? (d : Document) : Option TypeExpr := d.text?.map .named

def importedName? : Document → Option ImportedName
  | .list [name, other] => do return ⟨← name.text?, ← other.optionalText?⟩
  | _ => none

def import? (d : Document) : Option Import := do
  let e ← mapping? d
  return { source := .dotted (← partOr e "module" none Document.text?)
           names := ← partOr e "names" (some []) (listOf? importedName?)
           group := ← partOr e "group" (some Import.own) fun d => (Coercion.integer d).toOption }

def fieldDef? (d : Document) : Option FieldDef := do
  let e ← mapping? d
  return { name := ← partOr e "name" none Document.text?
           type := ← partOr e "annotation" none typeExpr?
           default := ← partOr e "default" (some none) Document.optionalText?
           dataName := ← partOr e "alias" (some none) Document.optionalText? }

def classDef? (d : Document) : Option ClassDef := do
  let e ← mapping? d
  let extra ← partOr e "extra_annotation" (some none) Document.optionalText?
  return { name := ← partOr e "name" none Document.text?
           bases := ← partOr e "bases" (some ["BaseModel"]) (listOf? Document.text?)
           doc := ← partOr e "doc" (some none) Document.optionalText?
           config := ← partOr e "config" (some []) (listOf? Document.text?)
           fields := ← partOr e "fields" (some []) (listOf? fieldDef?)
           extra := (extra.filter (· ≠ "")).map .named }

def adapterDef? (d : Document) : Option AdapterDef := do
  let e ← mapping? d
  return { name := ← partOr e "name" none Document.text?, type := ← partOr e "annotation" none typeExpr? }

def paramDef? (d : Document) : Option ParamDef := do
  let e ← mapping? d
  return { name := ← partOr e "name" none Document.text?
           wireName := ← partOr e "wire_name" none Document.text?
           location := ← partOr e "location" none fun d => d.text?.bind ParameterLocation.ofName?
           type := ← partOr e "annotation" none typeExpr?
           required := ← partOr e "required" (some false) Coercion.truth? }

def encoding? (d : Document) : Option Encoding := do
  [("json", Encoding.json), ("form", .form), ("content", .content)].lookup (← d.text?)

def bodyDef? (d : Document) : Option BodyDef := do
  let e ← mapping? d
  return { type := ← partOr e "annotation" none typeExpr?
           required := ← partOr e "required" (some false) Coercion.truth?
           encoding := ← partOr e "encoding" (some .json) encoding?
           contentType := ← partOr e "content_type" (some none) Document.optionalText? }

def responseKind? (d : Document) : Option ResponseKind := do
  [("model", ResponseKind.model), ("list", .list), ("adapter", .adapter), ("none", .none)].lookup (← d.text?)

def responseDef? (d : Document) : Option ResponseDef := do
  let e ← mapping? d
  return { kind := ← partOr e "kind" (some .none) responseKind?
           type := ← partOr e "annotation" (some (.named "None")) typeExpr?
           model := ← partOr e "model" (some none) Document.optionalText?
           adapter := ← partOr e "adapter" (some none) Document.optionalText? }

def operationDef? (d : Document) : Option OperationDef := do
  let e ← mapping? d
  let params name := partOr e name (some []) (listOf? paramDef?)
  let text? name := partOr e name (some none) Document.optionalText?
  return { name := ← partOr e "name" none Document.text?
           httpMethod := ← partOr e "http_method" none Document.text?
           url := ← partOr e "url" none Document.text?
           pathParams := ← params "path_params"
           queryParams := ← params "query_params"
           headerParams := ← params "header_params"
           cookieParams := ← params "cookie_params"
           body := ← partOr e "body" (some none) (orNull? bodyDef?)
           response := ← partOr e "response" (some .nothing) responseDef?
           summary := ← text? "summary"
           description := ← text? "description"
           operationId := ← text? "operation_id"
           deprecated := ← partOr e "deprecated" (some false) Coercion.truth? }

def assign? (d : Document) : Option Assign := do
  let e ← mapping? d
  return { target := ← partOr e "target" none Document.text?, value := ← partOr e "value" none Document.text? }

namespace Module

def ofEntries (e : Entries) : Except Malformed Module :=
  let path := partOr e "path" none Document.text?
  let doc := partOr e "doc" (some none) Document.optionalText?
  let future := partOr e "future" (some false) Coercion.truth?
  let imports := partOr e "imports" (some []) (listOf? import?)
  let deferred := partOr e "deferred_imports" (some []) (listOf? import?)
  let exports := partOr e "exports" (some none) (orNull? (listOf? Document.text?))
  let classes := partOr e "classes" (some []) (listOf? classDef?)
  let adapters := partOr e "adapters" (some []) (listOf? adapterDef?)
  let operations := partOr e "operations" (some []) (listOf? operationDef?)
  let assigns := partOr e "assigns" (some []) (listOf? assign?)
  let rebuild := partOr e "rebuild" (some []) (listOf? Document.text?)
  let references := partOr e "references" (some []) (listOf? Document.text?)
  let made : Option Module := do
    return { path := .ofText (← path), doc := ← doc, future := ← future, imports := ← imports
             deferred := ← deferred, exports := ← exports, classes := ← classes, adapters := ← adapters
             operations := ← operations, assigns := ← assigns, rebuild := ← rebuild
             references := (← references).map .ofText }
  match made with
  | some m => .ok m
  | none =>
    let checks : List (FieldKind × Bool) := [(.path, path.isSome), (.doc, doc.isSome), (.future, future.isSome),
      (.imports, imports.isSome), (.deferredImports, deferred.isSome), (.exports, exports.isSome),
      (.classes, classes.isSome), (.adapters, adapters.isSome), (.operations, operations.isSome),
      (.assigns, assigns.isSome), (.rebuild, rebuild.isSome), (.references, references.isSome)]
    .error (.rejected .module (checks.filterMap fun (field, isFine) => if isFine then none else some field))

def ofDocument : Document → Except Malformed Module
  | .map entries => ofEntries entries
  | _ => .error (.rejected .module [])

end Module

end ClientForge
