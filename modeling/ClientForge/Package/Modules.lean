import ClientForge.Package.Routes
import ClientForge.Package.Schemas

/-!
All modules of a generated package, in the order in which they are written.
-/

namespace ClientForge.Package

def defaultUrl : String := "http://localhost"

def dropFinalSlashes (s : String) : String := .ofList (s.toList.reverse.dropWhile (· = '/')).reverse

def baseUrl (api : Api) : String :=
  match api.servers with
  | [] => defaultUrl
  | s :: _ => dropFinalSlashes s.url

def configClass (api : Api) : ClassDef where
  name := "SDKConfig"
  bases := ["BaseModel"]
  doc := some "Settings read by every request function on each call."
  config := []
  fields := [
    ⟨"base_url", .named "str", some (baseUrl api).quoted, none⟩,
    ⟨"headers", .dict (.named "str"),
      some "Field(default_factory=lambda: \x7b\"Accept\": \"application/json\"\x7d)", none⟩,
    ⟨"timeout", .named "float", some "30.0", none⟩]
  extra := none

def configModule (api : Api) : Module :=
  { Module.blank configPath with
    doc := some s!"Request configuration for {api.info.title}."
    imports := Library.imports ["BaseModel", "Field"]
    classes := [configClass api]
    assigns := [⟨"sdk_config", "SDKConfig()"⟩] }

def packageDoc (info : Info) : String :=
  let title := s!"{info.title} {info.version} client."
  match info.description with
  | some description => if description.isVacant then title else title ++ "\n\n" ++ description.stripped
  | none => title

def indexModule (naming : ModuleNaming) (api : Api) (models : List String) : Module :=
  let t := (ImportTable.start naming packageIndex).takeNames configPath ["SDKConfig", "sdk_config"] false
  let t := (t.takeNames schemasIndex models false).takeModule routesIndex (some "client")
  t.into { Module.blank packageIndex with
    doc := some (packageDoc api.info)
    exports := some (["SDKConfig", "sdk_config"] ++ models ++ ["client"]) }

def sharedPath? (seen : List ModulePath) : List ModulePath → Option ModulePath
  | [] => none
  | p :: rest => if seen.contains p then some p else sharedPath? (p :: seen) rest

def moduleNaming (style : ImportStyle) (package : Option String) : Except Failure ModuleNaming :=
  match style, package.filter (· ≠ "") with
  | .relative, _ => .ok .relative
  | .absolute, some name => .ok (.fromRoot name)
  | .absolute, none => .error (.usage .noPackageName)

def routes (api : Api) : Except Failure (RouteNode × AliasTable) := do
  return (← Route.tree api.operations, ← Route.aliases api.operations)

def schemas (naming : ModuleNaming) (api : Api) : Except Failure (List Module × Module) := do
  let modules ← schemaModules api.schemas naming
  return (modules, ← schemasModule naming modules)

def modules (style : ImportStyle) (package : Option String) (api : Api) : Except Failure (List Module) := do
  let naming ← moduleNaming style package
  let (root, table) ← routes api
  let (ofSchemas, gathered) ← schemas naming api
  let ofRoutes ← routeModules api.schemas naming root
  let all := configModule api :: (ofSchemas ++ [gathered] ++ ofRoutes
    ++ [aliasesModule naming table, routesModule naming root table,
      indexModule naming api (gathered.exports.getD [])])
  match sharedPath? [] (all.map (·.path)) with
  | some path => throw (.conflict (.pathTwice path.text))
  | none => return all

def hiddenAliasNote (e : AliasEntry) : String :=
  s!"Alias '{e.symbol}' ({e.location}) collides with routes.{e.symbol}; it stays reachable as " ++
    s!"routes.{Route.aliasModule}.{e.symbol}"

def notes (style : ImportStyle) (package : Option String) (api : Api) : List String :=
  match moduleNaming style package, Route.tree api.operations with
  | .ok naming, .ok root =>
    (Route.withoutAlias [] api.operations).map (fun location => s!"No operationId on {location}; no alias generated")
      ++ match Route.aliases api.operations with
        | .error _ => []
        | .ok table => s!"Route tree built from {api.operations.length} operations" ::
          match schemas naming api with
          | .error _ => []
          | .ok (_, gathered) =>
            s!"Compiled {api.schemas.size} schemas into {(gathered.exports.getD []).length} models" ::
              match routeModules api.schemas naming root with
              | .error _ => []
              | .ok _ => (table.entries.filter (!(freeAliases root table).contains ·)).map hiddenAliasNote
  | _, _ => []

end ClientForge.Package
