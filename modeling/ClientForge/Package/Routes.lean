import ClientForge.Code.ImportTable
import ClientForge.Code.Request
import ClientForge.Package.Schemas
import ClientForge.Route.Alias

namespace ClientForge.Package

structure NodeParts where
  definitions : List (OperationDef × Needs)
deriving Inhabited

namespace NodeParts

def operations (p : NodeParts) : List OperationDef := p.definitions.map (·.1)

def classes (p : NodeParts) : List ClassDef := p.definitions.flatMap (·.2.classes)

def adapters (p : NodeParts) : List AdapterDef := p.definitions.filterMap (·.2.adapter)

def symbols (p : NodeParts) : List String := p.definitions.flatMap (·.2.symbols)

def refs (p : NodeParts) : List String := (p.definitions.flatMap (·.2.refs)).eraseDups

def library (p : NodeParts) : List String :=
  (p.symbols ++ if p.definitions.isEmpty then [] else ["annotations", "httpx", "sdk_config"]).eraseDups

end NodeParts

def nodeParts (r : Registry) (n : RouteNode) : Except Failure NodeParts :=
  NodeParts.mk <$> n.operations.mapM (Request.define r)

def importedChildren (n : RouteNode) : List RouteNode := if n.isRoot then [] else n.children

def nodeClaims (r : Registry) (n : RouteNode) (p : NodeParts) : List Naming.Claim :=
  (importedChildren n).map (fun c => ⟨c.symbol, s!"route package '{c.segment}'"⟩)
    ++ (p.operations.zip n.operations).map (fun (d, o) => ⟨d.name, o.location⟩)
    ++ p.refs.map (fun ref => ⟨Request.symbolOf r ref, s!"the import of schema '{ref}'"⟩)
    ++ p.classes.map (fun c => ⟨c.name, "a generated model class"⟩)
    ++ p.adapters.map (fun a => ⟨a.name, "a response adapter"⟩)
    ++ p.library.map (fun name => ⟨name, s!"the import of '{name}'"⟩)

def nodeImports (r : Registry) (naming : ModuleNaming) (path : ModulePath) (n : RouteNode) (p : NodeParts) :
    ImportTable :=
  let t := (importedChildren n).foldl (fun t c => t.takeModule (routePath c.package) none)
    (ImportTable.start naming path)
  let t := t.use p.symbols
  let t := if p.definitions.isEmpty then t else (t.useLibrary "httpx").takeNames configPath ["sdk_config"] false
  t.takeNames schemasIndex (p.refs.map (Request.symbolOf r)) false

def routeModule (r : Registry) (naming : ModuleNaming) (path : ModulePath) (n : RouteNode) : Except Failure Module := do
  let p ← nodeParts r n
  match Naming.clash (nodeClaims r n p) with
  | some (first, second) =>
    throw (.routeConflict (.definedTwice path.text first.name first.owner second.owner))
  | none =>
    return (nodeImports r naming path n p).into { Module.blank path with
      doc := some s!"Requests for ``{n.path}``."
      future := !p.definitions.isEmpty
      exports := some (if n.isRoot then p.operations.map (·.name) else n.exports)
      classes := p.classes, adapters := p.adapters, operations := p.operations }

def routeModules (r : Registry) (naming : ModuleNaming) (root : RouteNode) : Except Failure (List Module) := do
  let below ← (root.postOrder.filter (!·.isRoot)).mapM fun n => routeModule r naming (routePath n.package) n
  if root.operations.isEmpty then return below
  else return below ++ [← routeModule r naming rootOperationsPath root]

def functionsPath (package : List String) : ModulePath :=
  if package.isEmpty then rootOperationsPath else routePath package

def localNames (taken : List String) : List (List String) → List (List String × String)
  | [] => []
  | package :: rest =>
    let name := Naming.unique (if package.isEmpty then Route.rootModule else "_" ++ "__".intercalate package) taken "_"
    (package, name) :: localNames (taken ++ [name]) rest

def aliasAssign (names : List (List String × String)) (e : AliasEntry) : Assign :=
  ⟨e.symbol, (names.lookup e.package).getD "" ++ "." ++ e.function⟩

def aliasesModule (naming : ModuleNaming) (table : AliasTable) : Module :=
  let names := localNames table.symbols table.packages
  let t := names.foldl (fun t (package, name) => t.takeModule (functionsPath package) (some name))
    (ImportTable.start naming aliasPath)
  t.into { Module.blank aliasPath with
    doc := some "Every request function under its ``operationId``."
    exports := some table.symbols
    assigns := table.entries.map (aliasAssign names) }

def freeAliases (root : RouteNode) (table : AliasTable) : List AliasEntry :=
  table.entries.filter fun e => !(root.exports ++ [Route.aliasModule]).contains e.symbol

def routesModule (naming : ModuleNaming) (root : RouteNode) (table : AliasTable) : Module :=
  let aliases := (freeAliases root table).map (·.symbol)
  let t := root.children.foldl (fun t c => t.takeModule (routePath c.package) none)
    (ImportTable.start naming routesIndex)
  let t := t.takeNames rootOperationsPath (root.operations.map fun o => Route.functionName o.method) false
  let t := t.takeModule aliasPath none
  (t.takeNames aliasPath aliases false).into { Module.blank routesIndex with
    doc := some "Request functions grouped by URL path."
    exports := some (root.exports ++ Route.aliasModule :: aliases) }

end ClientForge.Package
