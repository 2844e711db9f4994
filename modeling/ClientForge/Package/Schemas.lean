import ClientForge.Code.Basic
import ClientForge.Code.Compiled
import ClientForge.Code.ImportTable
import ClientForge.Naming.Identifier

namespace ClientForge

namespace Registry

def referencesOf (r : Registry) (name : String) : List String := ((r.get? name).map (·.schema.references)).getD []

def reachFrom (direct : String → List String) : Nat → List String → List String → List String
  | 0, seen, _ => seen
  | _, seen, [] => seen
  | fuel + 1, seen, name :: rest =>
    if name ∈ seen then reachFrom direct fuel seen rest
    else reachFrom direct fuel (name :: seen) (direct name ++ rest)

def reachable (r : Registry) (name : String) : List String :=
  let start := r.referencesOf name
  reachFrom r.referencesOf (start.length + r.entries.foldr (fun e n => e.schema.references.length + n) 0 + 1) [] start

def reachability (r : Registry) : List (String × List String) := r.names.map fun name => (name, r.reachable name)

end Registry

namespace Package

def configPath : ModulePath := .inFolders [] "config"

def schemaPath (module : String) : ModulePath := .inFolders ["schemas"] module

def schemasIndex : ModulePath := .index ["schemas"]

def routePath (package : List String) : ModulePath := .index ("routes" :: package)

def routesIndex : ModulePath := routePath []

def rootOperationsPath : ModulePath := .inFolders ["routes"] "_root"

def aliasPath : ModulePath := .inFolders ["routes"] "alias"

def packageIndex : ModulePath := .index []

structure SchemaImport where
  ref : String
  target : NamedSchema
  deferred : Bool

def schemaImports (r : Registry) (reach : String → List String) (name : String) (c : Compiled) : List SchemaImport :=
  let bases := c.models.flatMap (·.bases)
  (c.refs.filter (· ≠ name)).filterMap fun ref => (r.get? ref).map fun target =>
    { ref := ref, target := target
      deferred := (reach ref).contains name && !bases.contains target.symbol && !c.runtimeRefs.contains ref }

def schemaClaims (imports : List SchemaImport) (models : List ClassDef) : List Naming.Claim :=
  imports.map (fun i => ⟨i.target.symbol, s!"the import of schema '{i.ref}'"⟩)
    ++ models.map fun m => ⟨m.name, "a model class"⟩

def schemaModule (r : Registry) (naming : ModuleNaming) (reach : String → List String) (e : NamedSchema) :
    Except Failure Module := do
  let path := schemaPath e.module
  let c ← e.compile r
  let imports := schemaImports r reach e.name c
  match Naming.clash (schemaClaims imports c.models) with
  | some (first, second) =>
    throw (.conflict (.definedTwice path.text first.name first.owner second.owner))
  | none =>
    let table := imports.foldl (fun t i => t.takeNames (schemaPath i.target.module) [i.target.symbol] i.deferred)
      ((ImportTable.start naming path).use c.symbols)
    return table.into { Module.blank path with
      doc := some s!"Model for the ``{e.name}`` schema.", future := true, classes := c.models }

def schemaModules (r : Registry) (naming : ModuleNaming) : Except Failure (List Module) :=
  let reached := r.reachability
  r.entries.mapM (schemaModule r naming fun name => (reached.lookup name).getD [])

def modelClaims (modules : List Module) : List Naming.Claim :=
  modules.flatMap fun m => m.classes.map fun c => ⟨c.name, m.path.text⟩

def schemasModule (naming : ModuleNaming) (modules : List Module) : Except Failure Module :=
  let claims := modelClaims modules
  match Naming.clash claims with
  | some (first, second) => .error (.conflict (.classTwice first.name first.owner second.owner))
  | none =>
    let table := modules.foldl (fun t m => t.takeNames m.path (m.classes.map (·.name)) false)
      (ImportTable.start naming schemasIndex)
    let names := claims.map (·.name)
    .ok (table.into { Module.blank schemasIndex with
      doc := some "Models for every named schema of the API.", exports := some names, rebuild := names })

end Package

end ClientForge
