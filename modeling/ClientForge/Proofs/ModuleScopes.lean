import ClientForge.Proofs.NodeScopes

/-!
The names that a module binds at its top level, from imports of any kind to values: no name is bound twice.
-/

namespace ClientForge

open Outcome

namespace Package

open ImportTable

section Build

variable {style : ImportStyle} {package : Option String} {api : Api} {b : Build}

def Build.models (b : Build) : List String := (modelClaims b.ofSchemas).map (·.name)

theorem Build.mem_models {name : String} : name ∈ b.models ↔ ∃ m ∈ b.ofSchemas, ∃ k ∈ m.classes, k.name = name := by
  simp only [Build.models, modelClaims, List.map_flatMap, List.map_map, List.mem_flatMap, List.mem_map]
  rfl

theorem Build.IsOf.gathered_exports (hb : b.IsOf style package api) : b.gathered.exports = some b.models := by
  rw [(schemasModule_eq_ok hb.gathered).2]
  rfl

theorem Build.IsOf.nodup_models (hb : b.IsOf style package api) : b.models.Nodup := (schemasModule_eq_ok hb.gathered).1

theorem Build.IsOf.models_notMem_reserved (hb : b.IsOf style package api)
    (hreserved : ∀ e ∈ api.schemas.entries, e.symbol ∉ Naming.reservedSymbols) :
    ∀ name ∈ b.models, name ∉ Naming.reservedSymbols := by
  intro name hname
  obtain ⟨m, hm, k, hk, rfl⟩ := Build.mem_models.mp hname
  obtain ⟨e, he, hmade⟩ := exists_of_mem_mapM hb.ofSchemas hm
  exact classes_notMem_reserved hreserved he hmade k hk

def gatheredImports (naming : ModuleNaming) (modules : List Module) : ImportTable :=
  modules.foldl (fun t m => t.takeNames m.path (m.classes.map (·.name)) false) (start naming schemasIndex)

theorem Build.IsOf.inner_gathered (hb : b.IsOf style package api) :
    (gatheredImports b.naming b.ofSchemas).Inner b.models := by
  have hmodels : (b.ofSchemas.flatMap fun m => m.classes.map (·.name)) = b.models := by
    rw [Build.models, modelClaims, List.map_flatMap]
    simp only [List.map_map]
    rfl
  rw [← hmodels]
  exact (inner_start b.naming schemasIndex).foldl_takeNames b.ofSchemas _ _ (by simpa [hmodels] using hb.nodup_models)

theorem Build.IsOf.nodup_bound_gathered (hb : b.IsOf style package api) : b.gathered.bound.Nodup := by
  have hinner := hb.inner_gathered
  rw [(schemasModule_eq_ok hb.gathered).2]
  change ((gatheredImports b.naming b.ofSchemas).into _).bound.Nodup
  rw [(hinner.bound_into _).nodup_iff]
  simp only [Module.blank, hinner.foreign_eq_nil, List.map_nil, List.append_nil, List.nil_append]
  exact hinner.nodup

def aliasImports (naming : ModuleNaming) (table : AliasTable) : ImportTable :=
  (localNames table.symbols table.packages).foldl (fun t x => t.takeModule (functionsPath x.1) (some x.2))
    (start naming aliasPath)

theorem inner_aliases {operations : List Operation} {table : AliasTable} (naming : ModuleNaming)
    (htable : Route.aliases operations = .ok table) :
    (aliasImports naming table).Inner ((localNames table.symbols table.packages).map (·.2)) := by
  have hlocals := nodup_localNames (Route.entries_of_aliases htable).2.2 table.packages
  have hnames : ((localNames table.symbols table.packages).map fun x =>
      (moduleName (functionsPath x.1) (some x.2)).bound) = (localNames table.symbols table.packages).map (·.2) :=
    List.map_congr_left fun x _ => bound_moduleName _ _
  rw [← hnames]
  apply (inner_start naming aliasPath).foldl_takeModule (localNames table.symbols table.packages)
  rw [List.nil_append, hnames]
  exact hlocals.of_append_right

theorem nodup_bound_aliases {operations : List Operation} {table : AliasTable} (naming : ModuleNaming)
    (htable : Route.aliases operations = .ok table) : (aliasesModule naming table).bound.Nodup := by
  have hlocals := nodup_localNames (Route.entries_of_aliases htable).2.2 table.packages
  have hinner := inner_aliases naming htable
  change ((aliasImports naming table).into _).bound.Nodup
  rw [(hinner.bound_into _).nodup_iff]
  simp only [Module.blank, hinner.foreign_eq_nil, List.map_nil, List.nil_append]
  have hassigns : (table.entries.map (aliasAssign (localNames table.symbols table.packages))).map (·.target) =
      table.symbols := by
    rw [List.map_map]
    rfl
  rw [hassigns]
  exact (List.perm_append_comm.nodup_iff).mp hlocals

theorem Build.IsOf.nodup_routeExports (hb : b.IsOf style package api) :
    (b.root.exports ++ Route.aliasModule :: (freeAliases b.root b.table).map (·.symbol)).Nodup := by
  obtain ⟨-, -, -, -, hnodup, hreserved⟩ := Route.makeNode_eq_ok (Route.nodeAt_made hb.root)
  have halias : Route.aliasModule ∉ b.root.exports := by
    have hfree := List.find?_eq_none.mp hreserved Route.aliasModule (by decide)
    simpa using hfree
  have hsymbols := (Route.entries_of_aliases hb.table).2.2
  rw [freeAliases_symbols, List.append_cons, List.nodup_append]
  refine ⟨?_, hsymbols.filter _, ?_⟩
  · rw [← List.concat_eq_append]
    exact List.Nodup.concat halias hnodup
  · rintro name hname name' hfree rfl
    have hbeside := of_decide_eq_true (List.mem_filter.mp hfree).2
    rcases List.mem_append.mp hname with hname | hname
    · exact hbeside.2 hname
    · exact hbeside.1 (List.mem_singleton.mp hname)

theorem Build.IsOf.root_exports (hb : b.IsOf style package api) : b.root.exports =
    b.root.operations.map (fun o => Route.functionName o.method) ++ b.root.children.map RouteNode.symbol := by
  obtain ⟨-, -, -, hexports, -⟩ := Route.makeNode_eq_ok (Route.nodeAt_made hb.root)
  rw [hexports, Route.exportClaims, List.map_append, List.map_map, List.map_map]
  rfl

def routesBase (naming : ModuleNaming) (root : RouteNode) : ImportTable :=
  let t := root.children.foldl (fun t c => t.takeModule (routePath c.package) none) (start naming routesIndex)
  (t.takeNames rootOperationsPath (root.operations.map fun o => Route.functionName o.method) false).takeModule
    aliasPath none

theorem Build.IsOf.inner_routesBase (hb : b.IsOf style package api) : (routesBase b.naming b.root).Inner
    (b.root.children.map RouteNode.symbol ++ b.root.operations.map (fun o => Route.functionName o.method)
      ++ [Route.aliasModule]) := by
  have hnodup := hb.nodup_routeExports
  have hroot := b.root.self_mem_postOrder
  have hchildren : (b.root.children.map fun c => (moduleName (routePath c.package) none).bound) =
      b.root.children.map RouteNode.symbol := by
    apply List.map_congr_left
    intro c hc
    obtain ⟨-, segment, hparts⟩ := Route.child_of_mem_tree hb.root hroot hc
    exact bound_child hparts
  have hall : (b.root.children.map RouteNode.symbol ++ b.root.operations.map (fun o => Route.functionName o.method)
      ++ [Route.aliasModule]).Nodup := by
    rw [hb.root_exports, List.append_cons] at hnodup
    exact (List.perm_append_comm.append_right _).nodup_iff.mp hnodup.of_append_left
  have hstart := (inner_start b.naming routesIndex).foldl_takeModule b.root.children (fun c => routePath c.package)
    (fun _ => none) (by
      rw [List.nil_append, hchildren]
      exact hall.of_append_left.of_append_left)
  rw [List.nil_append, hchildren] at hstart
  exact (hstart.takeNames rootOperationsPath _ hall.of_append_left).takeModule aliasPath none hall

def routesImports (naming : ModuleNaming) (root : RouteNode) (table : AliasTable) : ImportTable :=
  (routesBase naming root).takeNames aliasPath ((freeAliases root table).map (·.symbol)) false

theorem Build.IsOf.inner_routes (hb : b.IsOf style package api) :
    (routesImports b.naming b.root b.table).Inner
      (b.root.children.map RouteNode.symbol ++ b.root.operations.map (fun o => Route.functionName o.method)
        ++ [Route.aliasModule] ++ (freeAliases b.root b.table).map (·.symbol)) := by
  apply hb.inner_routesBase.takeNames
  have hnodup := hb.nodup_routeExports
  rw [hb.root_exports, List.append_cons] at hnodup
  exact ((List.perm_append_comm.append_right _).append_right _).nodup_iff.mp hnodup

theorem Build.IsOf.nodup_bound_routes (hb : b.IsOf style package api) :
    (routesModule b.naming b.root b.table).bound.Nodup := by
  have hinner := hb.inner_routes
  change ((routesImports b.naming b.root b.table).into _).bound.Nodup
  rw [(hinner.bound_into _).nodup_iff]
  simp only [Module.blank, hinner.foreign_eq_nil, List.map_nil, List.append_nil, List.nil_append]
  exact hinner.nodup

def indexBase (naming : ModuleNaming) (models : List String) : ImportTable :=
  ((start naming packageIndex).takeNames configPath ["SDKConfig", "sdk_config"] false).takeNames schemasIndex models
    false

theorem Build.IsOf.nodup_indexNames (hb : b.IsOf style package api)
    (hreserved : ∀ e ∈ api.schemas.entries, e.symbol ∉ Naming.reservedSymbols) :
    (["SDKConfig", "sdk_config"] ++ b.models ++ ["client"]).Nodup := by
  have hfixed : (["SDKConfig", "sdk_config", "client"] ++ b.models).Nodup := by
    rw [List.nodup_append]
    refine ⟨by decide, hb.nodup_models, ?_⟩
    have hreservedNames : ["SDKConfig", "sdk_config", "client"] ⊆ Naming.reservedSymbols := by decide
    rintro name hname name' hmodel rfl
    exact hb.models_notMem_reserved hreserved name hmodel (hreservedNames hname)
  exact (List.perm_append_comm.append_left ["SDKConfig", "sdk_config"]).nodup_iff.mp hfixed

theorem Build.IsOf.inner_indexBase (hb : b.IsOf style package api)
    (hreserved : ∀ e ∈ api.schemas.entries, e.symbol ∉ Naming.reservedSymbols) :
    (indexBase b.naming b.models).Inner (["SDKConfig", "sdk_config"] ++ b.models) :=
  ((inner_start b.naming packageIndex).takeNames configPath ["SDKConfig", "sdk_config"] (by decide)).takeNames
    schemasIndex _ (hb.nodup_indexNames hreserved).of_append_left

def indexImports (naming : ModuleNaming) (models : List String) : ImportTable :=
  (indexBase naming models).takeModule routesIndex (some "client")

theorem Build.IsOf.inner_index (hb : b.IsOf style package api)
    (hreserved : ∀ e ∈ api.schemas.entries, e.symbol ∉ Naming.reservedSymbols) :
    (indexImports b.naming b.models).Inner
      (["SDKConfig", "sdk_config"] ++ b.models ++ ["client"]) :=
  (hb.inner_indexBase hreserved).takeModule routesIndex (some "client") (hb.nodup_indexNames hreserved)

theorem Build.IsOf.nodup_bound_index (hb : b.IsOf style package api)
    (hreserved : ∀ e ∈ api.schemas.entries, e.symbol ∉ Naming.reservedSymbols) :
    (indexModule b.naming api (b.gathered.exports.getD [])).bound.Nodup := by
  have hinner := hb.inner_index hreserved
  rw [hb.gathered_exports, Option.getD_some]
  change ((indexImports b.naming b.models).into _).bound.Nodup
  rw [(hinner.bound_into _).nodup_iff]
  simp only [Module.blank, hinner.foreign_eq_nil, List.map_nil, List.append_nil, List.nil_append]
  exact hinner.nodup

theorem Build.IsOf.nodup_bound (hb : b.IsOf style package api)
    (hreserved : ∀ e ∈ api.schemas.entries, e.symbol ∉ Naming.reservedSymbols) :
    ∀ m ∈ b.modules api, m.bound.Nodup := by
  intro m hm
  rcases Build.mem_modules.mp hm with rfl | hm | rfl | hm | rfl | rfl | rfl
  · exact nodup_bound_config api
  · obtain ⟨e, he, hmade⟩ := exists_of_mem_mapM hb.ofSchemas hm
    exact nodup_bound_schema hreserved he hmade
  · exact hb.nodup_bound_gathered
  · obtain ⟨n, hmem, hmade⟩ := exists_left_of_mem hb.routeModules hm
    obtain ⟨p, hp, hclash, rfl⟩ := routeModule_eq_ok hmade
    have hnode := mem_postOrder_of_mem_functionNodes hmem
    exact nodup_bound_route hclash hp (fun c hc => (Route.child_of_mem_tree hb.root hnode hc).2) rfl rfl rfl rfl rfl
  · exact nodup_bound_aliases b.naming hb.table
  · exact hb.nodup_bound_routes
  · exact hb.nodup_bound_index hreserved

end Build

/-- No name at the top level of a module hides another one. -/
theorem modules_bind_once {d : Document} {style : ImportStyle} {package : Option String} {api : Api} {ms : List Module}
    (hd : Registry.ofDocument d = .ok api.schemas) (h : modules style package api = .ok ms) :
    ∀ m ∈ ms, m.bound.Nodup := by
  obtain ⟨b, hb, rfl⟩ := exists_build h
  exact hb.nodup_bound (Registry.symbols_notMem_reserved hd)

theorem modules_bind_once_hostile :
    ∃ (api : Api) (ms : List Module), modules .relative none api = .ok ms ∧ ∀ m ∈ ms, m.bound.Nodup := by
  let named (name : String) : Scalar × Document := (.text name, .map [(.text "type", .text "object")])
  let object : Schema := .object ⟨false, .absent⟩ [] [] none
  let schemas : Registry := ⟨[⟨"Optional", "OptionalModel", "optionalmodel", object⟩,
    ⟨"client", "clientModel", "clientmodel", object⟩]⟩
  let api : Api := { bareApi schemas with operations := [.bare .get "/Any/TYPE_CHECKING" (some "_root"),
    .bare .get "/_Any" (some "get"), .bare .get "/" (some "alias")] }
  have hd : Registry.ofDocument (.map [named "Optional", named "client"]) = .ok api.schemas := rfl
  have hok : (modules .relative none api).isOk = true := by decide +kernel
  obtain ⟨ms, h⟩ := exists_of_isOk hok
  exact ⟨api, ms, h, modules_bind_once hd h⟩

end Package

end ClientForge
