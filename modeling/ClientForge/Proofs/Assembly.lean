import ClientForge.Package.Modules
import ClientForge.Proofs.Compilation
import ClientForge.Proofs.ImportTables
import ClientForge.Proofs.Registries
import ClientForge.Proofs.RouteTrees

namespace ClientForge.Package

open Outcome

def bareApi (schemas : Registry) : Api := ⟨⟨"Untitled API", "0.0.0", none⟩, [], [], schemas, "3.0.3"⟩

/-- The parts of a package, each made by a step of its own. -/
structure Build where
  naming : ModuleNaming
  root : RouteNode
  table : AliasTable
  ofSchemas : List Module
  gathered : Module
  ofRoutes : List Module

namespace Build

def modules (b : Build) (api : Api) : List Module :=
  configModule api :: (b.ofSchemas ++ [b.gathered] ++ b.ofRoutes
    ++ [aliasesModule b.naming b.table, routesModule b.naming b.root b.table,
      indexModule b.naming api (b.gathered.exports.getD [])])

theorem mem_modules {b : Build} {api : Api} {m : Module} :
    m ∈ b.modules api ↔ m = configModule api ∨ m ∈ b.ofSchemas ∨ m = b.gathered ∨ m ∈ b.ofRoutes ∨
      m = aliasesModule b.naming b.table ∨ m = routesModule b.naming b.root b.table ∨
        m = indexModule b.naming api (b.gathered.exports.getD []) := by
  simp only [modules, List.mem_cons, List.mem_append, List.not_mem_nil, or_false, or_assoc]

theorem config_mem (b : Build) (api : Api) : configModule api ∈ b.modules api := mem_modules.mpr (.inl rfl)

theorem ofSchemas_subset (b : Build) (api : Api) : b.ofSchemas ⊆ b.modules api :=
  fun _ hm => mem_modules.mpr (.inr (.inl hm))

theorem gathered_mem (b : Build) (api : Api) : b.gathered ∈ b.modules api :=
  mem_modules.mpr (.inr (.inr (.inl rfl)))

theorem ofRoutes_subset (b : Build) (api : Api) : b.ofRoutes ⊆ b.modules api :=
  fun _ hm => mem_modules.mpr (.inr (.inr (.inr (.inl hm))))

structure IsOf (b : Build) (style : ImportStyle) (package : Option String) (api : Api) : Prop where
  naming : moduleNaming style package = .ok b.naming
  root : Route.tree api.operations = .ok b.root
  table : Route.aliases api.operations = .ok b.table
  ofSchemas : schemaModules api.schemas b.naming = .ok b.ofSchemas
  gathered : schemasModule b.naming b.ofSchemas = .ok b.gathered
  ofRoutes : routeModules api.schemas b.naming b.root = .ok b.ofRoutes
  paths : ((b.modules api).map (·.path)).Nodup

end Build

theorem sharedPath?_eq_none_iff {seen paths : List ModulePath} (hseen : seen.Nodup) :
    sharedPath? seen paths = none ↔ (paths.reverse ++ seen).Nodup := by
  induction paths generalizing seen with
  | nil => exact iff_of_true rfl hseen
  | cons p paths ih =>
    rw [sharedPath?, List.reverse_cons, List.append_assoc, List.singleton_append]
    split
    · rename_i hp
      refine iff_of_false nofun fun h => ?_
      exact (List.nodup_cons.mp h.of_append_right).1 (List.contains_iff_mem.mp hp)
    · rename_i hp
      exact ih (List.nodup_cons.mpr ⟨by simpa using hp, hseen⟩)

theorem routes_eq_ok {api : Api} {root : RouteNode} {table : AliasTable} (h : routes api = .ok (root, table)) :
    Route.tree api.operations = .ok root ∧ Route.aliases api.operations = .ok table := by
  obtain ⟨_, hroot, h⟩ := bind_eq_ok.mp h
  obtain ⟨_, htable, h⟩ := bind_eq_ok.mp h
  cases pure_eq_ok.mp h
  exact ⟨hroot, htable⟩

theorem schemas_eq_ok {naming : ModuleNaming} {api : Api} {ofSchemas : List Module} {gathered : Module}
    (h : schemas naming api = .ok (ofSchemas, gathered)) :
    schemaModules api.schemas naming = .ok ofSchemas ∧ schemasModule naming ofSchemas = .ok gathered := by
  obtain ⟨_, hofSchemas, h⟩ := bind_eq_ok.mp h
  obtain ⟨_, hgathered, h⟩ := bind_eq_ok.mp h
  cases pure_eq_ok.mp h
  exact ⟨hofSchemas, hgathered⟩

theorem exists_build {style : ImportStyle} {package : Option String} {api : Api} {ms : List Module}
    (h : modules style package api = .ok ms) : ∃ b : Build, b.IsOf style package api ∧ b.modules api = ms := by
  obtain ⟨naming, hnaming, h⟩ := bind_eq_ok.mp h
  obtain ⟨⟨root, table⟩, hroutes, h⟩ := bind_eq_ok.mp h
  obtain ⟨⟨ofSchemas, gathered⟩, hschemas, h⟩ := bind_eq_ok.mp h
  obtain ⟨ofRoutes, hofRoutes, h⟩ := bind_eq_ok.mp h
  obtain ⟨hroot, htable⟩ := routes_eq_ok hroutes
  obtain ⟨hofSchemas, hgathered⟩ := schemas_eq_ok hschemas
  dsimp only at h
  split at h
  · cases h
  · rename_i hpaths
    refine ⟨⟨naming, root, table, ofSchemas, gathered, ofRoutes⟩,
      ⟨hnaming, hroot, htable, hofSchemas, hgathered, hofRoutes, ?_⟩, pure_eq_ok.mp h⟩
    rwa [sharedPath?_eq_none_iff List.nodup_nil, List.append_nil, List.nodup_reverse] at hpaths

/-- The name of the package is not taken for a relative one by modules that call each other by it. -/
def PlainRoot (style : ImportStyle) (package : Option String) : Prop :=
  style = .absolute → ∀ name ∈ package, name.toList.head? ≠ some '.'

theorem isPlain_of_moduleNaming {style : ImportStyle} {package : Option String} {naming : ModuleNaming}
    (h : moduleNaming style package = .ok naming) (hp : PlainRoot style package) : naming.IsPlain := by
  unfold moduleNaming at h
  split at h
  · cases h
    trivial
  · rename_i name hname
    cases h
    rw [Option.filter_eq_some_iff] at hname
    exact ⟨by simpa using hname.2, hp rfl name hname.1⟩
  · cases h

def rootName? (style : ImportStyle) (package : Option String) : Option (List String) :=
  if style = .absolute then package.map (·.pieces '.') else none

theorem root?_of_moduleNaming {style : ImportStyle} {package : Option String} {naming : ModuleNaming}
    (h : moduleNaming style package = .ok naming) : naming.root? = rootName? style package := by
  unfold moduleNaming at h
  split at h
  · cases h
    rfl
  · rename_i name hname
    cases h
    rw [(Option.filter_eq_some_iff.mp hname).1]
    rfl
  · cases h

section Schemas

variable {r : Registry} {naming : ModuleNaming} {reach : String → List String} {e : NamedSchema} {m : Module}

theorem mem_schemaImports {name : String} {c : Compiled} {i : SchemaImport} :
    i ∈ schemaImports r reach name c ↔ i.ref ∈ c.refs ∧ i.ref ≠ name ∧ r.get? i.ref = some i.target ∧
      i.deferred = ((reach i.ref).contains name && !(c.models.flatMap (·.bases)).contains i.target.symbol
        && !c.runtimeRefs.contains i.ref) := by
  simp only [schemaImports, List.mem_filterMap, List.mem_filter, Option.map_eq_some_iff]
  constructor
  · rintro ⟨ref, ⟨href, hne⟩, target, htarget, rfl⟩
    exact ⟨href, by simpa using hne, htarget, rfl⟩
  · rintro ⟨href, hne, htarget, hdeferred⟩
    refine ⟨i.ref, ⟨href, by simpa using hne⟩, i.target, htarget, ?_⟩
    rw [← hdeferred]

theorem mem_schemaImports_of_needed {name x : String} {c : Compiled} {target : NamedSchema} (hx : x ∈ c.refs)
    (hne : x ≠ name) (htarget : r.get? x = some target)
    (hneed : target.symbol ∈ c.models.flatMap (·.bases) ∨ x ∈ c.runtimeRefs) :
    ⟨x, target, false⟩ ∈ schemaImports r reach name c := by
  refine mem_schemaImports.mpr ⟨hx, hne, htarget, ?_⟩
  rcases hneed with hbase | hruntime
  · rw [List.contains_iff_mem.mpr hbase, Bool.not_true, Bool.and_false, Bool.false_and]
  · rw [List.contains_iff_mem.mpr hruntime, Bool.not_true, Bool.and_false]

def schemaTable (r : Registry) (naming : ModuleNaming) (reach : String → List String) (e : NamedSchema)
    (c : Compiled) : ImportTable :=
  (schemaImports r reach e.name c).foldl
    (fun t i => t.takeNames (schemaPath i.target.module) [i.target.symbol] i.deferred)
    ((ImportTable.start naming (schemaPath e.module)).use c.symbols)

theorem schemaModule_eq_ok (h : schemaModule r naming reach e = .ok m) :
    ∃ c, e.compile r = .ok c ∧ Naming.clash (schemaClaims (schemaImports r reach e.name c) c.models) = none ∧
      m = (schemaTable r naming reach e c).into { Module.blank (schemaPath e.module) with
        doc := some s!"Model for the ``{e.name}`` schema.", future := true, classes := c.models } := by
  unfold schemaModule at h
  obtain ⟨c, hc, h⟩ := bind_eq_ok.mp h
  dsimp only at h
  split at h
  · cases h
  · rename_i hclash
    exact ⟨c, hc, hclash, (pure_eq_ok.mp h).symm⟩

theorem path_of_schemaModule (h : schemaModule r naming reach e = .ok m) : m.path = schemaPath e.module := by
  obtain ⟨c, -, -, rfl⟩ := schemaModule_eq_ok h
  rfl

theorem dotted_schemaPath (hr : r.WellFormed) {e : NamedSchema} (he : e ∈ r.entries) :
    (schemaPath e.module).dotted = ["schemas", e.module] :=
  ModulePath.dotted_inFolders _ (hr.module_ne_index e he)

theorem dotted_schemaPath_isWord (hr : r.WellFormed) {e : NamedSchema} (he : e ∈ r.entries) :
    ∀ s ∈ (schemaPath e.module).dotted, Naming.IsWord s := by
  rw [dotted_schemaPath hr he]
  intro s hs
  rcases List.mem_pair.mp hs with rfl | rfl
  · decide
  · exact hr.module_isWord e he

theorem takes_schemaModule (h : schemaModule r naming reach e = .ok m) :
    ∃ c, e.compile r = .ok c ∧ m.classes = c.models ∧ ∀ d s n, m.Takes d s n ↔
      ∃ i ∈ schemaImports r reach e.name c, s = naming.nameOf ["schemas"] (schemaPath i.target.module).dotted ∧
        d = i.deferred ∧ n.asName = none ∧ n.name = i.target.symbol := by
  obtain ⟨c, hc, -, rfl⟩ := schemaModule_eq_ok h
  refine ⟨c, hc, rfl, fun d s n => ?_⟩
  have hstart : ¬((ImportTable.start naming (schemaPath e.module)).use c.symbols).Has s d n :=
    ImportTable.has_start naming (schemaPath e.module) s d n
  have hpackage : ((ImportTable.start naming (schemaPath e.module)).use c.symbols).package = ["schemas"] :=
    ModulePath.package_inFolders _ _
  rw [ImportTable.takes_into, schemaTable, ImportTable.has_foldl_takeNames, hpackage]
  simp only [hstart, false_or, List.mem_singleton]
  rfl

theorem schemasModule_eq_ok {ofSchemas : List Module} (h : schemasModule naming ofSchemas = .ok m) :
    ((modelClaims ofSchemas).map (·.name)).Nodup ∧
      m = (ofSchemas.foldl (fun t m => t.takeNames m.path (m.classes.map (·.name)) false)
        (ImportTable.start naming schemasIndex)).into { Module.blank schemasIndex with
          doc := some "Models for every named schema of the API."
          exports := some ((modelClaims ofSchemas).map (·.name))
          rebuild := (modelClaims ofSchemas).map (·.name) } := by
  unfold schemasModule at h
  dsimp only at h
  split at h
  · cases h
  · rename_i hclash
    exact ⟨Naming.nodup_of_clash hclash, (Except.ok.inj h).symm⟩

end Schemas

theorem dotted_functionsPath (package : List String) :
    (functionsPath package).dotted = "routes" :: if package.isEmpty then ["_root"] else package := by
  unfold functionsPath
  split
  · exact ModulePath.dotted_inFolders ["routes"] (by decide)
  · exact ModulePath.dotted_index _

theorem isWord_fixedPath : ∀ p ∈ [configPath, schemasIndex, aliasPath, routesIndex, packageIndex],
    ∀ s ∈ ModulePath.dotted p, Naming.IsWord s := by
  decide +kernel

theorem isWord_routes : Naming.IsWord "routes" := by decide

theorem isWord_routePath (parts : List String) : ∀ s ∈ (routePath (Route.package parts)).dotted, Naming.IsWord s := by
  rw [routePath, ModulePath.dotted_index]
  intro s hs
  rcases List.mem_cons.mp hs with rfl | hs
  · exact isWord_routes
  · exact Route.package_isWord parts s hs

theorem isWord_functionsPath (parts : List String) :
    ∀ s ∈ (functionsPath (Route.package parts)).dotted, Naming.IsWord s := by
  rw [dotted_functionsPath]
  intro s hs
  rcases List.mem_cons.mp hs with rfl | hs
  · exact isWord_routes
  · split at hs
    · rw [List.mem_singleton.mp hs]
      decide
    · exact Route.package_isWord parts s hs

section Routes

variable {r : Registry} {naming : ModuleNaming} {path : ModulePath} {n : RouteNode} {m : Module}

theorem routeModule_eq_ok (h : routeModule r naming path n = .ok m) :
    ∃ p, nodeParts r n = .ok p ∧ Naming.clash (nodeClaims r n p) = none ∧
      m = (nodeImports r naming path n p).into { Module.blank path with
        doc := some s!"Requests for ``{n.path}``."
        future := !p.definitions.isEmpty
        exports := some (if n.isRoot then p.operations.map (·.name) else n.exports)
        classes := p.classes, adapters := p.adapters, operations := p.operations } := by
  obtain ⟨p, hp, h⟩ := bind_eq_ok.mp h
  split at h
  · cases h
  · rename_i hclash
    exact ⟨p, hp, hclash, (pure_eq_ok.mp h).symm⟩

theorem path_of_routeModule (h : routeModule r naming path n = .ok m) : m.path = path := by
  obtain ⟨p, -, -, rfl⟩ := routeModule_eq_ok h
  rfl

theorem functionsPath_of_isRoot (h : n.isRoot = false) : functionsPath n.package = routePath n.package := by
  rw [functionsPath, if_neg]
  simpa [RouteNode.package, Route.package, RouteNode.isRoot] using h

def functionNodes (root : RouteNode) : List RouteNode :=
  root.postOrder.filter (!·.isRoot) ++ if root.operations.isEmpty then [] else [root]

theorem mem_functionNodes {operations : List Operation} {root : RouteNode} (h : Route.tree operations = .ok root)
    (hn : n ∈ root.postOrder) (hne : n.isRoot = true → n.operations ≠ []) : n ∈ functionNodes root := by
  rcases Route.parent_of_mem_tree h hn with ⟨hroot, rfl⟩ | ⟨hroot, -⟩
  · refine List.mem_append_right _ ?_
    rw [if_neg (by simpa using hne hroot)]
    exact List.mem_singleton_self _
  · exact List.mem_append_left _ (List.mem_filter.mpr ⟨hn, by simpa using hroot⟩)

theorem mem_postOrder_of_mem_functionNodes {root : RouteNode} (h : n ∈ functionNodes root) : n ∈ root.postOrder := by
  rcases List.mem_append.mp h with h | h
  · exact List.mem_of_mem_filter h
  · split at h
    · cases h
    · rw [List.mem_singleton.mp h]
      exact root.self_mem_postOrder

theorem fst_mem_of_mem_localNames {taken : List String} {packages : List (List String)}
    {entry : List String × String} (h : entry ∈ localNames taken packages) : entry.1 ∈ packages := by
  induction packages generalizing taken with
  | nil => cases h
  | cons package packages ih =>
    rcases List.mem_cons.mp h with rfl | h
    · exact List.mem_cons_self
    · exact List.mem_cons_of_mem _ (ih h)

theorem routeModules_eq_ok {root : RouteNode} {ms : List Module} (hroot : root.isRoot = true)
    (h : routeModules r naming root = .ok ms) :
    List.Forall₂ (fun n m => routeModule r naming (functionsPath n.package) n = .ok m) (functionNodes root) ms := by
  obtain ⟨below, hbelow, h⟩ := bind_eq_ok.mp h
  have hbelow : List.Forall₂ (fun n m => routeModule r naming (functionsPath n.package) n = .ok m)
      (root.postOrder.filter (!·.isRoot)) below := by
    have hbelow := (List.forall₂_and_left (p := fun n => n.isRoot = false) _ _).mpr
      ⟨fun n hn => by simpa using (List.mem_filter.mp hn).2, forall₂_of_mapM hbelow⟩
    apply hbelow.imp
    rintro n m ⟨hn, hm⟩
    rwa [functionsPath_of_isRoot hn]
  unfold functionNodes
  split at h
  · rename_i hempty
    rw [hempty, if_pos rfl, List.append_nil, ← pure_eq_ok.mp h]
    exact hbelow
  · rename_i hempty
    obtain ⟨own, hown, h⟩ := bind_eq_ok.mp h
    rw [if_neg hempty, ← pure_eq_ok.mp h]
    refine List.rel_append hbelow (.cons ?_ .nil)
    have hpackage : root.package = [] := by
      rw [RouteNode.isRoot, List.isEmpty_iff] at hroot
      rw [RouteNode.package, hroot, Route.package, List.map_nil]
    rwa [hpackage]

theorem Build.IsOf.routeModules {b : Build} {style : ImportStyle} {package : Option String} {api : Api}
    (hb : b.IsOf style package api) :
    List.Forall₂ (fun n m => routeModule api.schemas b.naming (functionsPath n.package) n = .ok m)
      (functionNodes b.root) b.ofRoutes :=
  routeModules_eq_ok (Route.isRoot_of_tree hb.root) hb.ofRoutes

end Routes

end ClientForge.Package
