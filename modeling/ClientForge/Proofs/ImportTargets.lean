import ClientForge.Proofs.Assembly
import ClientForge.Proofs.Registries
import ClientForge.Proofs.Requests

/-!
Every import of a package leads to something in it.
-/

namespace ClientForge

open Outcome

def Module.Binds (m : Module) (name : String) : Prop :=
  (∃ c ∈ m.classes, c.name = name) ∨ (∃ o ∈ m.operations, o.name = name) ∨ (∃ a ∈ m.assigns, a.target = name) ∨
    ∃ i ∈ m.imports, ∃ n ∈ i.names, n.asName.getD n.name = name

theorem Module.binds_of_takes {m : Module} {s : ModuleName} {n : ImportedName} (h : m.Takes false s n) :
    m.Binds (n.asName.getD n.name) := by
  obtain ⟨i, hi, -, -, hn⟩ := h
  exact .inr (.inr (.inr ⟨i, hi, n, hn, rfl⟩))

namespace Package

/-- A name taken from a source by a module in some folders is bound by the module that the source means, or is that of
a module in the package that the source means. -/
def Leads (root? : Option (List String)) (ms : List Module) (folders : List String) (source : ModuleName)
    (name : String) : Prop :=
  ∃ t ∈ ms, ModuleName.locate root? folders source.text = some t.path.dotted ∧
    (t.Binds name ∨ t.path = .index t.path.dotted ∧ ∃ s ∈ ms, s.path.dotted = t.path.dotted ++ [name])

structure Linked (root? : Option (List String)) (ms : List Module) (m : Module) : Prop where
  references : ∀ p ∈ m.references, ∃ t ∈ ms, t.path = p
  leads : ∀ deferred source name, m.Takes deferred source name → Leads root? ms m.path.package source name.name

structure Settled (ms : List Module) (naming : ModuleNaming) (folders : List String) (t : ImportTable) : Prop where
  naming_eq : t.naming = naming
  package_eq : t.package = folders
  references : ∀ p ∈ t.references, ∃ m ∈ ms, m.path = p
  leads : ∀ source deferred name, t.Has source deferred name → Leads naming.root? ms folders source name.name

namespace Settled

variable {ms : List Module} {naming : ModuleNaming} {folders : List String} {t : ImportTable}

theorem start (path : ModulePath) : Settled ms naming path.package (.start naming path) where
  naming_eq := rfl
  package_eq := rfl
  references := by simp [ImportTable.start]
  leads source deferred name h := absurd h (ImportTable.has_start naming path source deferred name)

theorem use (h : Settled ms naming folders t) (symbols : List String) : Settled ms naming folders (t.use symbols) :=
  ⟨h.naming_eq, h.package_eq, h.references, h.leads⟩

theorem useLibrary (h : Settled ms naming folders t) (name : String) :
    Settled ms naming folders (t.useLibrary name) :=
  ⟨h.naming_eq, h.package_eq, h.references, h.leads⟩

theorem into (h : Settled ms naming folders t) {m : Module} (hm : m.path.package = folders) :
    Linked naming.root? ms (t.into m) where
  references := h.references
  leads deferred source name htakes := by
    rw [ImportTable.takes_into] at htakes
    rw [← hm] at h
    exact h.leads source deferred name htakes

variable (hn : naming.IsPlain) (hwords : ∀ m ∈ ms, ∀ s ∈ m.path.dotted, Naming.IsWord s)

include hn hwords

theorem takeNames (h : Settled ms naming folders t) {target : ModulePath} {names : List String} (deferred : Bool)
    (htarget : ∀ name ∈ names, ∃ m ∈ ms, m.path = target ∧ m.Binds name) :
    Settled ms naming folders (t.takeNames target names deferred) where
  naming_eq := (ImportTable.naming_takeNames ..).trans h.naming_eq
  package_eq := (ImportTable.package_takeNames ..).trans h.package_eq
  references p hp := by
    rcases (ImportTable.mem_references_takeNames ..).mp hp with hp | ⟨rfl, hne⟩
    · exact h.references p hp
    · obtain ⟨name, hname⟩ := List.exists_mem_of_ne_nil _ hne
      obtain ⟨m, hm, hpath, -⟩ := htarget name hname
      exact ⟨m, hm, hpath⟩
  leads source d name hhas := by
    rcases (ImportTable.has_takeNames ..).mp hhas with hhas | ⟨rfl, -, -, hname⟩
    · exact h.leads source d name hhas
    · obtain ⟨m, hm, rfl, hbinds⟩ := htarget name.name hname
      rw [h.naming_eq, h.package_eq]
      exact ⟨m, hm, ModuleNaming.locate_nameOf hn folders (hwords m hm), .inl hbinds⟩

theorem takeModule (h : Settled ms naming folders t) {target : ModulePath} {folder : List String} {name : String}
    (asName : Option String) (htarget : ∃ m ∈ ms, m.path = target) (hfolder : ∃ m ∈ ms, m.path = .index folder)
    (hdotted : target.dotted = folder ++ [name]) :
    Settled ms naming folders (t.takeModule target asName) where
  naming_eq := h.naming_eq
  package_eq := h.package_eq
  references p hp := by
    rcases (ImportTable.mem_references_takeModule ..).mp hp with hp | rfl
    · exact h.references p hp
    · exact htarget
  leads source d n hhas := by
    rcases (ImportTable.has_takeModule ..).mp hhas with hhas | ⟨rfl, -, hname, -⟩
    · exact h.leads source d n hhas
    · obtain ⟨m, hm, rfl⟩ := htarget
      obtain ⟨index, hindex, hpath⟩ := hfolder
      have hplace : index.path.dotted = folder := hpath ▸ ModulePath.dotted_index folder
      have hsource : m.path.dotted.dropLast = index.path.dotted := by rw [hdotted, List.dropLast_concat, hplace]
      have hlast : n.name = name := by rw [hname, hdotted, List.getLast?_concat, Option.getD_some]
      refine ⟨index, hindex, ?_, .inr ⟨by rw [hplace, hpath], m, hm, by rw [hdotted, hplace, hlast]⟩⟩
      rw [h.naming_eq, h.package_eq, hsource]
      exact ModuleNaming.locate_nameOf hn folders (hwords index hindex)

end Settled

section Build

variable {style : ImportStyle} {package : Option String} {api : Api} {b : Build}

theorem Build.IsOf.isWord_dotted (hb : b.IsOf style package api) (hr : api.schemas.WellFormed) :
    ∀ m ∈ b.modules api, ∀ s ∈ m.path.dotted, Naming.IsWord s := by
  intro m hm
  rcases Build.mem_modules.mp hm with rfl | hm | rfl | hm | rfl | rfl | rfl
  · exact isWord_fixedPath configPath (by decide)
  · obtain ⟨e, he, hm⟩ := exists_of_mem_mapM hb.ofSchemas hm
    rw [path_of_schemaModule hm]
    exact dotted_schemaPath_isWord hr he
  · rw [(schemasModule_eq_ok hb.gathered).2]
    exact isWord_fixedPath schemasIndex (by decide)
  · obtain ⟨n, -, hm⟩ := exists_left_of_mem hb.routeModules hm
    rw [path_of_routeModule hm]
    exact isWord_functionsPath n.parts
  · exact isWord_fixedPath aliasPath (by decide)
  · exact isWord_fixedPath routesIndex (by decide)
  · exact isWord_fixedPath packageIndex (by decide)

theorem Build.IsOf.exists_schemaModule (hb : b.IsOf style package api) {name : String} {e : NamedSchema}
    (he : api.schemas.get? name = some e) :
    ∃ m ∈ b.ofSchemas, m.path = schemaPath e.module ∧ ∃ c ∈ m.classes, c.name = e.symbol := by
  obtain ⟨m, hm, hmade⟩ := exists_mem_of_mapM hb.ofSchemas (Registry.mem_of_get? he).1
  obtain ⟨c, hc, hclasses, -⟩ := takes_schemaModule hmade
  obtain ⟨-, -, -, model, hmodel, hname⟩ := NamedSchema.compile_cases hc
  exact ⟨m, hm, path_of_schemaModule hmade, model, hclasses ▸ hmodel, hname⟩

theorem Build.IsOf.gathered_path (hb : b.IsOf style package api) : b.gathered.path = schemasIndex := by
  rw [(schemasModule_eq_ok hb.gathered).2]
  rfl

theorem Build.IsOf.gathered_binds (hb : b.IsOf style package api) {m : Module} (hm : m ∈ b.ofSchemas) {c : ClassDef}
    (hc : c ∈ m.classes) : b.gathered.Binds c.name := by
  rw [(schemasModule_eq_ok hb.gathered).2]
  apply Module.binds_of_takes (n := ⟨c.name, none⟩)
  rw [ImportTable.takes_into, ImportTable.has_foldl_takeNames]
  exact .inr ⟨m, hm, rfl, rfl, rfl, List.mem_map_of_mem hc⟩

theorem Build.IsOf.exists_nodeModule (hb : b.IsOf style package api) {n : RouteNode} (hn : n ∈ b.root.postOrder) :
    ∃ m ∈ b.modules api, m.path = routePath n.package := by
  by_cases hroot : n.isRoot = true
  · refine ⟨routesModule b.naming b.root b.table, Build.mem_modules.mpr (by simp), ?_⟩
    rw [RouteNode.isRoot, List.isEmpty_iff] at hroot
    rw [RouteNode.package, hroot]
    rfl
  · rw [Bool.not_eq_true] at hroot
    have hmem : n ∈ functionNodes b.root := mem_functionNodes hb.root hn (by simp [hroot])
    obtain ⟨m, hm, hmade⟩ := exists_right_of_mem hb.routeModules hmem
    refine ⟨m, b.ofRoutes_subset api hm, ?_⟩
    rw [path_of_routeModule hmade, functionsPath_of_isRoot hroot]

theorem Build.IsOf.exists_functionsModule (hb : b.IsOf style package api) {n : RouteNode}
    (hn : n ∈ b.root.postOrder) {o : Operation} (ho : o ∈ n.operations) :
    ∃ m ∈ b.modules api, m.path = functionsPath n.package ∧ m.Binds (Route.functionName o.method) := by
  have hmem : n ∈ functionNodes b.root := mem_functionNodes hb.root hn fun _ => List.ne_nil_of_mem ho
  obtain ⟨m, hm, hmade⟩ := exists_right_of_mem hb.routeModules hmem
  refine ⟨m, b.ofRoutes_subset api hm, path_of_routeModule hmade, .inr (.inl ?_)⟩
  obtain ⟨p, hp, -, rfl⟩ := routeModule_eq_ok hmade
  obtain ⟨⟨d, needs⟩, hd, hdefine⟩ := exists_right_of_mem (nodeParts_eq_ok hp) ho
  exact ⟨d, List.mem_map_of_mem hd, (Request.define_eq_ok hdefine).1⟩

section Links

theorem linked_config (root? : Option (List String)) (ms : List Module) : Linked root? ms (configModule api) where
  references p hp := by cases hp
  leads deferred source name := by
    rintro ⟨i, hi, hown, -, -⟩
    cases deferred with
    | true => cases hi
    | false => exact absurd hown (ImportTable.group_ne_own_of_mem_library hi)

variable {folders : List String} {t : ImportTable} (hb : b.IsOf style package api) (hr : api.schemas.WellFormed)
  (hn : b.naming.IsPlain)

include hb

theorem Build.IsOf.exists_folder {n : RouteNode} (hmem : n ∈ b.root.postOrder) :
    ∃ folder name, (functionsPath n.package).dotted = folder ++ [name] ∧
      ∃ m ∈ b.modules api, m.path = .index folder := by
  rw [dotted_functionsPath]
  rcases Route.parent_of_mem_tree hb.root hmem with ⟨hroot, -⟩ | ⟨-, p, hp, -, segment, hparts⟩
  · rw [RouteNode.isRoot, List.isEmpty_iff] at hroot
    obtain ⟨m, hm, hpath⟩ := hb.exists_nodeModule hmem
    rw [RouteNode.package, hroot] at hpath ⊢
    exact ⟨["routes"], "_root", rfl, m, hm, hpath⟩
  · refine ⟨"routes" :: p.package, n.symbol, ?_, hb.exists_nodeModule hp⟩
    rw [Route.package_child hparts, if_neg (by simp), List.cons_append]

include hr hn

theorem Build.IsOf.linked_schema {m : Module} (hm : m ∈ b.ofSchemas) :
    Linked b.naming.root? (b.modules api) m := by
  obtain ⟨e, -, hm⟩ := exists_of_mem_mapM hb.ofSchemas hm
  obtain ⟨c, -, -, rfl⟩ := schemaModule_eq_ok hm
  refine Settled.into (List.foldlRecOn _ _ (Settled.use (Settled.start _) _) ?_) rfl
  intro t ht i hi
  apply ht.takeNames hn (hb.isWord_dotted hr)
  obtain ⟨target, htarget, hpath, hclass⟩ := hb.exists_schemaModule (mem_schemaImports.mp hi).2.2.1
  intro name hname
  rw [List.mem_singleton.mp hname]
  exact ⟨target, b.ofSchemas_subset api htarget, hpath, .inl hclass⟩

theorem Build.IsOf.linked_gathered : Linked b.naming.root? (b.modules api) b.gathered := by
  obtain ⟨-, hgathered⟩ := schemasModule_eq_ok hb.gathered
  rw [hgathered]
  refine Settled.into (List.foldlRecOn _ _ (Settled.start _) ?_) rfl
  intro t ht m hm
  apply ht.takeNames hn (hb.isWord_dotted hr)
  intro name hname
  obtain ⟨c, hc, rfl⟩ := List.mem_map.mp hname
  exact ⟨m, b.ofSchemas_subset api hm, rfl, .inl ⟨c, hc, rfl⟩⟩

theorem Build.IsOf.settled_children (ht : Settled (b.modules api) b.naming folders t) {n : RouteNode}
    (hnode : n ∈ b.root.postOrder) {children : List RouteNode} (hchildren : children ⊆ n.children) :
    Settled (b.modules api) b.naming folders
      (children.foldl (fun t c => t.takeModule (routePath c.package) none) t) := by
  refine List.foldlRecOn _ _ ht fun t ht c hc => ?_
  obtain ⟨hmem, segment, hparts⟩ := Route.child_of_mem_tree hb.root hnode (hchildren hc)
  apply ht.takeModule hn (hb.isWord_dotted hr) none (hb.exists_nodeModule hmem) (hb.exists_nodeModule hnode)
  rw [routePath, ModulePath.dotted_index, Route.package_child hparts, List.cons_append]

theorem Build.IsOf.settled_node {n : RouteNode} (hmem : n ∈ b.root.postOrder) {p : NodeParts}
    (hp : nodeParts api.schemas n = .ok p) (path : ModulePath) :
    Settled (b.modules api) b.naming path.package (nodeImports api.schemas b.naming path n p) := by
  have hwords := hb.isWord_dotted hr
  have hchildren : importedChildren n ⊆ n.children := by
    unfold importedChildren
    split
    · exact List.nil_subset _
    · exact List.Subset.refl _
  have ht := (hb.settled_children hr hn (Settled.start path) hmem hchildren).use p.symbols
  apply Settled.takeNames hn hwords
  · split
    · exact ht
    · apply (ht.useLibrary "httpx").takeNames hn hwords
      intro name hname
      rw [List.mem_singleton.mp hname]
      exact ⟨_, b.config_mem api, rfl, .inr (.inr (.inl ⟨_, List.mem_singleton_self _, rfl⟩))⟩
  · intro name hname
    obtain ⟨ref, href, rfl⟩ := List.mem_map.mp hname
    obtain ⟨e, he⟩ := Option.isSome_iff_exists.mp (get?_of_mem_refs hp href)
    obtain ⟨schema, hschema, -, c, hc, hsymbol⟩ := hb.exists_schemaModule he
    refine ⟨b.gathered, b.gathered_mem api, hb.gathered_path, ?_⟩
    rw [Request.symbolOf, he, Option.map_some, Option.getD_some, ← hsymbol]
    exact hb.gathered_binds hschema hc

theorem Build.IsOf.linked_route {m : Module} (hm : m ∈ b.ofRoutes) : Linked b.naming.root? (b.modules api) m := by
  obtain ⟨n, hmem, hmade⟩ := exists_left_of_mem hb.routeModules hm
  obtain ⟨p, hp, -, rfl⟩ := routeModule_eq_ok hmade
  exact Settled.into (hb.settled_node hr hn (mem_postOrder_of_mem_functionNodes hmem) hp _) rfl

theorem Build.IsOf.linked_aliases : Linked b.naming.root? (b.modules api) (aliasesModule b.naming b.table) := by
  refine Settled.into (List.foldlRecOn _ _ (Settled.start _) ?_) rfl
  rintro t ht ⟨folders, name⟩ hentry
  obtain ⟨o, ho, rfl⟩ := Route.exists_operation_of_mem_packages hb.table (fst_mem_of_mem_localNames hentry)
  obtain ⟨n, hmem, hparts, hmine⟩ := Route.exists_node_of_operation hb.root ho
  have hpackage : Route.packageOf o.path = n.package := by rw [Route.packageOf, RouteNode.package, hparts]
  obtain ⟨m, hm, hpath, -⟩ := hb.exists_functionsModule hmem hmine
  obtain ⟨folder, last, hdotted, hfolder⟩ := hb.exists_folder hmem
  rw [hpackage]
  exact ht.takeModule hn (hb.isWord_dotted hr) (some name) ⟨m, hm, hpath⟩ hfolder hdotted

theorem Build.IsOf.linked_routes : Linked b.naming.root? (b.modules api) (routesModule b.naming b.root b.table) := by
  have hwords := hb.isWord_dotted hr
  have hroot := b.root.self_mem_postOrder
  have hpackage : b.root.package = [] := by
    rw [RouteNode.package, Route.parts_of_tree hb.root, Route.package, List.map_nil]
  have haliases : aliasesModule b.naming b.table ∈ b.modules api := Build.mem_modules.mpr (by simp)
  have hindex : ∃ m ∈ b.modules api, m.path = .index ["routes"] := by
    obtain ⟨m, hm, hpath⟩ := hb.exists_nodeModule hroot
    exact ⟨m, hm, by rw [hpath, hpackage, routePath]⟩
  have hfunctions : ∀ name ∈ b.root.operations.map fun o => Route.functionName o.method,
      ∃ m ∈ b.modules api, m.path = rootOperationsPath ∧ m.Binds name := by
    intro name hname
    obtain ⟨o, ho, rfl⟩ := List.mem_map.mp hname
    obtain ⟨m, hm, hpath, hbinds⟩ := hb.exists_functionsModule hroot ho
    rw [hpackage] at hpath
    exact ⟨m, hm, hpath, hbinds⟩
  have hfree : ∀ name ∈ (freeAliases b.root b.table).map (·.symbol),
      ∃ m ∈ b.modules api, m.path = aliasPath ∧ m.Binds name := by
    intro name hname
    obtain ⟨e, he, rfl⟩ := List.mem_map.mp hname
    have hassign := List.mem_map_of_mem (f := aliasAssign (localNames b.table.symbols b.table.packages))
      (List.mem_of_mem_filter he)
    exact ⟨_, haliases, rfl, .inr (.inr (.inl ⟨_, hassign, rfl⟩))⟩
  have ht := hb.settled_children hr hn (Settled.start routesIndex) hroot (List.Subset.refl _)
  have ht := ht.takeNames hn hwords false hfunctions
  have ht := ht.takeModule hn hwords none ⟨_, haliases, rfl⟩ hindex
    (ModulePath.dotted_inFolders ["routes"] (by decide))
  exact (ht.takeNames hn hwords false hfree).into rfl

theorem Build.IsOf.linked_index :
    Linked b.naming.root? (b.modules api) (indexModule b.naming api (b.gathered.exports.getD [])) := by
  have hwords := hb.isWord_dotted hr
  have hindex : indexModule b.naming api (b.gathered.exports.getD []) ∈ b.modules api :=
    Build.mem_modules.mpr (by simp)
  have hroutes : routesModule b.naming b.root b.table ∈ b.modules api := Build.mem_modules.mpr (by simp)
  have hexports : b.gathered.exports.getD [] = (modelClaims b.ofSchemas).map (·.name) := by
    rw [(schemasModule_eq_ok hb.gathered).2]
    rfl
  have hsettings : ∀ name ∈ ["SDKConfig", "sdk_config"], ∃ m ∈ b.modules api, m.path = configPath ∧ m.Binds name := by
    intro name hname
    rcases List.mem_pair.mp hname with rfl | rfl
    · exact ⟨_, b.config_mem api, rfl, .inl ⟨_, List.mem_singleton_self _, rfl⟩⟩
    · exact ⟨_, b.config_mem api, rfl, .inr (.inr (.inl ⟨_, List.mem_singleton_self _, rfl⟩))⟩
  have hmodels : ∀ name ∈ b.gathered.exports.getD [], ∃ m ∈ b.modules api, m.path = schemasIndex ∧ m.Binds name := by
    intro name hname
    rw [hexports] at hname
    obtain ⟨claim, hclaim, rfl⟩ := List.mem_map.mp hname
    obtain ⟨m, hm, hclaim⟩ := List.mem_flatMap.mp hclaim
    obtain ⟨c, hc, rfl⟩ := List.mem_map.mp hclaim
    exact ⟨b.gathered, b.gathered_mem api, hb.gathered_path, hb.gathered_binds hm hc⟩
  have ht := (Settled.start packageIndex).takeNames hn hwords false hsettings
  have ht := ht.takeNames hn hwords false hmodels
  have ht := ht.takeModule hn hwords (some "client") ⟨_, hroutes, rfl⟩ ⟨_, hindex, rfl⟩
    (ModulePath.dotted_index ["routes"])
  exact ht.into rfl

theorem Build.IsOf.linked {m : Module} (hm : m ∈ b.modules api) : Linked b.naming.root? (b.modules api) m := by
  rcases Build.mem_modules.mp hm with rfl | hm | rfl | hm | rfl | rfl | rfl
  · exact linked_config _ _
  · exact hb.linked_schema hr hn hm
  · exact hb.linked_gathered hr hn
  · exact hb.linked_route hr hn hm
  · exact hb.linked_aliases hr hn
  · exact hb.linked_routes hr hn
  · exact hb.linked_index hr hn

end Links

def pathAt (place : List String) : ModulePath :=
  if place ∈ [["config"], ["routes", Route.rootModule], ["routes", Route.aliasModule]] ∨
      place.head? = some "schemas" ∧ place.length = 2 then
    .inFolders place.dropLast (place.getLast?.getD "")
  else .index place

theorem Build.IsOf.pathAt_dotted (hb : b.IsOf style package api) (hr : api.schemas.WellFormed) :
    ∀ m ∈ b.modules api, pathAt m.path.dotted = m.path := by
  have hfixed : ∀ p ∈ [configPath, schemasIndex, aliasPath, routesIndex, packageIndex],
      pathAt (ModulePath.dotted p) = p := by decide
  intro m hm
  rcases Build.mem_modules.mp hm with rfl | hm | rfl | hm | rfl | rfl | rfl
  · exact hfixed configPath (by decide)
  · obtain ⟨e, he, hm⟩ := exists_of_mem_mapM hb.ofSchemas hm
    rw [path_of_schemaModule hm, dotted_schemaPath hr he]
    rfl
  · rw [hb.gathered_path]
    exact hfixed schemasIndex (by decide)
  · obtain ⟨n, hmem, hm⟩ := exists_left_of_mem hb.routeModules hm
    have hfree {name : String} (hname : name ∈ [Route.rootModule, Route.aliasModule]) :=
      Route.package_ne_reserved hb.root (mem_postOrder_of_mem_functionNodes hmem) hname
    rw [path_of_routeModule hm, dotted_functionsPath, functionsPath]
    split
    · rfl
    · rw [pathAt, if_neg]
      · rfl
      · simp [hfree]
  · exact hfixed aliasPath (by decide)
  · exact hfixed routesIndex (by decide)
  · exact hfixed packageIndex (by decide)

theorem Build.IsOf.nodup_dotted (hb : b.IsOf style package api) (hr : api.schemas.WellFormed) :
    ((b.modules api).map (·.path.dotted)).Nodup := by
  have hpaths : ((b.modules api).map (·.path.dotted)).map pathAt = (b.modules api).map (·.path) := by
    rw [List.map_map]
    exact List.map_congr_left (hb.pathAt_dotted hr)
  exact List.Nodup.of_map pathAt (hpaths ▸ hb.paths)

end Build

/-- Every name that a module takes from its package is there, and each module that it refers to. -/
theorem imports_lead {d : Document} {style : ImportStyle} {package : Option String} {api : Api} {ms : List Module}
    (hd : Registry.ofDocument d = .ok api.schemas) (hp : PlainRoot style package)
    (h : modules style package api = .ok ms) :
    (ms.map (·.path.dotted)).Nodup ∧ ∀ m ∈ ms, Linked (rootName? style package) ms m := by
  have hr := Registry.wellFormed_of_ofDocument hd
  obtain ⟨b, hb, rfl⟩ := exists_build h
  rw [← root?_of_moduleNaming hb.naming]
  exact ⟨hb.nodup_dotted hr, fun m hm => hb.linked hr (isPlain_of_moduleNaming hb.naming hp) hm⟩

theorem imports_lead_nested :
    ∃ (api : Api) (ms : List Module), modules .absolute (some "sdk.client") api = .ok ms ∧
      (ms.map (·.path.dotted)).Nodup ∧ ∀ m ∈ ms, Linked (rootName? .absolute (some "sdk.client")) ms m := by
  let pet : Document := .map [(.text "Pet", .map [(.text "type", .text "object"), (.text "properties", .map [])])]
  let schemas : Registry := ⟨[⟨"Pet", "Pet", "pet", .object ⟨false, .absent⟩ [] [] none⟩]⟩
  let api : Api := { bareApi schemas with operations := [.bare .get "/pets/{id}" (some "readPet")] }
  have hd : Registry.ofDocument pet = .ok api.schemas := rfl
  have hp : PlainRoot .absolute (some "sdk.client") := by
    intro _ name hname
    cases hname
    decide
  have hok : (modules .absolute (some "sdk.client") api).isOk = true := by decide +kernel
  obtain ⟨ms, h⟩ := exists_of_isOk hok
  exact ⟨api, ms, h, imports_lead hd hp h⟩

theorem dotted_root_misleads :
    ∃ (api : Api) (ms : List Module), Registry.ofDocument .null = .ok api.schemas ∧
      modules .absolute (some ".x") api = .ok ms ∧ ¬∀ m ∈ ms, Linked (rootName? .absolute (some ".x")) ms m := by
  let api := bareApi .empty
  have hok : (modules .absolute (some ".x") api).isOk = true := by decide +kernel
  have hplaces : (modules .absolute (some ".x") api).toOption.all (·.all (·.path.dotted ≠ ["x", "config"])) = true := by
    decide +kernel
  have himport : (modules .absolute (some ".x") api).toOption.all (·.any fun m => m.path = packageIndex &&
      m.imports.any fun i => i.group = Import.own ∧ i.source = .inPackage ".x" ["config"] ∧
        ⟨"SDKConfig", none⟩ ∈ i.names) = true := by
    decide +kernel
  obtain ⟨ms, h⟩ := exists_of_isOk hok
  refine ⟨api, ms, rfl, h, fun hall => ?_⟩
  rw [h] at hplaces himport
  obtain ⟨m, hm, himport⟩ := List.any_eq_true.mp himport
  rw [Bool.and_eq_true, decide_eq_true_eq] at himport
  obtain ⟨hpath, himport⟩ := himport
  obtain ⟨i, hi, himport⟩ := List.any_eq_true.mp himport
  obtain ⟨hown, hsource, hname⟩ := of_decide_eq_true himport
  obtain ⟨t, ht, hlocate, -⟩ := (hall m hm).leads false _ _ ⟨i, hi, hown, hsource, hname⟩
  have hplace : ModuleName.locate (rootName? .absolute (some ".x")) packageIndex.package
      (ModuleName.inPackage ".x" ["config"]).text = some ["x", "config"] := by decide +kernel
  rw [hpath, hplace] at hlocate
  have hne := List.all_eq_true.mp hplaces t ht
  exact of_decide_eq_true hne (Option.some.inj hlocate).symm

end Package

end ClientForge
