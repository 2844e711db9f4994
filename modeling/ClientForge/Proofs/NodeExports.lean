import ClientForge.Proofs.Exports

namespace ClientForge

open Outcome

namespace Package

open ImportTable

theorem dotted_child {n c : RouteNode} {segment : String} (h : c.parts = n.parts ++ [segment]) :
    (routePath c.package).dotted = ("routes" :: n.package) ++ [c.symbol] := by
  rw [routePath, ModulePath.dotted_index, Route.package_child h, List.cons_append]

section Nodes

variable {r : Registry} {naming : ModuleNaming} {n : RouteNode} {p : NodeParts}

theorem naming_nodeImports (r : Registry) (naming : ModuleNaming) (path : ModulePath) (n : RouteNode) (p : NodeParts) :
    (nodeImports r naming path n p).naming = naming := by
  unfold nodeImports
  split <;> simp [use, useLibrary, start]

theorem package_nodeImports (r : Registry) (naming : ModuleNaming) (path : ModulePath) (n : RouteNode) (p : NodeParts) :
    (nodeImports r naming path n p).package = path.package := by
  unfold nodeImports
  split <;> simp [use, useLibrary, start]

theorem has_nodeImports_iff (path : ModulePath) (s : ModuleName) (i : ImportedName) :
    (nodeImports r naming path n p).Has s false i ↔
      (∃ c ∈ importedChildren n, s = naming.nameOf path.package (routePath c.package).dotted.dropLast ∧
        i = moduleName (routePath c.package) none) ∨
      p.definitions.isEmpty = false ∧ s = naming.nameOf path.package configPath.dotted ∧ i = ⟨"sdk_config", none⟩ ∨
      s = naming.nameOf path.package schemasIndex.dotted ∧ i.asName = none ∧
        i.name ∈ p.refs.map (Request.symbolOf r) := by
  have hchildren (t : ImportTable) (ht : t = (importedChildren n).foldl (fun t c =>
      t.takeModule (routePath c.package) none) (start naming path)) : (t.use p.symbols).Has s false i ↔
        ∃ c ∈ importedChildren n, s = naming.nameOf path.package (routePath c.package).dotted.dropLast ∧
          i = moduleName (routePath c.package) none := by
    subst ht
    refine (has_foldl_takeModule ..).trans ?_
    simp only [has_start, false_or, true_and]
    rfl
  have hplain (name : String) : i = ⟨name, none⟩ ↔ i.asName = none ∧ i.name = name := by
    cases i
    rw [ImportedName.mk.injEq, and_comm]
  unfold nodeImports
  rw [has_takeNames]
  split
  · rename_i hempty
    rw [hchildren _ rfl]
    simp [hempty, use, start]
  · rename_i hne
    have huse (t : ImportTable) : (t.useLibrary "httpx").Has s false i ↔ t.Has s false i := .rfl
    rw [has_takeNames, huse, hchildren _ rfl]
    simp [hne, use, useLibrary, start, or_assoc, hplain]

variable (hchildren : ∀ c ∈ n.children, ∃ segment, c.parts = n.parts ++ [segment])

include hchildren

theorem moduleName_child {c : RouteNode} (hc : c ∈ n.children) :
    moduleName (routePath c.package) none = ⟨c.symbol, none⟩ := by
  obtain ⟨segment, hparts⟩ := hchildren c hc
  rw [moduleName, dotted_child hparts, List.getLast?_concat]
  rfl

theorem source_nodeImports {s : ModuleName} {i : ImportedName}
    (h : (nodeImports r naming (routePath n.package) n p).Has s false i) : i.asName = none ∧
      ∃ place, s = naming.nameOf ("routes" :: n.package) place ∧
        (place = "routes" :: n.package ∨ place.head? ≠ some "routes") := by
  have hfolders : (routePath n.package).package = "routes" :: n.package := ModulePath.package_index _
  have hconfig : configPath.dotted.head? ≠ some "routes" := by decide
  have hschemas : schemasIndex.dotted.head? ≠ some "routes" := by decide
  rcases (has_nodeImports_iff _ s i).mp h with ⟨c, hc, rfl, rfl⟩ | ⟨-, rfl, rfl⟩ | ⟨rfl, hi, -⟩
  · have hc := (mem_importedChildren.mp hc).2
    obtain ⟨segment, hparts⟩ := hchildren c hc
    rw [moduleName_child hchildren hc, dotted_child hparts, List.dropLast_concat, hfolders]
    exact ⟨rfl, _, rfl, .inl rfl⟩
  · exact ⟨rfl, _, by rw [hfolders], .inr hconfig⟩
  · exact ⟨hi, _, by rw [hfolders], .inr hschemas⟩

theorem notMem_incidental_node {names : List String} (hbrings : (nodeImports r naming (routePath n.package) n p).Brings
    names) {m : Module} (hm : m.path = routePath n.package) (x : String) :
    ∀ i ∈ (nodeImports r naming (routePath n.package) n p).ownImports, x ∉ m.incidental i := by
  intro i hi hx
  obtain ⟨rest, hown | hother⟩ := exists_submodule_of_incidental hbrings hm
    (fun _ _ h => source_nodeImports hchildren h) hi hx
  · simp at hown
  · exact hother rfl

end Nodes

section Build

variable {style : ImportStyle} {package : Option String} {api : Api} {b : Build} (hb : b.IsOf style package api)
  (hreserved : ∀ e ∈ api.schemas.entries, e.symbol ∉ Naming.reservedSymbols) {n : RouteNode} {m : Module}

include hb

theorem Build.IsOf.mem_exports_node (hn : n ∈ functionNodes b.root)
    (hm : routeModule api.schemas b.naming (functionsPath n.package) n = .ok m) {x : String} :
    x ∈ m.exports.getD [] ↔
      (∃ o ∈ n.operations, Route.functionName o.method = x) ∨ ∃ c ∈ importedChildren n, c.symbol = x := by
  obtain ⟨p, hp, -, rfl⟩ := routeModule_eq_ok hm
  obtain ⟨fuel, hnode⟩ := Route.nodeAt_of_mem_postOrder hb.root (mem_postOrder_of_mem_functionNodes hn)
  obtain ⟨-, -, -, hexports, -⟩ := Route.makeNode_eq_ok (Route.nodeAt_made hnode)
  have hnames : p.operations.map (·.name) = n.operations.map fun o => Route.functionName o.method := by
    rw [NodeParts.operations, List.map_map, ← List.forall₂_eq_eq_eq, List.forall₂_map_left_iff,
      List.forall₂_map_right_iff]
    exact (nodeParts_eq_ok hp).flip.imp fun d o hd => (Request.define_eq_ok hd).1
  simp only [into, Option.getD_some, importedChildren]
  split
  · rw [hnames]
    simp
  · rw [hexports, Route.exportClaims]
    simp

include hreserved

theorem Build.IsOf.scope_function (hm : m ∈ b.ofRoutes)
    (hmade : routeModule api.schemas b.naming (functionsPath n.package) n = .ok m) {o : Operation}
    (ho : o ∈ n.operations) : m.scope (Route.functionName o.method) =
      some (.function (functionsPath n.package).dotted (Route.functionName o.method)) := by
  have hbound := hb.nodup_bound hreserved m (b.ofRoutes_subset api hm)
  obtain ⟨p, hp, -, rfl⟩ := routeModule_eq_ok hmade
  obtain ⟨⟨d, needs⟩, hd, hdefine⟩ := exists_right_of_mem (nodeParts_eq_ok hp) ho
  rw [← (Request.define_eq_ok hdefine).1]
  exact Module.scope_of_operation hbound (List.mem_map_of_mem hd) rfl

theorem Build.IsOf.scope_child (hm : m ∈ b.ofRoutes) (hn : n ∈ b.root.postOrder)
    (hmade : routeModule api.schemas b.naming (functionsPath n.package) n = .ok m)
    (hexports : "__all__" ∉ m.imports.flatMap Import.bound) {c : RouteNode} (hc : c ∈ importedChildren n) :
    m.scope c.symbol = some (.module (routePath c.package).dotted) := by
  have hbound := hb.nodup_bound hreserved m (b.ofRoutes_subset api hm)
  have hchildren : ∀ c ∈ n.children, ∃ segment, c.parts = n.parts ++ [segment] :=
    fun c hc => (Route.child_of_mem_tree hb.root hn hc).2
  obtain ⟨hroot, hchild⟩ := mem_importedChildren.mp hc
  obtain ⟨segment, hparts⟩ := hchildren c hchild
  rw [functionsPath_of_isRoot hroot] at hmade
  obtain ⟨p, hp, hclash, rfl⟩ := routeModule_eq_ok hmade
  have hbrings : (nodeImports api.schemas b.naming (routePath n.package) n p).Brings _ :=
    brings_nodeImports hclash hp hchildren _
  have hfolders : (routePath n.package).package = "routes" :: n.package := ModulePath.package_index _
  have hpackage := package_nodeImports api.schemas b.naming (routePath n.package) n p
  have hnaming := naming_nodeImports api.schemas b.naming (routePath n.package) n p
  have hhas : (nodeImports api.schemas b.naming (routePath n.package) n p).Has
      (b.naming.nameOf ("routes" :: n.package) ("routes" :: n.package)) false ⟨c.symbol, none⟩ := by
    refine (has_nodeImports_iff _ _ _).mpr (.inl ⟨c, hc, ?_, (moduleName_child hchildren hchild).symm⟩)
    rw [dotted_child hparts, List.dropLast_concat, hfolders]
  have hscope := scope_taken_own (imports_into ..) hbound hpackage (by rwa [hnaming, hpackage, hfolders]) rfl
    (fun i hi => (source_nodeImports hchildren hi).1)
    ⟨notMem_incidental_node hchildren hbrings rfl _, ?_, fun h => absurd rfl h⟩
  · rwa [dotted_child hparts]
  · intro _ (hname : c.symbol = "__all__")
    have hmem : c.symbol ∈ _ := bound_mem_imports hhas
    exact hexports (hname ▸ hmem)

omit hreserved in
theorem Build.IsOf.exists_child_of_imported (hmodels : "__all__" ∉ b.models) (hn : n ∈ b.root.postOrder)
    (hmade : routeModule api.schemas b.naming (functionsPath n.package) n = .ok m)
    (himported : "__all__" ∈ m.imports.flatMap Import.bound) : ∃ c ∈ importedChildren n, c.symbol = "__all__" := by
  have hchildren : ∀ c ∈ n.children, ∃ segment, c.parts = n.parts ++ [segment] :=
    fun c hc => (Route.child_of_mem_tree hb.root hn hc).2
  obtain ⟨p, hp, hclash, rfl⟩ := routeModule_eq_ok hmade
  have hbrings : (nodeImports api.schemas b.naming (functionsPath n.package) n p).Brings _ :=
    brings_nodeImports hclash hp hchildren _
  have hlibraries : (nodeImports api.schemas b.naming (functionsPath n.package) n p).libraries.Sublist ["httpx"] := by
    rw [libraries_nodeImports]
    split <;> simp
  have hnames := hbrings.mem_of_imports hlibraries himported (by decide)
  rw [List.mem_append, List.mem_append] at hnames
  rcases hnames with (hchild | hsettings) | href
  · exact List.mem_map.mp hchild
  · exact absurd (eq_of_mem_settingsNames hsettings) (by decide)
  · obtain ⟨ref, href, hname⟩ := List.mem_map.mp href
    obtain ⟨e, he⟩ := Option.isSome_iff_exists.mp (get?_of_mem_refs hp href)
    obtain ⟨schema, hschema, -, k, hk, hsymbol⟩ := hb.exists_schemaModule he
    rw [Request.symbolOf, he, Option.map_some, Option.getD_some, ← hsymbol] at hname
    exact absurd (Build.mem_models.mpr ⟨schema, hschema, k, hk, hname⟩) hmodels

theorem Build.IsOf.node_survives_iff (hmodels : "__all__" ∉ b.models) (hm : m ∈ b.ofRoutes) :
    (∀ x ∈ m.exports.getD [], Survives api b.root (b.modules api) m x) ↔
      "__all__" ∉ m.imports.flatMap Import.bound := by
  obtain ⟨n, hn, hmade⟩ := exists_left_of_mem hb.routeModules hm
  have hnode := mem_postOrder_of_mem_functionNodes hn
  have hexports (x : String) := hb.mem_exports_node hn hmade (x := x)
  constructor
  · intro hall himported
    have hbound := hb.nodup_bound hreserved m (b.ofRoutes_subset api hm)
    have hchild := hb.exists_child_of_imported hmodels hnode hmade himported
    have hexported := (hexports "__all__").mpr (.inr hchild)
    obtain ⟨p, -, -, rfl⟩ := routeModule_eq_ok hmade
    exact not_survives_of_exports rfl (Module.notMem_defined hbound himported) (hall _ hexported)
  · intro hfree x hx
    rcases (hexports x).mp hx with ⟨o, ho, rfl⟩ | ⟨c, hc, rfl⟩
    · exact ⟨_, _, hb.scope_function hreserved hm hmade ho, .self fun _ _ => Meaning.noConfusion,
        .function hnode ho (.inl (path_of_routeModule hmade))⟩
    · obtain ⟨hroot, hchild⟩ := mem_importedChildren.mp hc
      refine ⟨_, _, hb.scope_child hreserved hm hnode hmade hfree hc, .self fun _ _ => Meaning.noConfusion,
        .child hnode hchild ?_⟩
      rw [path_of_routeModule hmade, functionsPath_of_isRoot hroot]

end Build

end Package

end ClientForge
