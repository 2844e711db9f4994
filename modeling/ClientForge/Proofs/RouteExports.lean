import ClientForge.Proofs.AliasExports
import ClientForge.Proofs.NodeExports

namespace ClientForge

open Outcome

namespace Package

open ImportTable

section Routes

variable (naming : ModuleNaming) (root : RouteNode) (table : AliasTable)

theorem routesModule_imports : (routesModule naming root table).Imports
    (routesImports naming root table).foreignImports (routesImports naming root table).ownImports :=
  imports_into ..

theorem naming_routesBase : (routesBase naming root).naming = naming := by
  rw [routesBase, naming_takeModule, naming_takeNames, naming_foldl_takeModule]
  rfl

theorem package_routesBase : (routesBase naming root).package = ["routes"] := by
  rw [routesBase, package_takeModule, package_takeNames, package_foldl_takeModule]
  rfl

theorem naming_routesImports : (routesImports naming root table).naming = naming := by
  rw [routesImports, naming_takeNames, naming_routesBase]

theorem package_routesImports : (routesImports naming root table).package = ["routes"] := by
  rw [routesImports, package_takeNames, package_routesBase]

theorem has_routesImports (s : ModuleName) (i : ImportedName) : (routesImports naming root table).Has s false i ↔
    (routesBase naming root).Has s false i ∨ s = naming.nameOf ["routes"] ["routes", "alias"] ∧
      i.asName = none ∧ i.name ∈ (freeAliases root table).map (·.symbol) := by
  have halias : aliasPath.dotted = ["routes", "alias"] := by decide
  rw [routesImports, has_takeNames, naming_routesBase, package_routesBase, halias]
  simp only [true_and]

end Routes

section Build

variable {style : ImportStyle} {package : Option String} {api : Api} {b : Build} (hb : b.IsOf style package api)

include hb

theorem Build.IsOf.root_package : b.root.package = [] := by
  rw [RouteNode.package, Route.parts_of_tree hb.root]
  rfl

theorem Build.IsOf.root_children : ∀ c ∈ b.root.children, ∃ segment, c.parts = b.root.parts ++ [segment] :=
  fun _ hc => (Route.child_of_mem_tree hb.root b.root.self_mem_postOrder hc).2

theorem Build.IsOf.has_routesBase (s : ModuleName) (i : ImportedName) :
    (routesBase b.naming b.root).Has s false i ↔
      s = b.naming.nameOf ["routes"] ["routes"] ∧
        ((∃ c ∈ b.root.children, i = ⟨c.symbol, none⟩) ∨ i = ⟨"alias", none⟩) ∨
      s = b.naming.nameOf ["routes"] ["routes", "_root"] ∧ i.asName = none ∧
        i.name ∈ b.root.operations.map fun o => Route.functionName o.method := by
  have hchildren : (∃ c ∈ b.root.children, s = b.naming.nameOf ["routes"] (routePath c.package).dotted.dropLast ∧
      i = moduleName (routePath c.package) none) ↔
        s = b.naming.nameOf ["routes"] ["routes"] ∧ ∃ c ∈ b.root.children, i = ⟨c.symbol, none⟩ := by
    constructor
    · rintro ⟨c, hc, rfl, rfl⟩
      obtain ⟨segment, hparts⟩ := hb.root_children c hc
      rw [moduleName_child hb.root_children hc, dotted_child hparts, List.dropLast_concat, hb.root_package]
      exact ⟨rfl, c, hc, rfl⟩
    · rintro ⟨rfl, c, hc, rfl⟩
      obtain ⟨segment, hparts⟩ := hb.root_children c hc
      refine ⟨c, hc, ?_, (moduleName_child hb.root_children hc).symm⟩
      rw [dotted_child hparts, List.dropLast_concat, hb.root_package]
  have hfunctions : rootOperationsPath.dotted = ["routes", "_root"] := by decide
  have halias : aliasPath.dotted = ["routes", "alias"] := by decide
  have hfolder : ["routes", "alias"].dropLast = ["routes"] := rfl
  have hlast : ["routes", "alias"].getLast?.getD "" = "alias" := rfl
  have hplain : i = ⟨"alias", none⟩ ↔ i.name = "alias" ∧ i.asName = none := by
    cases i
    exact ImportedName.mk.injEq .. ▸ Iff.rfl
  have hnaming : (start b.naming routesIndex).naming = b.naming := rfl
  have hpackage : (start b.naming routesIndex).package = ["routes"] := rfl
  simp only [routesBase, has_takeModule, has_takeNames, has_foldl_takeModule, has_start, naming_takeNames,
    package_takeNames, naming_foldl_takeModule, package_foldl_takeModule, hnaming, hpackage, hfunctions, halias,
    hfolder, hlast, Option.filter_none, false_or, true_and, hchildren, hplain]
  rw [or_right_comm, ← and_or_left]

theorem Build.IsOf.reserved_notMem_exports {name : String} (h : name ∈ ["_root", "alias"]) : name ∉ b.root.exports := by
  obtain ⟨-, -, -, -, -, hreserved⟩ := Route.makeNode_eq_ok (Route.nodeAt_made hb.root)
  have hfree := List.find?_eq_none.mp hreserved name h
  simpa using hfree

theorem Build.IsOf.source_routesBase (s : ModuleName) (i : ImportedName)
    (h : (routesBase b.naming b.root).Has s false i) : i.asName = none ∧
      ∃ place, s = b.naming.nameOf ["routes"] place ∧ place ∈ [["routes"], ["routes", "_root"]] := by
  rcases (hb.has_routesBase s i).mp h with ⟨rfl, ⟨c, -, rfl⟩ | rfl⟩ | ⟨rfl, hplain, -⟩
  · exact ⟨rfl, _, rfl, by simp⟩
  · exact ⟨rfl, _, rfl, by simp⟩
  · exact ⟨hplain, _, rfl, by simp⟩

theorem Build.IsOf.source_routesImports (s : ModuleName) (i : ImportedName)
    (h : (routesImports b.naming b.root b.table).Has s false i) : i.asName = none ∧
      ∃ place, s = b.naming.nameOf ["routes"] place ∧
        place ∈ [["routes"], ["routes", "_root"], ["routes", "alias"]] := by
  rcases (has_routesImports _ _ _ s i).mp h with h | ⟨rfl, hplain, -⟩
  · obtain ⟨hplain, place, rfl, hplace⟩ := hb.source_routesBase s i h
    exact ⟨hplain, place, rfl, List.mem_append_left [["routes", "alias"]] hplace⟩
  · exact ⟨hplain, _, rfl, by simp⟩

theorem Build.IsOf.mem_incidental_routes {m : Module} (hm : m.path = routesIndex) {i : Import}
    (hi : i ∈ (routesImports b.naming b.root b.table).ownImports) {x : String} (hx : x ∈ m.incidental i) :
    x ∈ ["_root", "alias"] := by
  obtain ⟨rest, hplace⟩ := exists_submodule_of_incidental hb.inner_routes.toBrings hm hb.source_routesImports hi hx
  simp at hplace
  simp
  tauto

theorem Build.IsOf.ownImports_routes (hne : freeAliases b.root b.table ≠ []) :
    ∃ before, (routesImports b.naming b.root b.table).ownImports = before ++
      [⟨b.naming.nameOf ["routes"] ["routes", "alias"],
        ((freeAliases b.root b.table).map (·.symbol)).map (⟨·, none⟩), Import.own⟩] := by
  have halias : aliasPath.dotted = ["routes", "alias"] := by decide
  have hnodup : ((freeAliases b.root b.table).map (·.symbol)).Nodup := hb.inner_routes.nodup.of_append_right
  have hown := own_takeNames (t := routesBase b.naming b.root) aliasPath false
    (by simpa using hne) hnodup (by
      intro o ho
      obtain ⟨n, hhas⟩ := hb.inner_routesBase.exists_has ho
      rw [naming_routesBase, package_routesBase, halias]
      rcases (hb.has_routesBase _ _).mp hhas with ⟨hsource, -⟩ | ⟨hsource, -⟩
      · rw [hsource, (ModuleNaming.nameOf_injective _ _).ne_iff]
        decide
      · rw [hsource, (ModuleNaming.nameOf_injective _ _).ne_iff]
        decide)
  rw [naming_routesBase, package_routesBase, halias] at hown
  rw [hb.inner_routes.ownImports_eq, routesImports, hown, List.map_append, List.map_singleton]
  exact ⟨_, rfl⟩

section Taken

variable (hexports : "__all__" ∉ (routesModule b.naming b.root b.table).imports.flatMap Import.bound)

include hexports

theorem Build.IsOf.quiet_routes {x : String} (hx : x ∈ b.root.exports)
    (hmem : x ∈ (routesModule b.naming b.root b.table).imports.flatMap Import.bound) :
    (routesModule b.naming b.root b.table).Quiet (routesImports b.naming b.root b.table).ownImports x := by
  refine ⟨fun i hi h => ?_, ?_, fun h => absurd rfl h⟩
  · exact hb.reserved_notMem_exports (hb.mem_incidental_routes rfl hi h) hx
  · rintro - rfl
    exact hexports hmem

theorem Build.IsOf.scope_routes_child {c : RouteNode} (hc : c ∈ b.root.children) :
    (routesModule b.naming b.root b.table).scope c.symbol = some (.module (routePath c.package).dotted) := by
  have hmem : c.symbol ∈ b.root.exports := by
    rw [hb.root_exports]
    exact List.mem_append_right _ (List.mem_map_of_mem hc)
  have hhas : (routesImports b.naming b.root b.table).Has (b.naming.nameOf ["routes"] ["routes"]) false
      ⟨c.symbol, none⟩ :=
    (has_routesImports ..).mpr (.inl ((hb.has_routesBase _ _).mpr (.inl ⟨rfl, .inl ⟨c, hc, rfl⟩⟩)))
  obtain ⟨segment, hparts⟩ := hb.root_children c hc
  rw [dotted_child hparts, hb.root_package]
  refine scope_taken_own (routesModule_imports ..) hb.nodup_bound_routes (package_routesImports ..)
    (n := ⟨c.symbol, none⟩) ?_ rfl ?_ ?_
  · rwa [naming_routesImports, package_routesImports]
  · exact fun i hi => (hb.source_routesImports _ i hi).1
  · exact hb.quiet_routes hexports hmem (bound_mem_imports hhas)

theorem Build.IsOf.scope_routes_function {o : Operation} (ho : o ∈ b.root.operations) :
    (routesModule b.naming b.root b.table).scope (Route.functionName o.method) =
      some (.member ["routes", "_root"] (Route.functionName o.method)) := by
  have hmem : Route.functionName o.method ∈ b.root.exports := by
    rw [hb.root_exports]
    exact List.mem_append_left _ (List.mem_map_of_mem ho)
  have hhas : (routesImports b.naming b.root b.table).Has (b.naming.nameOf ["routes"] ["routes", "_root"]) false
      ⟨Route.functionName o.method, none⟩ :=
    (has_routesImports ..).mpr (.inl ((hb.has_routesBase _ _).mpr (.inr ⟨rfl, rfl, List.mem_map_of_mem ho⟩)))
  refine scope_taken (routesModule_imports ..) hb.nodup_bound_routes (package_routesImports ..)
    (n := ⟨_, none⟩) ?_ ?_ ?_
  · rwa [naming_routesImports, package_routesImports]
  · have hother : routesIndex ≠ .index ["routes", "_root"] := by decide
    exact hother
  · exact hb.quiet_routes hexports hmem (bound_mem_imports hhas)

theorem Build.IsOf.scope_routes_free {e : AliasEntry} (he : e ∈ freeAliases b.root b.table) :
    (routesModule b.naming b.root b.table).scope e.symbol = some (.member ["routes", "alias"] e.symbol) := by
  obtain ⟨before, hsplit⟩ := hb.ownImports_routes (List.ne_nil_of_mem he)
  have hhas : (routesImports b.naming b.root b.table).Has (b.naming.nameOf ["routes"] ["routes", "alias"]) false
      ⟨e.symbol, none⟩ := (has_routesImports ..).mpr (.inr ⟨rfl, rfl, List.mem_map_of_mem he⟩)
  have hother : routesIndex ≠ .index ["routes", "alias"] := by decide
  refine Module.scope_of_member (routesModule_imports ..) hb.nodup_bound_routes hsplit (n := ⟨e.symbol, none⟩)
    (List.mem_map_of_mem (List.mem_map_of_mem he)) (ModuleNaming.place?_nameOf ..) hother ?_
  refine ⟨fun i hi => absurd hi List.not_mem_nil, ?_, fun h => absurd rfl h⟩
  intro _ hname
  exact hexports (hname ▸ bound_mem_imports hhas)

omit hexports in
theorem Build.IsOf.scope_routes_aliases :
    (routesModule b.naming b.root b.table).scope "alias" = some (.module ["routes", "alias"]) := by
  have hhas : (routesImports b.naming b.root b.table).Has (b.naming.nameOf ["routes"] ["routes"]) false
      ⟨"alias", none⟩ := (has_routesImports ..).mpr (.inl ((hb.has_routesBase _ _).mpr (.inl ⟨rfl, .inr rfl⟩)))
  have himported := bound_mem_imports hhas
  by_cases hempty : freeAliases b.root b.table = []
  · refine scope_taken_own (routesModule_imports ..) hb.nodup_bound_routes (package_routesImports ..)
      (n := ⟨"alias", none⟩) ?_ rfl ?_ ⟨fun i hi hx => ?_, fun _ => by decide, fun h => absurd rfl h⟩
    · rwa [naming_routesImports, package_routesImports]
    · exact fun i hi => (hb.source_routesImports _ i hi).1
    · have hbase : routesImports b.naming b.root b.table = routesBase b.naming b.root := by
        rw [routesImports, hempty]
        rfl
      rw [hbase] at hi
      obtain ⟨rest, hplace⟩ :=
        exists_submodule_of_incidental hb.inner_routesBase.toBrings rfl hb.source_routesBase hi hx
      simp at hplace
  · obtain ⟨before, hsplit⟩ := hb.ownImports_routes hempty
    have hother : routesIndex ≠ .index ["routes", "alias"] := by decide
    have hsubmodule : (routesModule b.naming b.root b.table).submodule? ["routes", "alias"] = some "alias" :=
      Module.submodule?_eq_some.mpr ⟨rfl, [], rfl⟩
    refine Module.scope_of_submodule (routesModule_imports ..) hsplit (ModuleNaming.place?_nameOf ..) hsubmodule hother
      ?_ ?_
    · have hnodup := (List.nodup_append.mp hb.inner_routes.nodup).2.2
      intro hmem
      obtain ⟨n, hn, hname⟩ := List.mem_map.mp hmem
      obtain ⟨x, hx, rfl⟩ := List.mem_map.mp hn
      exact hnodup "alias" (List.mem_append_right _ (List.mem_singleton_self _)) x hx hname.symm
    · exact Module.notMem_lateSteps ⟨fun i hi => absurd hi List.not_mem_nil, fun _ => by decide, fun h => absurd rfl h⟩
        List.not_mem_nil (Module.notMem_defined hb.nodup_bound_routes himported)

end Taken

theorem Build.IsOf.denotes_function (hreserved : ∀ e ∈ api.schemas.entries, e.symbol ∉ Naming.reservedSymbols)
    {o : Operation} (ho : o ∈ b.root.operations) : Denotes (b.modules api)
      (.member ["routes", "_root"] (Route.functionName o.method))
      (.function (functionsPath b.root.package).dotted (Route.functionName o.method)) := by
  have hn : b.root ∈ functionNodes b.root :=
    mem_functionNodes hb.root b.root.self_mem_postOrder fun _ => List.ne_nil_of_mem ho
  obtain ⟨m, hm, hmade⟩ := exists_right_of_mem hb.routeModules hn
  have hplace : m.path.dotted = ["routes", "_root"] := by
    rw [path_of_routeModule hmade, hb.root_package]
    decide
  exact .member (b.ofRoutes_subset api hm) hplace (hb.scope_function hreserved hm hmade ho)
    (.self fun _ _ => Meaning.noConfusion)

theorem Build.IsOf.denotes_alias (hexports : "__all__" ∉ (aliasesModule b.naming b.table).imports.flatMap Import.bound)
    {o : Operation} (ho : o ∈ api.operations) {id : String} (hid : Route.idOf? o = some id) :
    Denotes (b.modules api) (.member ["routes", "alias"] (Naming.identifier id)) (aliasMeaning o) := by
  have hplace : aliasPath.dotted = ["routes", "alias"] := by decide
  exact .member (Build.mem_modules.mpr (by simp)) hplace (scope_alias_of_operation hb.table b.naming hexports ho hid)
    (.self fun _ _ => Meaning.noConfusion)

theorem Build.IsOf.routes_survive_iff (hreserved : ∀ e ∈ api.schemas.entries, e.symbol ∉ Naming.reservedSymbols)
    (haliases : "__all__" ∉ (aliasesModule b.naming b.table).imports.flatMap Import.bound) :
    (∀ x ∈ (routesModule b.naming b.root b.table).exports.getD [],
      Survives api b.root (b.modules api) (routesModule b.naming b.root b.table) x) ↔
        "__all__" ∉ (routesModule b.naming b.root b.table).imports.flatMap Import.bound := by
  have hroot := b.root.self_mem_postOrder
  have hmem {x : String} : x ∈ (routesModule b.naming b.root b.table).exports.getD [] ↔
      x ∈ b.root.exports ∨ x = "alias" ∨ x ∈ (freeAliases b.root b.table).map (·.symbol) := by
    change x ∈ b.root.exports ++ "alias" :: (freeAliases b.root b.table).map (·.symbol) ↔ _
    rw [List.mem_append, List.mem_cons]
  constructor
  · intro hall himported
    have hdefined := Module.notMem_defined hb.nodup_bound_routes himported
    have hnames := hb.inner_routes.mem_imports.mp himported
    refine not_survives_of_exports rfl hdefined (hall _ (hmem.mpr ?_))
    rw [hb.root_exports]
    simp only [List.mem_append, List.mem_singleton] at hnames ⊢
    rcases hnames with ((hchild | hfunction) | halias) | hfree
    · exact .inl (.inr hchild)
    · exact .inl (.inl hfunction)
    · exact .inr (.inl halias)
    · exact .inr (.inr hfree)
  · intro hexports x hx
    rcases hmem.mp hx with hx | rfl | hx
    · rw [hb.root_exports, List.mem_append] at hx
      rcases hx with hx | hx
      · obtain ⟨o, ho, rfl⟩ := List.mem_map.mp hx
        exact ⟨_, _, hb.scope_routes_function hexports ho, hb.denotes_function hreserved ho,
          .function hroot ho (.inr ⟨rfl, rfl⟩)⟩
      · obtain ⟨c, hc, rfl⟩ := List.mem_map.mp hx
        refine ⟨_, _, hb.scope_routes_child hexports hc, .self fun _ _ => Meaning.noConfusion, .child hroot hc ?_⟩
        rw [hb.root_package]
        rfl
    · have halias : aliasPath.dotted = ["routes", "alias"] := by decide
      exact ⟨_, _, hb.scope_routes_aliases, .self fun _ _ => Meaning.noConfusion, halias ▸ .aliases rfl⟩
    · obtain ⟨e, he, rfl⟩ := List.mem_map.mp hx
      have hscope := hb.scope_routes_free hexports he
      obtain ⟨hentry, hfree⟩ := List.mem_filter.mp he
      obtain ⟨o, ho, id, hid, rfl⟩ := exists_operation_of_alias hb.table hentry
      refine ⟨_, _, hscope, hb.denotes_alias haliases ho hid, .byId ho hid (.inr ⟨rfl, ?_⟩)⟩
      change (!(b.root.exports ++ ["alias"]).contains (Naming.identifier id)) = true at hfree
      simpa [or_comm] using hfree

end Build

end Package

end ClientForge
