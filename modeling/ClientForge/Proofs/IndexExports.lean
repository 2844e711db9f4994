import ClientForge.Proofs.Exports

namespace ClientForge

open Outcome

namespace Package

open ImportTable

section Index

variable {style : ImportStyle} {package : Option String} {api : Api} {b : Build} (hb : b.IsOf style package api)
  (hreserved : ∀ e ∈ api.schemas.entries, e.symbol ∉ Naming.reservedSymbols)

theorem scope_config (api : Api) : (configModule api).scope "SDKConfig" = some (.model ["config"] "SDKConfig") ∧
    (configModule api).scope "sdk_config" = some (.value "SDKConfig()") := by
  have hbound := nodup_bound_config api
  constructor
  · exact Module.scope_of_class hbound (List.mem_singleton_self (configClass api)) rfl
  · obtain ⟨s, hscope, -⟩ := Module.scope_of_assign hbound (List.mem_singleton_self _) rfl
    exact hscope.trans rfl

theorem has_indexBase (naming : ModuleNaming) (models : List String) (s : ModuleName) (i : ImportedName) :
    (indexBase naming models).Has s false i ↔
      i.asName = none ∧ (s = naming.nameOf [] ["config"] ∧ i.name ∈ ["SDKConfig", "sdk_config"] ∨
        s = naming.nameOf [] ["schemas"] ∧ i.name ∈ models) := by
  have hconfig : configPath.dotted = ["config"] := by decide
  have hschemas : schemasIndex.dotted = ["schemas"] := by decide
  have hnaming : (start naming packageIndex).naming = naming := rfl
  have hpackage : (start naming packageIndex).package = [] := rfl
  simp only [indexBase, has_takeNames, has_start, naming_takeNames, package_takeNames, hnaming, hpackage, hconfig,
    hschemas, false_or, true_and]
  tauto

theorem naming_indexImports (naming : ModuleNaming) (models : List String) :
    (indexImports naming models).naming = naming := by
  rw [indexImports, naming_takeModule, indexBase, naming_takeNames, naming_takeNames]
  rfl

theorem package_indexImports (naming : ModuleNaming) (models : List String) :
    (indexImports naming models).package = [] := by
  rw [indexImports, package_takeModule, indexBase, package_takeNames, package_takeNames]
  rfl

theorem has_indexImports (naming : ModuleNaming) (models : List String) (s : ModuleName) (i : ImportedName) :
    (indexImports naming models).Has s false i ↔
      (indexBase naming models).Has s false i ∨ s = naming.nameOf [] [] ∧ i = ⟨"routes", some "client"⟩ := by
  have hnaming : (indexBase naming models).naming = naming := naming_indexImports naming models
  have hpackage : (indexBase naming models).package = [] := package_indexImports naming models
  have hfolder : routesIndex.dotted.dropLast = [] := by decide
  have hname : moduleName routesIndex (some "client") = ⟨"routes", some "client"⟩ := by decide
  rw [indexImports, takeModule, has_addFrom, hnaming, hpackage, hfolder]
  change _ ∨ _ ∧ _ ∧ i ∈ [moduleName routesIndex (some "client")] ↔ _
  rw [hname, List.mem_singleton]
  simp only [true_and]

theorem indexModule_imports (naming : ModuleNaming) (api : Api) (models : List String) :
    (indexModule naming api models).Imports (indexImports naming models).foreignImports
      (indexImports naming models).ownImports :=
  imports_into ..

include hb hreserved

theorem Build.IsOf.mem_incidental_index {m : Module} (hm : m.path = packageIndex) {i : Import}
    (hi : i ∈ (indexImports b.naming b.models).ownImports) {x : String} (hx : x ∈ m.incidental i) :
    x ∈ ["config", "schemas", "routes"] := by
  obtain ⟨s, n, place, hhas, hplace, hx⟩ := exists_has_of_incidental (hb.inner_index hreserved).toBrings hm hi hx
  have hcases : n.asName = none ∧ (place = ["config"] ∨ place = ["schemas"]) ∨ place = [] ∧ n.name = "routes" := by
    rcases (has_indexImports ..).mp hhas with hhas | ⟨rfl, rfl⟩
    · obtain ⟨hplain, ⟨rfl, -⟩ | ⟨rfl, -⟩⟩ := (has_indexBase ..).mp hhas
      · rw [ModuleNaming.place?_nameOf, Option.some_inj] at hplace
        exact .inl ⟨hplain, .inl hplace.symm⟩
      · rw [ModuleNaming.place?_nameOf, Option.some_inj] at hplace
        exact .inl ⟨hplain, .inr hplace.symm⟩
    · rw [ModuleNaming.place?_nameOf, Option.some_inj] at hplace
      exact .inr ⟨hplace.symm, rfl⟩
  rcases hx with ⟨rest, rfl⟩ | ⟨-, hnamed, rfl⟩
  · rcases hcases with ⟨-, hplace | hplace⟩ | ⟨hplace, -⟩
    · simp [(List.cons.inj hplace).1]
    · simp [(List.cons.inj hplace).1]
    · cases hplace
  · rcases hcases with ⟨hplain, -⟩ | ⟨-, hname⟩
    · rw [hplain] at hnamed
      cases hnamed
    · simp [hname]

theorem Build.IsOf.ownImports_index : (indexImports b.naming b.models).ownImports =
    ((indexBase b.naming b.models).own.map fun i => ⟨i.source, i.names, Import.own⟩) ++
      [⟨b.naming.nameOf [] [], [⟨"routes", some "client"⟩], Import.own⟩] := by
  have hnaming : (indexBase b.naming b.models).naming = b.naming := naming_indexImports b.naming b.models
  have hpackage : (indexBase b.naming b.models).package = [] := package_indexImports b.naming b.models
  have hfolder : routesIndex.dotted.dropLast = [] := by decide
  have hname : moduleName routesIndex (some "client") = ⟨"routes", some "client"⟩ := by decide
  have hown : (indexImports b.naming b.models).own = (indexBase b.naming b.models).own ++
      [⟨b.naming.nameOf [] [], false, [⟨"routes", some "client"⟩]⟩] := by
    rw [indexImports, takeModule, addFrom, hnaming, hpackage, hfolder]
    change addNames _ _ _ [moduleName routesIndex (some "client")] = _
    rw [addNames_of_notMem, hname]
    · rfl
    · intro o ho
      obtain ⟨n, hhas⟩ := (hb.inner_indexBase hreserved).exists_has ho
      obtain ⟨-, ⟨hsource, -⟩ | ⟨hsource, -⟩⟩ := (has_indexBase ..).mp hhas
      · rw [hsource, (ModuleNaming.nameOf_injective _ _).ne_iff]
        decide
      · rw [hsource, (ModuleNaming.nameOf_injective _ _).ne_iff]
        decide
  rw [(hb.inner_index hreserved).ownImports_eq, hown, List.map_append, List.map_singleton]

theorem Build.IsOf.not_reserved_index {name : String} (h : name ∈ ["SDKConfig", "sdk_config"] ++ b.models) :
    name ∉ ["config", "schemas", "routes"] := by
  rcases List.mem_append.mp h with h | h
  · rcases List.mem_pair.mp h with rfl | rfl <;> decide
  · have hsubset : ["config", "schemas", "routes"] ⊆ Naming.reservedSymbols := by decide
    exact fun hmem => hb.models_notMem_reserved hreserved name h (hsubset hmem)

theorem Build.IsOf.nodup_bound_indexModule : (indexModule b.naming api b.models).bound.Nodup := by
  have hbound := hb.nodup_bound_index hreserved
  rwa [hb.gathered_exports, Option.getD_some] at hbound

theorem Build.IsOf.scope_index (hexports : "__all__" ∉ (indexModule b.naming api b.models).imports.flatMap Import.bound)
    {place : List String} (hplace : place ≠ []) {name : String}
    (hhas : (indexBase b.naming b.models).Has (b.naming.nameOf [] place) false ⟨name, none⟩) :
    (indexModule b.naming api b.models).scope name = some (.member place name) := by
  have hname : name ∈ ["SDKConfig", "sdk_config"] ++ b.models := by
    obtain ⟨-, ⟨-, h⟩ | ⟨-, h⟩⟩ := (has_indexBase ..).mp hhas
    · exact List.mem_append_left _ h
    · exact List.mem_append_right _ h
  have hall := (has_indexImports ..).mpr (.inl hhas)
  have hother : packageIndex ≠ .index place := by
    rw [packageIndex, ModulePath.index, ModulePath.index, Ne, ModulePath.inFolders_inj]
    exact fun h => hplace h.1.symm
  refine scope_taken (indexModule_imports ..) (hb.nodup_bound_indexModule hreserved) (package_indexImports ..)
    (n := ⟨name, none⟩) ?_ hother ⟨fun i hi h => ?_, ?_, fun h => absurd rfl h⟩
  · rwa [naming_indexImports, package_indexImports]
  · exact hb.not_reserved_index hreserved hname (hb.mem_incidental_index hreserved rfl hi h)
  · intro _ hall'
    exact hexports (hall' ▸ bound_mem_imports hall)

theorem Build.IsOf.scope_client : (indexModule b.naming api b.models).scope "client" = some (.module ["routes"]) := by
  have hfree : "routes" ∉ ((indexImports b.naming b.models).foreignImports ++
      (indexBase b.naming b.models).own.map fun i => (⟨i.source, i.names, Import.own⟩ : Import)).flatMap
        Import.bound := by
    rw [(hb.inner_index hreserved).foreignImports_eq_nil, List.nil_append,
      (hb.inner_indexBase hreserved).bound_statements.mem_iff]
    exact fun h => hb.not_reserved_index hreserved h (by decide)
  have hown : (indexModule b.naming api b.models).path = .index [] := rfl
  have hnames : [(⟨"routes", some "client"⟩ : ImportedName)] = [] ++ ⟨"routes", some "client"⟩ :: [] := rfl
  refine Module.scope_of_package (indexModule_imports ..) (hb.nodup_bound_indexModule hreserved)
    (hb.ownImports_index hreserved) (n := ⟨"routes", some "client"⟩) (List.mem_singleton_self _) hown
    (ModuleNaming.place?_nameOf ..) ?_ hnames List.not_mem_nil hfree ?_ ?_
  · exact ⟨fun i hi => absurd hi List.not_mem_nil, fun _ => by decide, fun h => absurd rfl h⟩
  · intro j hj hx
    rw [← (hb.inner_indexBase hreserved).ownImports_eq] at hj
    have hsource (s : ModuleName) (i : ImportedName) (h : (indexBase b.naming b.models).Has s false i) :
        i.asName = none ∧ ∃ place, s = b.naming.nameOf [] place ∧ (place = ["config"] ∨ place = ["schemas"]) := by
      obtain ⟨hplain, ⟨rfl, -⟩ | ⟨rfl, -⟩⟩ := (has_indexBase ..).mp h
      · exact ⟨hplain, _, rfl, .inl rfl⟩
      · exact ⟨hplain, _, rfl, .inr rfl⟩
    obtain ⟨rest, hplace⟩ := exists_submodule_of_incidental (hb.inner_indexBase hreserved).toBrings hown hsource hj hx
    simp at hplace
  · simp

omit hb hreserved in
theorem denotes_settings (b : Build) (api : Api) : Denotes (b.modules api) (.member ["config"] "SDKConfig")
    (.model ["config"] "SDKConfig") ∧ Denotes (b.modules api) (.member ["config"] "sdk_config")
      (.value "SDKConfig()") := by
  have hplace : configPath.dotted = ["config"] := by decide
  obtain ⟨hclass, hvalue⟩ := scope_config api
  exact ⟨.member (b.config_mem api) hplace hclass (.self fun _ _ => Meaning.noConfusion),
    .member (b.config_mem api) hplace hvalue (.self fun _ _ => Meaning.noConfusion)⟩

theorem Build.IsOf.index_survives_iff
    (hgathered : ∀ x ∈ b.models, Survives api b.root (b.modules api) b.gathered x) :
    (∀ x ∈ (indexModule b.naming api b.models).exports.getD [],
      Survives api b.root (b.modules api) (indexModule b.naming api b.models) x) ↔
        "__all__" ∉ (indexModule b.naming api b.models).imports.flatMap Import.bound := by
  constructor
  · intro hall himported
    have hdefined := Module.notMem_defined (hb.nodup_bound_indexModule hreserved) himported
    have hnames := (hb.inner_index hreserved).mem_imports.mp himported
    exact not_survives_of_exports rfl hdefined (hall _ hnames)
  · intro hexports x hx
    change x ∈ ["SDKConfig", "sdk_config"] ++ b.models ++ ["client"] at hx
    rw [List.mem_append, List.mem_append, List.mem_singleton] at hx
    obtain ⟨hclass, hvalue⟩ := denotes_settings b api
    have hconfig : configPath.dotted = ["config"] := by decide
    have htaken {place : List String} {name : String}
        (hplace : place = ["config"] ∧ name ∈ ["SDKConfig", "sdk_config"] ∨ place = ["schemas"] ∧ name ∈ b.models) :
        (indexModule b.naming api b.models).scope name = some (.member place name) := by
      apply hb.scope_index hreserved hexports
      · rcases hplace with ⟨rfl, -⟩ | ⟨rfl, -⟩ <;> exact List.cons_ne_nil _ _
      · refine (has_indexBase ..).mpr ⟨rfl, ?_⟩
        rcases hplace with ⟨rfl, hname⟩ | ⟨rfl, hname⟩
        · exact .inl ⟨rfl, hname⟩
        · exact .inr ⟨rfl, hname⟩
    rcases hx with (hx | hx) | rfl
    · have hscope := htaken (.inl ⟨rfl, hx⟩)
      rcases List.mem_pair.mp hx with rfl | rfl
      · exact ⟨_, _, hscope, hclass, hconfig ▸ .settingsClass rfl⟩
      · exact ⟨_, _, hscope, hvalue, .settings rfl⟩
    · obtain ⟨v, w, hscope, hdenotes, hfor⟩ := hgathered x hx
      obtain ⟨t, ht, hschema, k, hk, rfl, rfl⟩ := hfor.of_gathered hb.gathered_path
      have hplace : b.gathered.path.dotted = ["schemas"] := by
        rw [hb.gathered_path]
        decide
      exact ⟨_, _, htaken (.inr ⟨rfl, hx⟩), .member (b.gathered_mem api) hplace hscope hdenotes,
        .schema (.inr rfl) ht hschema hk⟩
    · have hroutes : routesIndex.dotted = ["routes"] := by decide
      exact ⟨_, _, hb.scope_client hreserved, .self fun _ _ => Meaning.noConfusion, hroutes ▸ .client rfl⟩

end Index

end Package

end ClientForge
