import ClientForge.Proofs.BroughtNames

namespace ClientForge

open Outcome

namespace Package

open ImportTable

section Schemas

variable {r : Registry} {naming : ModuleNaming} {reach : String → List String} {e : NamedSchema} {m : Module}

theorem nodup_bound_config (api : Api) : (configModule api).bound.Nodup := by
  have hlibrary := Library.bound_imports ["BaseModel", "Field"]
  have hbound : (configModule api).bound.Perm
      (Library.symbols.filter (· ∈ ["BaseModel", "Field"]) ++ ["SDKConfig", "sdk_config"]) := by
    simp only [Module.bound, configModule, Module.blank, futureNames, List.append_nil, List.nil_append]
    exact hlibrary.append_right _
  exact hbound.nodup_iff.mpr (by decide)

theorem classes_notMem_reserved (hreserved : ∀ e ∈ r.entries, e.symbol ∉ Naming.reservedSymbols) (he : e ∈ r.entries)
    (hm : schemaModule r naming reach e = .ok m) : ∀ k ∈ m.classes, k.name ∉ Naming.reservedSymbols := by
  obtain ⟨c, hc, hclasses, -⟩ := takes_schemaModule hm
  obtain ⟨before, own, hmodels, hname, hfresh⟩ := NamedSchema.compile_last he hc
  intro k hk hmem
  rw [hclasses, hmodels] at hk
  rcases List.mem_append.mp hk with hk | hk
  · exact hfresh k hk (List.mem_append_right _ hmem)
  · rw [List.mem_singleton.mp hk, hname] at hmem
    exact hreserved e he hmem

theorem schemaClaims_names (imports : List SchemaImport) (models : List ClassDef) :
    (schemaClaims imports models).map (·.name) = imports.map (fun i => i.target.symbol) ++ models.map (·.name) := by
  rw [schemaClaims, List.map_append, List.map_map, List.map_map]
  rfl

theorem brings_schemaTable {c : Compiled}
    (hclash : Naming.clash (schemaClaims (schemaImports r reach e.name c) c.models) = none) :
    (schemaTable r naming reach e c).Brings ((schemaImports r reach e.name c).map fun i => i.target.symbol) := by
  have hclaims := Naming.nodup_of_clash hclash
  rw [schemaClaims_names] at hclaims
  have himports : ((schemaImports r reach e.name c).flatMap fun i => [i.target.symbol]) =
      (schemaImports r reach e.name c).map fun i => i.target.symbol := List.flatMap_pure_eq_map _ _
  have hbrings : (schemaTable r naming reach e c).Brings
      ([] ++ (schemaImports r reach e.name c).flatMap fun i => [i.target.symbol]) := by
    apply ((brings_start naming (schemaPath e.module)).use c.symbols).foldl_takeNames
    rw [List.nil_append, himports]
    exact hclaims.of_append_left
  rwa [himports, List.nil_append] at hbrings

theorem libraries_schemaTable (e : NamedSchema) (c : Compiled) : (schemaTable r naming reach e c).libraries = [] :=
  libraries_foldl_takeNames ..

theorem nodup_bound_schema (hreserved : ∀ e ∈ r.entries, e.symbol ∉ Naming.reservedSymbols) (he : e ∈ r.entries)
    (hm : schemaModule r naming reach e = .ok m) : m.bound.Nodup := by
  have hclasses := classes_notMem_reserved hreserved he hm
  obtain ⟨c, hc, hclash, rfl⟩ := schemaModule_eq_ok hm
  have hclaims := Naming.nodup_of_clash hclash
  rw [schemaClaims_names] at hclaims
  rw [((brings_schemaTable hclash).bound_into _).nodup_iff]
  simp only [Module.blank, List.map_nil, List.append_nil]
  rw [List.nodup_append]
  refine ⟨foreign_nodup (by simp [libraries_schemaTable]) _, hclaims, ?_⟩
  rintro name hforeign name' hown rfl
  have hmem := foreign_subset_reserved (by simp [libraries_schemaTable]) _ hforeign
  rcases List.mem_append.mp hown with hown | hown
  · obtain ⟨i, hi, rfl⟩ := List.mem_map.mp hown
    exact hreserved _ (Registry.mem_of_get? (mem_schemaImports.mp hi).2.2.1).1 hmem
  · obtain ⟨k, hk, rfl⟩ := List.mem_map.mp hown
    exact hclasses k hk hmem

end Schemas

section Routes

variable {r : Registry} {naming : ModuleNaming} {n c : RouteNode} {p : NodeParts} {m : Module}

theorem bound_child {segment : String} (h : c.parts = n.parts ++ [segment]) :
    (moduleName (routePath c.package) none).bound = c.symbol := by
  have hdotted : (routePath c.package).dotted = ("routes" :: n.package) ++ [c.symbol] := by
    rw [routePath, ModulePath.dotted_index, Route.package_child h, List.cons_append]
  rw [moduleName, hdotted, List.getLast?_concat]
  rfl

theorem mem_importedChildren {c : RouteNode} : c ∈ importedChildren n ↔ n.isRoot = false ∧ c ∈ n.children := by
  unfold importedChildren
  split
  · rename_i h
    simp [h]
  · rename_i h
    simp [h]

theorem nodeClaims_names (hp : nodeParts r n = .ok p) :
    (nodeClaims r n p).map (·.name) = (importedChildren n).map RouteNode.symbol ++ p.operations.map (·.name)
      ++ p.refs.map (Request.symbolOf r) ++ p.classes.map (·.name) ++ p.adapters.map (·.name) ++ p.library := by
  have hlength : p.operations.length ≤ n.operations.length := by
    rw [NodeParts.operations, List.length_map]
    exact (nodeParts_eq_ok hp).length_eq.ge
  have hzip : (p.operations.zip n.operations).map (fun x => x.1.name) = p.operations.map (·.name) := by
    have hfst := congrArg (List.map OperationDef.name) (List.map_fst_zip hlength)
    rwa [List.map_map] at hfst
  simp only [nodeClaims, List.map_append, List.map_map]
  have hid : p.library.map ((·.name) ∘ fun name => (⟨name, s!"the import of '{name}'"⟩ : Naming.Claim)) = p.library :=
    List.map_id' _
  rw [hid]
  exact congrArg (_ ++ · ++ _ ++ _ ++ _ ++ _) hzip

def settingsNames (p : NodeParts) : List String := if p.definitions.isEmpty then [] else ["sdk_config"]

theorem eq_of_mem_settingsNames {x : String} (h : x ∈ settingsNames p) : x = "sdk_config" := by
  unfold settingsNames at h
  split at h
  · cases h
  · exact List.mem_singleton.mp h

theorem libraries_nodeImports (path : ModulePath) :
    (nodeImports r naming path n p).libraries = if p.definitions.isEmpty then [] else ["httpx"] := by
  have hchildren (path : ModulePath) : ((importedChildren n).foldl (fun t c => t.takeModule (routePath c.package) none)
      (ImportTable.start naming path)).libraries = [] := libraries_foldl_takeModule ..
  unfold nodeImports
  rw [libraries_takeNames]
  split
  · exact hchildren path
  · rw [libraries_takeNames]
    simp [useLibrary, use, hchildren, add]

theorem mem_symbols_nodeImports (path : ModulePath) {name : String} :
    name ∈ (nodeImports r naming path n p).symbols ↔ name ∈ p.symbols := by
  have huse (t : ImportTable) (h : t.symbols = []) : name ∈ (t.use p.symbols).symbols ↔ name ∈ p.symbols := by
    rw [ImportTable.use, mem_foldl_add, h]
    simp
  have hchildren := symbols_foldl_takeModule (ImportTable.start naming path) (importedChildren n)
    (fun c => routePath c.package) (fun _ => none)
  unfold nodeImports
  rw [symbols_takeNames]
  split
  · exact huse _ hchildren
  · rw [symbols_takeNames]
    exact huse _ hchildren

theorem not_deferred_nodeImports (path : ModulePath) (s : ModuleName) (i : ImportedName) :
    ¬(nodeImports r naming path n p).Has s true i := by
  have hchildren (t : ImportTable) (h : ¬t.Has s true i) : ¬((importedChildren n).foldl
      (fun t c => t.takeModule (routePath c.package) none) t).Has s true i := by
    rw [has_foldl_takeModule]
    simpa using h
  have hnode := hchildren _ (has_start naming path s true i)
  unfold nodeImports
  rw [has_takeNames]
  split
  · rintro (h | ⟨-, h, -⟩)
    · exact hnode h
    · cases h
  · rw [has_takeNames]
    rintro ((h | ⟨-, h, -⟩) | ⟨-, h, -⟩)
    · exact hnode h
    · cases h
    · cases h

variable (hclash : Naming.clash (nodeClaims r n p) = none) (hp : nodeParts r n = .ok p)

include hclash hp

theorem nodup_claimed {names : List String} (hnodup : names.Nodup) (hsubset : names ⊆ p.library) :
    ((importedChildren n).map RouteNode.symbol ++ p.operations.map (·.name) ++ p.refs.map (Request.symbolOf r)
      ++ p.classes.map (·.name) ++ p.adapters.map (·.name) ++ names).Nodup := by
  have hclaims := Naming.nodup_of_clash hclash
  rw [nodeClaims_names hp, List.nodup_append] at hclaims
  exact List.nodup_append.mpr ⟨hclaims.1, hnodup, fun a ha b hb => hclaims.2.2 a ha b (hsubset hb)⟩

variable (hchildren : ∀ c ∈ n.children, ∃ segment, c.parts = n.parts ++ [segment])

include hchildren

theorem brings_nodeImports (path : ModulePath) : (nodeImports r naming path n p).Brings
    ((importedChildren n).map RouteNode.symbol ++ settingsNames p ++ p.refs.map (Request.symbolOf r)) := by
  have hsettings : (settingsNames p).Nodup ∧ settingsNames p ⊆ p.library := by
    unfold settingsNames NodeParts.library
    split <;> simp
  have hnodup : ((importedChildren n).map RouteNode.symbol ++ settingsNames p
      ++ p.refs.map (Request.symbolOf r)).Nodup := by
    have hall := nodup_claimed hclash hp hsettings.1 hsettings.2
    have hsome : ((importedChildren n).map RouteNode.symbol ++ (p.refs.map (Request.symbolOf r)
        ++ settingsNames p)).Nodup := by
      refine List.Nodup.sublist ?_ hall
      simp only [List.append_assoc]
      refine .append_left (.trans ?_ (List.sublist_append_right _ _)) _
      exact .append_left (.trans (List.sublist_append_right _ _) (List.sublist_append_right _ _)) _
    rw [List.append_assoc]
    exact (List.perm_append_comm.append_left _).nodup_iff.mp hsome
  have hnames : ((importedChildren n).map fun c => (moduleName (routePath c.package) none).bound) =
      (importedChildren n).map RouteNode.symbol := by
    apply List.map_congr_left
    intro c hc
    obtain ⟨segment, hparts⟩ := hchildren c (mem_importedChildren.mp hc).2
    exact bound_child hparts
  have hstart := (brings_start naming path).foldl_takeModule (importedChildren n) (fun c => routePath c.package)
    (fun _ => none) (by
      rw [List.nil_append, hnames]
      exact hnodup.of_append_left.of_append_left)
  rw [List.nil_append, hnames] at hstart
  unfold nodeImports
  refine Brings.takeNames ?_ _ _ _ hnodup
  unfold settingsNames at hnodup ⊢
  split
  · rw [List.append_nil]
    exact hstart.use _
  · rename_i hne
    rw [if_neg hne] at hnodup
    exact ((hstart.use p.symbols).useLibrary "httpx").takeNames _ _ _ hnodup.of_append_left

theorem nodup_bound_route {path : ModulePath} {m : Module} (hfuture : m.future = !p.definitions.isEmpty)
    (hclasses : m.classes = p.classes) (hadapters : m.adapters = p.adapters)
    (hoperations : m.operations = p.operations) (hassigns : m.assigns = []) :
    ((nodeImports r naming path n p).into m).bound.Nodup := by
  have hbrings : (nodeImports r naming path n p).Brings _ := brings_nodeImports hclash hp hchildren path
  have hused : (nodeImports r naming path n p).used = (nodeImports r naming path n p).symbols := by
    rw [used, any_deferred hbrings (not_deferred_nodeImports path)]
    exact List.append_nil _
  have hforeign : ((nodeImports r naming path n p).foreign m.future ++ settingsNames p).Sublist
      (("annotations" :: "httpx" :: Library.symbols) ++ ["sdk_config"]) := by
    refine .append (foreign_sublist ?_ _) ?_
    · rw [libraries_nodeImports]
      split <;> decide
    · unfold settingsNames
      split <;> decide
  have hlibrary : (nodeImports r naming path n p).foreign m.future ++ settingsNames p ⊆ p.library := by
    intro name hname
    have hhttpx : ("httpx".pieces '.').headD "" = "httpx" := rfl
    rw [foreign, libraries_nodeImports, hfuture, hused] at hname
    simp only [List.mem_append, List.mem_filter, decide_eq_true_eq, mem_symbols_nodeImports, settingsNames] at hname
    rw [NodeParts.library, List.mem_eraseDups, List.mem_append]
    by_cases hempty : p.definitions.isEmpty
    · simp only [hempty, Bool.not_true, futureNames, if_true, List.map_nil, List.not_mem_nil, false_or, or_false]
        at hname ⊢
      exact hname.2
    · simp only [hempty, Bool.not_false, futureNames, if_false, Bool.false_eq_true, List.map_cons, List.map_nil, hhttpx,
        List.mem_singleton] at hname ⊢
      rcases hname with ((rfl | rfl) | ⟨-, hname⟩) | rfl
      · exact .inr (by simp)
      · exact .inr (by simp)
      · exact .inl hname
      · exact .inr (by simp)
  have hall := nodup_claimed hclash hp (List.Nodup.sublist hforeign (by decide)) hlibrary
  rw [(hbrings.bound_into m).nodup_iff, hclasses, hadapters, hoperations, hassigns]
  refine (List.Perm.nodup_iff ?_).mp hall
  rw [List.perm_iff_count]
  intro name
  simp only [List.count_append, List.map_nil, List.count_nil]
  omega

end Routes

end Package

end ClientForge
