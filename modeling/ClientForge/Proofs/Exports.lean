import ClientForge.Proofs.ImportScopes
import ClientForge.Proofs.ModulePaths

namespace ClientForge

open Outcome

inductive Denotes (ms : List Module) : Meaning → Meaning → Prop
  | self {v : Meaning} (h : ∀ place name, v ≠ .member place name) : Denotes ms v v
  | member {m : Module} {place : List String} {name : String} {v w : Meaning} (hm : m ∈ ms)
      (hplace : m.path.dotted = place) (hscope : m.scope name = some v) (h : Denotes ms v w) :
      Denotes ms (.member place name) w

theorem Denotes.eq {ms : List Module} {v w : Meaning} (h : Denotes ms v w)
    (hv : ∀ place name, v ≠ .member place name) : w = v := by
  cases h with
  | self => rfl
  | member => exact absurd rfl (hv _ _)

namespace Package

def aliasMeaning (o : Operation) : Meaning :=
  let place := (functionsPath (Route.packageOf o.path)).dotted
  .attribute (.member place.dropLast (place.getLast?.getD "")) (Route.functionName o.method)

inductive ExportedFor (api : Api) (root : RouteNode) (ms : List Module) (m : Module) : String → Meaning → Prop
  | schema {t : Module} {k : ClassDef} (hm : m.path = schemasIndex ∨ m.path = packageIndex) (ht : t ∈ ms)
      (hschema : IsSchemaModule t) (hk : k ∈ t.classes) :
      ExportedFor api root ms m k.name (.model t.path.dotted k.name)
  | settingsClass (hm : m.path = packageIndex) :
      ExportedFor api root ms m "SDKConfig" (.model configPath.dotted "SDKConfig")
  | settings (hm : m.path = packageIndex) : ExportedFor api root ms m "sdk_config" (.value "SDKConfig()")
  | client (hm : m.path = packageIndex) : ExportedFor api root ms m "client" (.module routesIndex.dotted)
  | function {n : RouteNode} {o : Operation} (hn : n ∈ root.postOrder) (ho : o ∈ n.operations)
      (hm : m.path = functionsPath n.package ∨ n = root ∧ m.path = routesIndex) :
      ExportedFor api root ms m (Route.functionName o.method)
        (.function (functionsPath n.package).dotted (Route.functionName o.method))
  | child {n c : RouteNode} (hn : n ∈ root.postOrder) (hc : c ∈ n.children) (hm : m.path = routePath n.package) :
      ExportedFor api root ms m c.symbol (.module (routePath c.package).dotted)
  | aliases (hm : m.path = routesIndex) : ExportedFor api root ms m "alias" (.module aliasPath.dotted)
  | byId {o : Operation} {id : String} (ho : o ∈ api.operations) (hid : Route.idOf? o = some id)
      (hm : m.path = aliasPath ∨ m.path = routesIndex ∧ Naming.identifier id ∉ "alias" :: root.exports) :
      ExportedFor api root ms m (Naming.identifier id) (aliasMeaning o)

/-- An exported name stands for what it is exported for. -/
def Survives (api : Api) (root : RouteNode) (ms : List Module) (m : Module) (name : String) : Prop :=
  ∃ v w, m.scope name = some v ∧ Denotes ms v w ∧ ExportedFor api root ms m name w

/-- No import is called as the list of exports, no class as the variable of the loop over the classes, and none as the
module of a schema behind its own. -/
structure Unhidden (ms : List Module) : Prop where
  exports : ∀ m ∈ ms, m.exports.isSome → "__all__" ∉ m.imports.flatMap Import.bound
  loop : ∀ m ∈ ms, "_model" ∉ m.rebuild
  modules : ms.Pairwise fun m m' => IsSchemaModule m → IsSchemaModule m' →
    ∀ k ∈ m.classes, m'.path.dotted ≠ ["schemas", k.name]

instance (m : Module) : Decidable (IsSchemaModule m) :=
  inferInstanceAs (Decidable (m.path.package = ["schemas"] ∧ m.path ≠ schemasIndex))

instance (ms : List Module) : Decidable (Unhidden ms) :=
  decidable_of_iff ((∀ m ∈ ms, m.exports.isSome → "__all__" ∉ m.imports.flatMap Import.bound) ∧
      (∀ m ∈ ms, "_model" ∉ m.rebuild) ∧ ms.Pairwise fun m m' => IsSchemaModule m → IsSchemaModule m' →
        ∀ k ∈ m.classes, m'.path.dotted ≠ ["schemas", k.name])
    ⟨fun h => ⟨h.1, h.2.1, h.2.2⟩, fun h => ⟨h.exports, h.loop, h.modules⟩⟩

section Hidden

variable {api : Api} {root : RouteNode} {ms : List Module} {m : Module} {x : String}

theorem ExportedFor.ne_names {w : Meaning} (h : ExportedFor api root ms m x w) : w ≠ .names := by
  cases h <;> exact Meaning.noConfusion

theorem ExportedFor.attribute {v : Meaning} {f : String} (h : ExportedFor api root ms m x (.attribute v f)) :
    v ≠ .names := by
  cases h
  exact Meaning.noConfusion

theorem ExportedFor.of_gathered {w : Meaning} (h : ExportedFor api root ms m x w) (hm : m.path = schemasIndex) :
    ∃ t ∈ ms, IsSchemaModule t ∧ ∃ k ∈ t.classes, k.name = x ∧ w = .model t.path.dotted k.name := by
  have hroute (package : List String) : routePath package ≠ schemasIndex := by
    simp [routePath, schemasIndex, ModulePath.index, ModulePath.inFolders_inj]
  have hfunctions (package : List String) : functionsPath package ≠ schemasIndex :=
    fun h => functionsPath_notMem_fixed package (h ▸ by decide)
  have hother {p : ModulePath} (hp : p ≠ schemasIndex) (h : m.path = p) : False := hp (h ▸ hm)
  cases h with
  | schema _ ht hschema hk => exact ⟨_, ht, hschema, _, hk, rfl, rfl⟩
  | settingsClass h => exact (hother (by decide) h).elim
  | settings h => exact (hother (by decide) h).elim
  | client h => exact (hother (by decide) h).elim
  | function _ _ h => exact h.elim (fun h => (hother (hfunctions _) h).elim) fun h => (hother (hroute []) h.2).elim
  | child _ _ h => exact (hother (hroute _) h).elim
  | aliases h => exact (hother (hroute []) h).elim
  | byId _ _ h => exact h.elim (fun h => (hother (by decide) h).elim) fun h => (hother (hroute []) h.1).elim

theorem not_survives_of_exports (hexports : m.exports.isSome) (hdefined : "__all__" ∉ m.defined) :
    ¬Survives api root ms m "__all__" := by
  rintro ⟨v, w, hscope, hdenotes, hfor⟩
  rw [Module.scope_of_exports hexports hdefined, Option.some_inj] at hscope
  subst hscope
  exact hfor.ne_names (hdenotes.eq fun _ _ => Meaning.noConfusion)

theorem not_survives_of_loop (hloop : m.rebuild ≠ []) : ¬Survives api root ms m "_model" := by
  rintro ⟨v, w, hscope, -, -⟩
  rw [Module.scope_of_loop hloop] at hscope
  cases hscope

end Hidden

open ImportTable

def gatheredImport (naming : ModuleNaming) (m : Module) : Import :=
  ⟨naming.nameOf ["schemas"] m.path.dotted, (m.classes.map (·.name)).map (⟨·, none⟩), Import.own⟩

theorem names_gatheredImport (naming : ModuleNaming) (m : Module) :
    (gatheredImport naming m).names.map ImportedName.bound = m.classes.map (·.name) := by
  rw [gatheredImport, List.map_map]
  exact List.map_id' _

section Gathered

variable {style : ImportStyle} {package : Option String} {api : Api} {b : Build} (hb : b.IsOf style package api)
  (hr : api.schemas.WellFormed) (hreserved : ∀ e ∈ api.schemas.entries, e.symbol ∉ Naming.reservedSymbols)

include hb

theorem Build.IsOf.models_of_schemaModule : ∀ m ∈ b.ofSchemas,
    m.classes.map (·.name) ≠ [] ∧ (m.classes.map (·.name)).Nodup := by
  intro m hm
  constructor
  · obtain ⟨e, he, hmade⟩ := exists_of_mem_mapM hb.ofSchemas hm
    obtain ⟨c, hc, hclasses, -⟩ := takes_schemaModule hmade
    obtain ⟨before, own, hmodels, -⟩ := NamedSchema.compile_last he hc
    rw [hclasses, hmodels]
    simp
  · have hmodels := hb.nodup_models
    simp only [Build.models, modelClaims, List.map_flatMap, List.map_map] at hmodels
    exact (List.nodup_flatMap.mp hmodels).1 m hm

theorem Build.IsOf.bound_gatheredImport {m : Module} (hm : m ∈ b.ofSchemas) :
    (gatheredImport b.naming m).bound = m.classes.map (·.name) := by
  have hne : (gatheredImport b.naming m).names ≠ [] := by
    simpa [gatheredImport] using (hb.models_of_schemaModule m hm).1
  rw [Import.bound, if_neg hne, names_gatheredImport]

include hreserved in
theorem Build.IsOf.scope_model {m : Module} (hm : m ∈ b.ofSchemas) {k : ClassDef} (hk : k ∈ m.classes) :
    m.scope k.name = some (.model m.path.dotted k.name) := by
  have hloop : m.rebuild = [] := by
    obtain ⟨e, -, hmade⟩ := exists_of_mem_mapM hb.ofSchemas hm
    obtain ⟨c, -, -, rfl⟩ := schemaModule_eq_ok hmade
    rfl
  exact Module.scope_of_class (hb.nodup_bound hreserved m (b.ofSchemas_subset api hm)) hk hloop

include hr

theorem Build.IsOf.dotted_ofSchemas {m : Module} (hm : m ∈ b.ofSchemas) :
    ∃ e ∈ api.schemas.entries, m.path.dotted = ["schemas", e.module] := by
  obtain ⟨e, he, hmade⟩ := exists_of_mem_mapM hb.ofSchemas hm
  exact ⟨e, he, by rw [path_of_schemaModule hmade, dotted_schemaPath hr he]⟩

theorem Build.IsOf.nodup_dotted_ofSchemas : (b.ofSchemas.map (·.path.dotted)).Nodup := by
  refine List.Nodup.sublist (List.Sublist.map _ ?_) (hb.nodup_dotted hr)
  simp only [Build.modules, List.append_assoc]
  exact .cons _ (List.sublist_append_left _ _)

theorem Build.IsOf.gathered_imports : b.gathered.Imports [] (b.ofSchemas.map (gatheredImport b.naming)) := by
  have hown := own_foldl_takeNames (t := start b.naming schemasIndex) hb.models_of_schemaModule
    (hb.nodup_dotted_ofSchemas hr) (by simp [start])
  have himports := hb.inner_gathered.imports_into { Module.blank schemasIndex with
    doc := some "Models for every named schema of the API."
    exports := some ((modelClaims b.ofSchemas).map (·.name))
    rebuild := (modelClaims b.ofSchemas).map (·.name) }
  rw [gatheredImports, hown, start, List.nil_append, List.map_map] at himports
  rw [(schemasModule_eq_ok hb.gathered).2]
  exact himports

theorem Build.IsOf.mem_incidental_gathered {m : Module} (hm : m ∈ b.ofSchemas) {x : String} :
    x ∈ b.gathered.incidental (gatheredImport b.naming m) ↔ m.path.dotted = ["schemas", x] := by
  obtain ⟨e, -, hdotted⟩ := hb.dotted_ofSchemas hr hm
  have hplace : (gatheredImport b.naming m).source.place? ["schemas"] = some ["schemas", e.module] := by
    rw [← hdotted]
    exact ModuleNaming.place?_nameOf ..
  simp [Module.mem_incidental_of_index hb.gathered_path, hplace, hdotted]

theorem Build.IsOf.quiet_gathered {after : List Module} (hafter : after ⊆ b.ofSchemas) {x : String}
    (hexports : x ≠ "__all__") (hloop : x ≠ "_model") (hmodules : ∀ m ∈ after, m.path.dotted ≠ ["schemas", x]) :
    b.gathered.Quiet (after.map (gatheredImport b.naming)) x := by
  refine ⟨fun i hi hx => ?_, fun _ => hexports, fun _ => hloop⟩
  obtain ⟨m, hm, rfl⟩ := List.mem_map.mp hi
  exact hmodules m hm ((hb.mem_incidental_gathered hr (hafter hm)).mp hx)

omit hr in
theorem Build.IsOf.place_gatheredImport (m : Module) :
    (gatheredImport b.naming m).source.place? b.gathered.path.package = some m.path.dotted := by
  rw [hb.gathered_path]
  exact ModuleNaming.place?_nameOf ..

omit hr in
theorem Build.IsOf.gathered_path_ne (x : String) : b.gathered.path ≠ .index ["schemas", x] := by
  rw [hb.gathered_path]
  simp [schemasIndex, ModulePath.index, ModulePath.inFolders_inj]

section Split

variable {before after : List Module} {m m' : Module} {k : ClassDef}

omit hr in
theorem Build.IsOf.notMem_classes_behind (hsplit : b.ofSchemas = before ++ after) (hm : m ∈ before)
    (hk : k ∈ m.classes) : k.name ∉ after.flatMap fun m => m.classes.map (·.name) := by
  have hnodup := hb.nodup_models
  simp only [Build.models, modelClaims, List.map_flatMap, List.map_map] at hnodup
  rw [hsplit, List.flatMap_append, List.nodup_append] at hnodup
  have hmem : k.name ∈ before.flatMap fun m => m.classes.map (·.name) :=
    List.mem_flatMap.mpr ⟨m, hm, List.mem_map_of_mem hk⟩
  exact fun h => hnodup.2.2 _ hmem _ h rfl

theorem Build.IsOf.dotted_ne_behind (hsplit : b.ofSchemas = before ++ m :: after) :
    ∀ m' ∈ after, m'.path.dotted ≠ m.path.dotted := by
  have hnodup := hb.nodup_dotted_ofSchemas hr
  rw [hsplit, List.map_append, List.map_cons, List.nodup_append, List.nodup_cons] at hnodup
  exact fun m' hm' hsame => hnodup.2.1.1 (hsame ▸ List.mem_map_of_mem hm')

theorem Build.IsOf.scope_gathered (hsplit : b.ofSchemas = before ++ m :: after) (hk : k ∈ m.classes)
    (hexports : k.name ≠ "__all__") (hloop : k.name ≠ "_model")
    (hmodules : ∀ m ∈ after, m.path.dotted ≠ ["schemas", k.name]) :
    b.gathered.scope k.name = some (.member m.path.dotted k.name) := by
  have hown : b.ofSchemas.map (gatheredImport b.naming) =
      before.map (gatheredImport b.naming) ++ gatheredImport b.naming m :: after.map (gatheredImport b.naming) := by
    rw [hsplit, List.map_append, List.map_cons]
  have hm : m ∈ b.ofSchemas := hsplit ▸ List.mem_append_right _ List.mem_cons_self
  have hafter : after ⊆ b.ofSchemas := fun m' hm' =>
    hsplit ▸ List.mem_append_right _ (List.mem_cons_of_mem _ hm')
  have hn : (⟨k.name, none⟩ : ImportedName) ∈ (gatheredImport b.naming m).names :=
    List.mem_map_of_mem (List.mem_map_of_mem hk)
  have hother : b.gathered.path ≠ .index m.path.dotted := by
    obtain ⟨e, -, hdotted⟩ := hb.dotted_ofSchemas hr hm
    exact hdotted ▸ hb.gathered_path_ne e.module
  exact Module.scope_of_member (hb.gathered_imports hr) hb.nodup_bound_gathered hown hn (hb.place_gatheredImport m)
    hother (hb.quiet_gathered hr hafter hexports hloop hmodules)

theorem Build.IsOf.scope_gathered_module (hsplit : b.ofSchemas = before ++ m' :: after) (hm : m ∈ before)
    (hk : k ∈ m.classes) (hexports : k.name ≠ "__all__") (hloop : k.name ≠ "_model")
    (hmodule : m'.path.dotted = ["schemas", k.name]) :
    b.gathered.scope k.name = some (.module ["schemas", k.name]) := by
  have hown : b.ofSchemas.map (gatheredImport b.naming) =
      before.map (gatheredImport b.naming) ++ gatheredImport b.naming m' :: after.map (gatheredImport b.naming) := by
    rw [hsplit, List.map_append, List.map_cons]
  have hafter : after ⊆ b.ofSchemas := fun m hm => hsplit ▸ List.mem_append_right _ (List.mem_cons_of_mem _ hm)
  have hclasses := hb.notMem_classes_behind hsplit hm hk
  rw [List.flatMap_cons, List.mem_append, not_or] at hclasses
  have hlate : k.name ∉ (b.gathered.lateSteps (after.map (gatheredImport b.naming))).map Step.name := by
    have hbound : (after.map (gatheredImport b.naming)).flatMap Import.bound =
        after.flatMap fun m => m.classes.map (·.name) := by
      rw [List.flatMap_map]
      exact List.flatMap_congr fun m hm => hb.bound_gatheredImport (hafter hm)
    have hdefined : b.gathered.defined = [] := by
      rw [(schemasModule_eq_ok hb.gathered).2]
      rfl
    exact Module.notMem_lateSteps (hb.quiet_gathered hr hafter hexports hloop (hmodule ▸ hb.dotted_ne_behind hr hsplit))
      (hbound ▸ hclasses.2) (hdefined ▸ List.not_mem_nil)
  have hnames : k.name ∉ (gatheredImport b.naming m').names.map ImportedName.bound := by
    rw [names_gatheredImport]
    exact hclasses.1
  have hpackage : b.gathered.path.package = ["schemas"] := by
    rw [hb.gathered_path]
    rfl
  have hsubmodule : b.gathered.submodule? ["schemas", k.name] = some k.name := by
    rw [Module.submodule?_eq_some, hpackage, hb.gathered_path]
    exact ⟨rfl, [], rfl⟩
  have hscope := Module.scope_of_submodule (hb.gathered_imports hr) hown (hmodule ▸ hb.place_gatheredImport m')
    hsubmodule (hb.gathered_path_ne k.name) hnames hlate
  rwa [hpackage] at hscope

end Split

include hreserved

omit hr in
theorem Build.IsOf.denotes_model {m : Module} (hm : m ∈ b.ofSchemas) {k : ClassDef} (hk : k ∈ m.classes) :
    Denotes (b.modules api) (.member m.path.dotted k.name) (.model m.path.dotted k.name) :=
  .member (b.ofSchemas_subset api hm) rfl (hb.scope_model hreserved hm hk) (.self fun _ _ => Meaning.noConfusion)

theorem Build.IsOf.gathered_survives_iff (root : RouteNode) :
    (∀ x ∈ b.models, Survives api root (b.modules api) b.gathered x) ↔ "__all__" ∉ b.models ∧ "_model" ∉ b.models ∧
      b.ofSchemas.Pairwise fun m m' => ∀ k ∈ m.classes, m'.path.dotted ≠ ["schemas", k.name] := by
  have hmem {m : Module} (hm : m ∈ b.ofSchemas) {k : ClassDef} (hk : k ∈ m.classes) : k.name ∈ b.models :=
    Build.mem_models.mpr ⟨m, hm, k, hk, rfl⟩
  constructor
  · intro hall
    have hexports : "__all__" ∉ b.models := by
      intro h
      refine not_survives_of_exports ?_ ?_ (hall _ h)
      · rw [hb.gathered_exports]
        rfl
      · rw [(schemasModule_eq_ok hb.gathered).2]
        exact List.not_mem_nil
    have hloop : "_model" ∉ b.models := by
      intro h
      refine not_survives_of_loop ?_ (hall _ h)
      rw [(schemasModule_eq_ok hb.gathered).2]
      exact List.ne_nil_of_mem h
    refine ⟨hexports, hloop, List.pairwise_iff_forall_sublist.mpr ?_⟩
    intro m m' hsub k hk hmodule
    obtain ⟨before, rest, hsplit, hm, hrest⟩ := List.cons_sublist_iff.mp hsub
    obtain ⟨between, after, rfl⟩ := List.append_of_mem (List.singleton_sublist.mp hrest)
    have hk' : k.name ∈ b.models := hmem (hsplit ▸ List.mem_append_left _ hm) hk
    have hscope := hb.scope_gathered_module hr (hsplit.trans (List.append_assoc ..).symm) (List.mem_append_left _ hm) hk
      (fun h => hexports (h ▸ hk')) (fun h => hloop (h ▸ hk')) hmodule
    obtain ⟨v, w, hv, hdenotes, hfor⟩ := hall _ hk'
    rw [hscope, Option.some_inj] at hv
    subst hv
    rw [hdenotes.eq fun _ _ => Meaning.noConfusion] at hfor
    obtain ⟨t, -, -, k', -, -, hw⟩ := hfor.of_gathered hb.gathered_path
    cases hw
  · rintro ⟨hexports, hloop, hmodules⟩ x hx
    obtain ⟨m, hm, k, hk, rfl⟩ := Build.mem_models.mp hx
    obtain ⟨before, after, hsplit⟩ := List.append_of_mem hm
    rw [hsplit, List.pairwise_append, List.pairwise_cons] at hmodules
    have hscope := hb.scope_gathered hr hsplit hk (fun h => hexports (h ▸ hx)) (fun h => hloop (h ▸ hx))
      fun m' hm' => hmodules.2.1.1 m' hm' k hk
    have hschema := ((isSchemaModule_iff hb hr).mpr hm).2
    exact ⟨_, _, hscope, hb.denotes_model hreserved hm hk,
      .schema (.inl hb.gathered_path) (b.ofSchemas_subset api hm) hschema hk⟩

end Gathered

end Package

end ClientForge
