import ClientForge.Proofs.IndexExports
import ClientForge.Proofs.RouteExports

/-!
Exports of a package last: what is exported is there in the end, unless its name is that of something that a module
writes later.
-/

namespace ClientForge.Package

open ImportTable Outcome

section Build

variable {style : ImportStyle} {package : Option String} {api : Api} {b : Build} (hb : b.IsOf style package api)

include hb

theorem Build.IsOf.mem_imports_gathered {x : String} :
    x ∈ b.gathered.imports.flatMap Import.bound ↔ x ∈ b.models := by
  rw [(schemasModule_eq_ok hb.gathered).2]
  exact hb.inner_gathered.mem_imports

theorem Build.IsOf.rebuild_eq {m : Module} (hm : m ∈ b.modules api) : m.rebuild = [] ∨ m.rebuild = b.models := by
  rcases Build.mem_modules.mp hm with rfl | hm | rfl | hm | rfl | rfl | rfl
  · exact .inl rfl
  · obtain ⟨e, -, hmade⟩ := exists_of_mem_mapM hb.ofSchemas hm
    obtain ⟨c, -, -, rfl⟩ := schemaModule_eq_ok hmade
    exact .inl rfl
  · rw [(schemasModule_eq_ok hb.gathered).2]
    exact .inr rfl
  · obtain ⟨n, -, hmade⟩ := exists_left_of_mem hb.routeModules hm
    obtain ⟨p, -, -, rfl⟩ := routeModule_eq_ok hmade
    exact .inl rfl
  · exact .inl rfl
  · exact .inl rfl
  · exact .inl rfl

theorem Build.IsOf.pairwise_schemas (hr : api.schemas.WellFormed) {R : Module → Module → Prop} :
    ((b.modules api).Pairwise fun m m' => IsSchemaModule m → IsSchemaModule m' → R m m') ↔ b.ofSchemas.Pairwise R := by
  have hschema {m : Module} (hm : m ∈ b.ofSchemas) : IsSchemaModule m := ((isSchemaModule_iff hb hr).mpr hm).2
  have hnodup : (b.modules api).Nodup := List.Nodup.of_map _ hb.paths
  have hmem {m : Module} (hm : m ∈ b.modules api) (h : IsSchemaModule m) : m ∈ b.ofSchemas :=
    (isSchemaModule_iff hb hr).mp ⟨hm, h⟩
  constructor
  · intro h
    have hsublist : b.ofSchemas.Sublist (b.modules api) := by
      simp only [Build.modules, List.append_assoc]
      exact .cons _ (List.sublist_append_left _ _)
    exact (h.sublist hsublist).imp_of_mem fun hm hm' h => h (hschema hm) (hschema hm')
  · intro h
    obtain ⟨others, hsplit⟩ : ∃ others, b.modules api = configModule api :: (b.ofSchemas ++ others) := by
      simp only [Build.modules, List.append_assoc]
      exact ⟨_, rfl⟩
    rw [hsplit] at hnodup hmem ⊢
    rw [List.nodup_cons, List.nodup_append] at hnodup
    obtain ⟨hconfig, -, -, hdisjoint⟩ := hnodup
    have hnone : ∀ m ∈ others, ¬IsSchemaModule m := by
      intro m hm hschema
      exact hdisjoint m (hmem (List.mem_cons_of_mem _ (List.mem_append_right _ hm)) hschema) m hm rfl
    refine .cons ?_ (List.pairwise_append.mpr ⟨h.imp fun h _ _ => h, ?_, ?_⟩)
    · intro m _ hschema
      exact absurd (List.mem_append_left _ (hmem List.mem_cons_self hschema)) hconfig
    · exact List.pairwise_of_forall_mem_list fun m hm _ _ hschema => absurd hschema (hnone m hm)
    · exact fun _ _ m hm _ hschema => absurd hschema (hnone m hm)

theorem Build.IsOf.survive_iff (hreserved : ∀ e ∈ api.schemas.entries, e.symbol ∉ Naming.reservedSymbols)
    (hnames : "__all__" ∉ b.models)
    (hgathered : ∀ x ∈ b.models, Survives api b.root (b.modules api) b.gathered x)
    (haliases : "__all__" ∉ (aliasesModule b.naming b.table).imports.flatMap Import.bound) {m : Module}
    (hm : m ∈ b.modules api) : (∀ x ∈ m.exports.getD [], Survives api b.root (b.modules api) m x) ↔
      (m.exports.isSome → "__all__" ∉ m.imports.flatMap Import.bound) := by
  have hnone {m : Module} (h : m.exports = none) : (∀ x ∈ m.exports.getD [], Survives api b.root (b.modules api) m x) ↔
      (m.exports.isSome → "__all__" ∉ m.imports.flatMap Import.bound) := by simp [h]
  have hsome {m : Module} {P : Prop} (h : m.exports.isSome) (hiff : P ↔ "__all__" ∉ m.imports.flatMap Import.bound) :
      P ↔ (m.exports.isSome → "__all__" ∉ m.imports.flatMap Import.bound) := by
    rw [hiff, forall_prop_of_true h]
  rcases Build.mem_modules.mp hm with rfl | hm | rfl | hm | rfl | rfl | rfl
  · exact hnone rfl
  · obtain ⟨e, -, hmade⟩ := exists_of_mem_mapM hb.ofSchemas hm
    obtain ⟨c, -, -, rfl⟩ := schemaModule_eq_ok hmade
    exact hnone rfl
  · rw [hb.gathered_exports, Option.getD_some, hb.mem_imports_gathered]
    exact iff_of_true hgathered fun _ => hnames
  · obtain ⟨n, -, hmade⟩ := exists_left_of_mem hb.routeModules hm
    obtain ⟨p, -, -, rfl⟩ := routeModule_eq_ok hmade
    exact hsome rfl (hb.node_survives_iff hreserved hnames hm)
  · exact hsome rfl hb.aliases_survive_iff
  · exact hsome rfl (hb.routes_survive_iff hreserved haliases)
  · rw [hb.gathered_exports, Option.getD_some]
    exact hsome rfl (hb.index_survives_iff hreserved hgathered)

end Build

end ClientForge.Package
