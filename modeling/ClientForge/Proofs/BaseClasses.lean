import ClientForge.Proofs.AliasTargets
import ClientForge.Proofs.ClassLists
import ClientForge.Proofs.ImportCycles
import ClientForge.Proofs.LibraryImports

/-!
Where the bases of the classes of a module come from, by the time that the classes are made.
-/

namespace ClientForge

open Outcome
open Registry (intersectionOf objectOf plainMarks)

namespace ImportTable

variable {α : Type} (t : ImportTable) (items : List α) (target : α → ModulePath)

@[simp] theorem symbols_takeNames (target : ModulePath) (names : List String) (deferred : Bool) :
    (t.takeNames target names deferred).symbols = t.symbols := by
  unfold takeNames
  split <;> rfl

theorem symbols_foldl_takeNames (names : α → List String) (deferred : α → Bool) :
    (items.foldl (fun t a => t.takeNames (target a) (names a) (deferred a)) t).symbols = t.symbols :=
  foldl_unchanged (fun t _ => symbols_takeNames t _ _ _) items t

theorem exists_import {source name : String} {names : List String} (hsource : (source, names) ∈ Library.sources)
    (hname : name ∈ names) (hused : name ∈ t.symbols) :
    ∃ i ∈ t.imports, i.source = .dotted source ∧ ⟨name, none⟩ ∈ i.names := by
  obtain ⟨i, hi, heq⟩ := Library.exists_import hsource hname (List.mem_append_left _ hused)
  exact ⟨i, List.mem_append_left _ (List.mem_append_right _ hi), heq⟩

end ImportTable

namespace Package

theorem pydantic_mem : ("pydantic", ["AnyUrl", "BaseModel", "BeforeValidator", "ConfigDict", "EmailStr", "Field",
    "RootModel", "TypeAdapter"]) ∈ Library.sources := by
  decide

section Bases

variable (style : ImportStyle) (package : Option String) (ms : List Module)

def Provides (m : Module) (name : String) : Prop :=
  (∃ k ∈ m.classes, k.name = name) ∨ ∃ source n, m.Takes false source n ∧ n.bound = name ∧
    ∃ t ∈ ms, style.Calls package m.path.package source t.path.dotted ∧ ∃ k ∈ t.classes, k.name = n.name

/-- When a class of the module is made, with the classes `before` made already, this base of it is there. -/
def IsThere (m : Module) (before : List ClassDef) (base : String) : Prop :=
  (base = "BaseModel" ∨ base = "RootModel") ∧
      (∃ i ∈ m.imports, i.source = .dotted "pydantic" ∧ ⟨base, none⟩ ∈ i.names) ∨
    (∃ source n, m.Takes false source n ∧ n.bound = base ∧
      ∃ t ∈ ms, style.Calls package m.path.package source t.path.dotted ∧ Provides style package ms t n.name) ∨
    ∃ k ∈ before, k.name = base

def RunsDown (m : Module) : Prop :=
  ∀ before k after, m.classes = before ++ k :: after → ∀ base ∈ k.bases, IsThere style package ms m before base

end Bases

section Schemas

variable {style : ImportStyle} {package : Option String} {api : Api} {b : Build}

theorem Build.IsOf.calls_module (hb : b.IsOf style package api) (hr : api.schemas.WellFormed) (folders : List String)
    {t : Module} (ht : t ∈ b.modules api) :
    style.Calls package folders (b.naming.nameOf folders t.path.dotted) t.path.dotted :=
  (ImportStyle.calls_nameOf hb.naming folders (hb.isWord_dotted hr t ht) (hb.isWord_dotted hr t ht)).mpr rfl

theorem takes_needed {r : Registry} {naming : ModuleNaming} {reach : String → List String} {e target : NamedSchema}
    {m : Module} {c : Compiled} {x : String} (hm : schemaModule r naming reach e = .ok m) (hc : e.compile r = .ok c)
    (hx : x ∈ c.refs) (hne : x ≠ e.name) (htarget : r.get? x = some target)
    (hneed : target.symbol ∈ c.models.flatMap (·.bases) ∨ x ∈ c.runtimeRefs) :
    m.Takes false (naming.nameOf ["schemas"] (schemaPath target.module).dotted) ⟨target.symbol, none⟩ := by
  obtain ⟨c', hc', -, htakes⟩ := takes_schemaModule hm
  obtain rfl := Except.ok.inj (hc.symm.trans hc')
  exact (htakes _ _ _).mpr ⟨⟨x, target, false⟩, mem_schemaImports_of_needed hx hne htarget hneed, rfl, rfl, rfl, rfl⟩

theorem Build.IsOf.isThere_base (hb : b.IsOf style package api) (hr : api.schemas.WellFormed) {e target : NamedSchema}
    {m : Module} {c : Compiled} {x : String} (hm : schemaModule api.schemas b.naming (reached api.schemas) e = .ok m)
    (hc : e.compile api.schemas = .ok c) (hx : x ∈ c.refs) (hne : x ≠ e.name)
    (htarget : api.schemas.get? x = some target) (hbase : target.symbol ∈ c.models.flatMap (·.bases))
    (before : List ClassDef) :
    IsThere style package (b.modules api) m before target.symbol := by
  obtain ⟨t, ht, hpath, k, hk, hname⟩ := hb.exists_schemaModule htarget
  have hmem := b.ofSchemas_subset api ht
  have hpackage : m.path.package = ["schemas"] := by
    rw [path_of_schemaModule hm]
    exact ModulePath.package_inFolders _ _
  refine .inr (.inl ⟨_, _, takes_needed hm hc hx hne htarget (.inl hbase), rfl, t, hmem, ?_, .inl ⟨k, hk, hname⟩⟩)
  rw [hpackage, ← hpath]
  exact hb.calls_module hr _ hmem

theorem not_isThere_own {r : Registry} (hr : r.WellFormed) {naming : ModuleNaming} {reach : String → List String}
    {e : NamedSchema} {m : Module} (he : e ∈ r.entries) (hreserved : e.symbol ∉ Naming.reservedSymbols)
    (hm : schemaModule r naming reach e = .ok m) {before after : List ClassDef} {k : ClassDef}
    (hclasses : m.classes = before ++ k :: after) (ms : List Module) :
    ¬IsThere style package ms m before e.symbol := by
  obtain ⟨c, hc, hmodels, htakes⟩ := takes_schemaModule hm
  rintro (⟨hbase, -⟩ | ⟨source, n, htake, hbound, -⟩ | ⟨k', hk', hname⟩)
  · apply hreserved
    rcases hbase with hbase | hbase <;> rw [hbase] <;> decide
  · obtain ⟨i, hi, -, -, hnone, hname⟩ := (htakes _ _ _).mp htake
    obtain ⟨-, hne, htarget, -⟩ := mem_schemaImports.mp hi
    obtain ⟨hmem, hiname⟩ := Registry.mem_of_get? htarget
    rw [ImportedName.bound, hnone, hname] at hbound
    exact hne (hiname.symm.trans (congrArg _ (List.inj_on_of_nodup_map hr.symbols hmem he hbound)))
  · -- The class of the schema itself is the last one, and no other class has its name.
    obtain ⟨init, own, hlast, -, hfresh⟩ := NamedSchema.compile_last he hc
    have hmem := mem_init (hlast.symm.trans (hmodels.symm.trans hclasses)) hk'
    exact hfresh k' hmem (List.mem_append_left _ (List.mem_map.mpr ⟨e, he, hname.symm⟩))

theorem Build.IsOf.runsDown_schema (hb : b.IsOf style package api) (hr : api.schemas.WellFormed) {e : NamedSchema}
    {m : Module} (he : e ∈ api.schemas.entries) (hreserved : e.symbol ∉ Naming.reservedSymbols)
    (hm : schemaModule api.schemas b.naming (reached api.schemas) e = .ok m) :
    RunsDown style package (b.modules api) m ↔ ∀ k ∈ m.classes, e.symbol ∉ k.bases := by
  constructor
  · intro hruns k hk hbase
    obtain ⟨before, after, hclasses⟩ := List.append_of_mem hk
    exact not_isThere_own hr he hreserved hm hclasses _ (hruns before k after hclasses _ hbase)
  · intro hfree before k after hclasses base hbase
    obtain ⟨c, hc, -, hm'⟩ := schemaModule_eq_ok hm
    have hmodels : m.classes = c.models := by
      rw [hm']
      rfl
    have hk : k ∈ m.classes := by simp [hclasses]
    have hmem : base ∈ c.models.flatMap (·.bases) := List.mem_flatMap.mpr ⟨k, hmodels ▸ hk, hbase⟩
    rcases NamedSchema.compile_supported hc before k after (hmodels ▸ hclasses) base hbase with
      (⟨hlibrary, hsymbol⟩ | ⟨x, target, htarget, -, rfl, hx⟩) | ⟨k', hk', hname, -⟩
    · refine .inl ⟨hlibrary, ?_⟩
      rw [hm']
      apply ImportTable.exists_import _ pydantic_mem
      · rcases hlibrary with rfl | rfl <;> decide
      · rw [schemaTable, ImportTable.symbols_foldl_takeNames, ImportTable.use, ImportTable.mem_foldl_add]
        exact .inr hsymbol
    · have hne : x ≠ e.name := by
        rintro rfl
        rw [hr.get?_name he, Option.some.injEq] at htarget
        subst htarget
        exact hfree k hk hbase
      exact hb.isThere_base hr hm hc (hx.resolve_right hne) hne htarget hmem before
    · exact .inr (.inr ⟨k', hk', hname⟩)

end Schemas

section Routes

variable {style : ImportStyle} {package : Option String} {api : Api} {b : Build}

def Needs.Gives (r : Registry) (n : Needs) (base : String) : Prop :=
  base = "BaseModel" ∧ "BaseModel" ∈ n.symbols ∨ ∃ x ∈ n.refs, ∃ e, r.get? x = some e ∧ e.symbol = base

theorem Needs.supported_of_compiled {r : Registry} {s : Schema} {place : String} {c : Compiled} {n : Needs}
    (hc : Schema.compile r s place = .ok c) (hrefs : c.refs ⊆ n.refs) (hsymbols : c.symbols ⊆ n.symbols) :
    Supported (Needs.Gives r n) c.models := by
  apply (Schema.compileAt_sound s hc).supported.imp
  rintro base (⟨rfl, hbase⟩ | ⟨x, hx, e, he, -, hsymbol⟩)
  · exact .inl ⟨rfl, hsymbols hbase⟩
  · exact .inr ⟨x, hrefs hx, e, he, hsymbol⟩

theorem gathered_supported (r : Registry) (o : Operation) :
    Needs.Gathered r o fun n => Supported (Needs.Gives r n) n.classes where
  append a b ha hb := by
    apply Supported.append
    · apply ha.imp
      rintro base (⟨rfl, hbase⟩ | ⟨x, hx, he⟩)
      · exact .inl ⟨rfl, List.mem_append_left _ hbase⟩
      · exact .inr ⟨x, List.mem_append_left _ hx, he⟩
    · apply hb.imp
      rintro base (⟨rfl, hbase⟩ | ⟨x, hx, he⟩)
      · exact .inl ⟨rfl, List.mem_append_right _ hbase⟩
      · exact .inr ⟨x, List.mem_append_right _ hx, he⟩
  plain symbols := .nil
  compiled s place c hc := Needs.supported_of_compiled hc (List.Subset.refl _) (List.Subset.refl _)
  adapted s place c hc := (Needs.supported_of_compiled hc (List.subset_append_left _ _)
    (List.subset_append_left _ _)).append .nil

def NodeParts.Gives (r : Registry) (p : NodeParts) (base : String) : Prop :=
  base = "BaseModel" ∧ "BaseModel" ∈ p.symbols ∨ ∃ x ∈ p.refs, ∃ e, r.get? x = some e ∧ e.symbol = base

theorem supported_classes {r : Registry} {n : RouteNode} {p : NodeParts} (hp : nodeParts r n = .ok p) :
    Supported (p.Gives r) p.classes := by
  apply Supported.flatMap
  rintro ⟨f, needs⟩ hd
  obtain ⟨o, -, hdefine⟩ := exists_left_of_mem (nodeParts_eq_ok hp) hd
  apply (Request.define_gathered (gathered_supported r o) hdefine).imp
  rintro base (⟨rfl, hbase⟩ | ⟨x, hx, he⟩)
  · exact .inl ⟨rfl, List.mem_flatMap.mpr ⟨_, hd, hbase⟩⟩
  · exact .inr ⟨x, List.mem_eraseDups.mpr (List.mem_flatMap.mpr ⟨_, hd, hx⟩), he⟩

theorem Build.IsOf.gathered_provides (hb : b.IsOf style package api) (hr : api.schemas.WellFormed) {x : String}
    {e : NamedSchema} (he : api.schemas.get? x = some e) :
    Provides style package (b.modules api) b.gathered e.symbol := by
  obtain ⟨t, ht, -, k, hk, hname⟩ := hb.exists_schemaModule he
  have hmem := b.ofSchemas_subset api ht
  refine .inr ⟨b.naming.nameOf ["schemas"] t.path.dotted, ⟨e.symbol, none⟩, ?_, rfl, t, hmem, ?_, k, hk, hname⟩
  · rw [(schemasModule_eq_ok hb.gathered).2, ImportTable.takes_into, ImportTable.has_foldl_takeNames]
    exact .inr ⟨t, ht, rfl, rfl, rfl, List.mem_map.mpr ⟨k, hk, hname⟩⟩
  · rw [hb.gathered_path]
    exact hb.calls_module hr _ hmem

theorem symbols_nodeImports (r : Registry) (naming : ModuleNaming) (path : ModulePath) (n : RouteNode) (p : NodeParts) :
    p.symbols ⊆ (nodeImports r naming path n p).symbols := by
  intro name hname
  have huse (t : ImportTable) : name ∈ (t.use p.symbols).symbols := by
    rw [ImportTable.use, ImportTable.mem_foldl_add]
    exact .inr hname
  unfold nodeImports
  rw [ImportTable.symbols_takeNames]
  split
  · exact huse _
  · rw [ImportTable.symbols_takeNames]
    exact huse _

theorem has_nodeImports {r : Registry} (naming : ModuleNaming) (path : ModulePath) (n : RouteNode) {p : NodeParts}
    {x : String} {e : NamedSchema} (hx : x ∈ p.refs) (he : r.get? x = some e) :
    (nodeImports r naming path n p).Has (naming.nameOf path.package schemasIndex.dotted) false ⟨e.symbol, none⟩ := by
  have hsymbol : e.symbol ∈ p.refs.map (Request.symbolOf r) :=
    List.mem_map.mpr ⟨x, hx, by rw [Request.symbolOf, he, Option.map_some, Option.getD_some]⟩
  unfold nodeImports
  rw [ImportTable.has_takeNames]
  refine .inr ⟨?_, rfl, rfl, hsymbol⟩
  split
  · simp only [ImportTable.use, ImportTable.naming_foldl_takeModule, ImportTable.package_foldl_takeModule,
      ImportTable.start]
  · simp only [ImportTable.use, ImportTable.useLibrary, ImportTable.naming_takeNames, ImportTable.package_takeNames,
      ImportTable.naming_foldl_takeModule, ImportTable.package_foldl_takeModule, ImportTable.start]

theorem Build.IsOf.runsDown_route (hb : b.IsOf style package api) (hr : api.schemas.WellFormed) {n : RouteNode}
    {m : Module} (hm : routeModule api.schemas b.naming (functionsPath n.package) n = .ok m) :
    RunsDown style package (b.modules api) m := by
  obtain ⟨p, hp, -, rfl⟩ := routeModule_eq_ok hm
  intro before k after hclasses base hbase
  rcases supported_classes hp before k after hclasses base hbase with
    (⟨rfl, hsymbol⟩ | ⟨x, hx, e, he, rfl⟩) | ⟨k', hk', hname, -⟩
  · have hmem := symbols_nodeImports api.schemas b.naming (functionsPath n.package) n p hsymbol
    exact .inl ⟨.inl rfl, ImportTable.exists_import _ pydantic_mem (by decide) hmem⟩
  · refine .inr (.inl ⟨b.naming.nameOf (functionsPath n.package).package schemasIndex.dotted, ⟨e.symbol, none⟩, ?_, rfl,
      b.gathered, b.gathered_mem api, ?_, hb.gathered_provides hr he⟩)
    · rw [ImportTable.takes_into]
      exact has_nodeImports _ _ _ hx he
    · rw [← hb.gathered_path]
      exact hb.calls_module hr _ (b.gathered_mem api)
  · exact .inr (.inr ⟨k', hk', hname⟩)

end Routes

section Modules

variable {style : ImportStyle} {package : Option String} {api : Api} {b : Build} {m : Module}

theorem runsDown_of_classes_nil {ms : List Module} (h : m.classes = []) : RunsDown style package ms m := by
  intro before k after hclasses
  rw [h] at hclasses
  simp at hclasses

theorem runsDown_config (ms : List Module) : RunsDown style package ms (configModule api) := by
  intro before k after hclasses base hbase
  have hk : k ∈ (configModule api).classes := by simp [hclasses]
  rw [List.mem_singleton.mp hk] at hbase
  rw [List.mem_singleton.mp hbase]
  exact .inl ⟨.inl rfl, Library.exists_import pydantic_mem (by decide) (by decide)⟩

theorem Build.IsOf.runsDown_other (hb : b.IsOf style package api) (hr : api.schemas.WellFormed)
    (hm : m ∈ b.modules api) (hschemas : m ∉ b.ofSchemas) : RunsDown style package (b.modules api) m := by
  rcases Build.mem_modules.mp hm with rfl | hm | rfl | hm | rfl | rfl | rfl
  · exact runsDown_config _
  · exact absurd hm hschemas
  · apply runsDown_of_classes_nil
    rw [(schemasModule_eq_ok hb.gathered).2]
    rfl
  · obtain ⟨n, -, hmade⟩ := exists_left_of_mem hb.routeModules hm
    exact hb.runsDown_route hr hmade
  · exact runsDown_of_classes_nil rfl
  · exact runsDown_of_classes_nil rfl
  · exact runsDown_of_classes_nil rfl

theorem Build.IsOf.runsDown (hb : b.IsOf style package api) {d : Document}
    (hd : Registry.ofDocument d = .ok api.schemas) (hm : m ∈ b.modules api) :
    RunsDown style package (b.modules api) m ↔ ∀ e ∈ api.schemas.entries, m.path = schemaPath e.module →
      ∀ k ∈ m.classes, e.symbol ∉ k.bases := by
  have hr := Registry.wellFormed_of_ofDocument hd
  by_cases hschemas : m ∈ b.ofSchemas
  · obtain ⟨e, he, hmade⟩ := exists_of_mem_mapM hb.ofSchemas hschemas
    have hown := hb.runsDown_schema hr he (Registry.symbols_notMem_reserved hd e he) hmade
    constructor
    · intro hruns e' he' hpath
      rw [path_of_schemaModule hmade] at hpath
      have hdotted := congrArg ModulePath.dotted hpath
      rw [dotted_schemaPath hr he, dotted_schemaPath hr he'] at hdotted
      obtain rfl := hr.eq_of_module he he' (by simpa using hdotted)
      exact hown.mp hruns
    · intro hfree
      exact hown.mpr (hfree e he (path_of_schemaModule hmade))
  · refine iff_of_true (hb.runsDown_other hr hm hschemas) fun e he hpath => absurd ?_ hschemas
    obtain ⟨t, ht, hpath', -⟩ := hb.exists_schemaModule (hr.get?_name he)
    rwa [List.inj_on_of_nodup_map hb.paths hm (b.ofSchemas_subset api ht) (hpath.trans hpath'.symm)]

/-- The classes of a module can be made from the top to the bottom unless one of them, in the module of a schema,
inherits from the class of that schema itself, which comes last. -/
theorem runsDown_iff {d : Document} {ms : List Module} (hd : Registry.ofDocument d = .ok api.schemas)
    (h : modules style package api = .ok ms) (hm : m ∈ ms) :
    RunsDown style package ms m ↔ ∀ e ∈ api.schemas.entries, m.path = schemaPath e.module →
      ∀ k ∈ m.classes, e.symbol ∉ k.bases := by
  obtain ⟨b, hb, rfl⟩ := exists_build h
  exact hb.runsDown hd hm

def backReferring : Document :=
  .map [(.text "A", intersectionOf [referenceTo "B", objectOf []]),
    (.text "B", objectOf [(.text "a", referenceTo "A")])]

theorem backReferring_runsDown :
    ∃ (schemas : Registry) (ms : List Module), Registry.ofDocument backReferring = .ok schemas ∧
      modules .relative none (bareApi schemas) = .ok ms ∧ (∃ m ∈ ms, ∃ k ∈ m.classes, "B" ∈ k.bases) ∧
      ∀ m ∈ ms, RunsDown .relative none ms m := by
  let schemas : Registry := ⟨[
    ⟨"A", "A", "a", .allOf plainMarks [.ref plainMarks "B", .object plainMarks [] [] none]⟩,
    ⟨"B", "B", "b", .object plainMarks [("a", .ref plainMarks "A")] [] none⟩]⟩
  have hd : Registry.ofDocument backReferring = .ok (bareApi schemas).schemas := rfl
  have hok : (modules .relative none (bareApi schemas)).isOk = true := by decide +kernel
  have hbase : (modules .relative none (bareApi schemas)).toOption.all (·.any fun m =>
      m.classes.any (·.bases.contains "B")) = true := by
    decide +kernel
  have hfree : (modules .relative none (bareApi schemas)).toOption.all (fun ms => ms.all fun m =>
      schemas.entries.all fun e =>
        decide (m.path = schemaPath e.module → ∀ k ∈ m.classes, e.symbol ∉ k.bases)) = true := by
    decide +kernel
  obtain ⟨ms, h⟩ := exists_of_isOk hok
  rw [h] at hbase hfree
  refine ⟨schemas, ms, hd, h, ?_, fun m hm => (runsDown_iff hd h hm).mpr fun e he => ?_⟩
  · simpa [Except.toOption] using hbase
  · exact of_decide_eq_true (List.all_eq_true.mp (List.all_eq_true.mp hfree m hm) e he)

def selfInheriting : Document :=
  .map [(.text "Node", objectOf [(.text "p", intersectionOf [referenceTo "Node", objectOf []])])]

theorem selfInheriting_not_runsDown :
    ∃ (schemas : Registry) (ms : List Module), Registry.ofDocument selfInheriting = .ok schemas ∧
      modules .relative none (bareApi schemas) = .ok ms ∧ ∃ m ∈ ms, ¬RunsDown .relative none ms m := by
  let schemas : Registry := ⟨[⟨"Node", "Node", "node", .object plainMarks
    [("p", .allOf plainMarks [.ref plainMarks "Node", .object plainMarks [] [] none])] [] none⟩]⟩
  have hd : Registry.ofDocument selfInheriting = .ok (bareApi schemas).schemas := rfl
  have hok : (modules .relative none (bareApi schemas)).isOk = true := by decide +kernel
  have hbase : (modules .relative none (bareApi schemas)).toOption.all (·.any fun m =>
      decide (m.path = schemaPath "node") && m.classes.any (·.bases.contains "Node")) = true := by
    decide +kernel
  obtain ⟨ms, h⟩ := exists_of_isOk hok
  rw [h] at hbase
  obtain ⟨b, hb, rfl⟩ := exists_build h
  obtain ⟨m, hm, hbase⟩ := List.any_eq_true.mp hbase
  rw [Bool.and_eq_true, decide_eq_true_eq, List.any_eq_true] at hbase
  obtain ⟨hpath, k, hk, hbase⟩ := hbase
  refine ⟨schemas, _, hd, h, m, hm, fun hruns => ?_⟩
  exact (hb.runsDown hd hm).mp hruns _ List.mem_cons_self hpath k hk (List.contains_iff_mem.mp hbase)

end Modules

end Package

end ClientForge
