import ClientForge.Proofs.ModuleScopes
import ClientForge.Proofs.RoutePlaces

/-!
The built-in names that generated code evaluates, and the modules that take one of them for something else.
-/

namespace ClientForge

open Outcome

namespace Naming

def builtins : List String := ["str", "float", "bool", "bytes", "list", "dict"]

def IsMixed (s : String) : Prop := ∃ c ∈ s.toList, c.isLower = false

variable {s t : String}

theorem IsMixed.notMem_builtins (h : IsMixed s) : s ∉ builtins := by
  have hsmall : builtins.all (fun b => b.toList.all Char.isLower) = true := by decide +kernel
  obtain ⟨c, hc, hlower⟩ := h
  intro hs
  rw [List.all_eq_true.mp (List.all_eq_true.mp hsmall s hs) c hc] at hlower
  cases hlower

theorem IsMixed.append (h : IsMixed s) (t : String) : IsMixed (s ++ t) := by
  obtain ⟨c, hc, hlower⟩ := h
  exact ⟨c, by simp [hc], hlower⟩

theorem IsRaised.isMixed (h : IsRaised s) : IsMixed s := by
  obtain ⟨hne, hhead⟩ := h
  cases hs : s.toList with
  | nil => exact absurd (by simpa using hs) hne
  | cons c rest => exact ⟨c, by simp [hs], (hhead c (by simp [hs])).2⟩

theorem Inside.isMixed (h : Inside s t) : IsMixed s := by
  obtain ⟨word, rfl, hraised⟩ := h
  obtain ⟨c, hc, hlower⟩ := hraised.isMixed
  exact ⟨c, by simp [hc], hlower⟩

theorem Extends.isMixed (h : Extends s t) (ht : IsMixed t) : IsMixed s := by
  obtain ⟨rest, hs, -⟩ := h
  obtain ⟨c, hc, hlower⟩ := ht
  exact ⟨c, by simp [hs, hc], hlower⟩

theorem functionName_notMem_builtins (m : Method) : Route.functionName m ∉ builtins := by
  cases m <;> decide

theorem adapterName_isMixed (m : Method) : IsMixed (Request.adapterName m) :=
  ⟨'_', by simp [Request.adapterName], rfl⟩

theorem reserved_notMem_builtins : ∀ x ∈ reservedSymbols, x ∉ builtins := by decide

end Naming

open Naming

namespace Schema

variable {r : Registry} {s : Schema} {hint : String} {top : Bool} {c : Compiled}

theorem classes_isMixed (hhint : IsMixed hint) (h : compileAt r s hint false = .ok c) :
    ∀ k ∈ c.models, IsMixed k.name :=
  fun k hk => ((compileAt_sound s h).extends_hint k hk).isMixed hhint

theorem parts_isMixed {word : String} (hword : IsRaised word) {members : List Schema} {parts : List Compiled}
    (hparts : MakesParts r hint word members parts) : ∀ k ∈ parts.flatMap (·.models), IsMixed k.name := by
  intro k hk
  obtain ⟨p, hp, hk⟩ := List.mem_flatMap.mp hk
  obtain ⟨s, -, i, hp⟩ := hparts.exists_member hp
  exact classes_isMixed ((inside_append hint hword).isMixed.append _) hp k hk

theorem classes_of_type (h : compileAt r s hint top = .ok c) :
    ∀ k ∈ c.models, k.name = className r hint top ∨ IsMixed k.name := by
  have hown {k : ClassDef} {models : List ClassDef} {hint : String} {top : Bool}
      (hmodels : ∀ k ∈ models, IsMixed k.name) (hname : k.name = className r hint top) :
      ∀ k' ∈ models ++ [k], k'.name = className r hint top ∨ IsMixed k'.name := by
    intro k' hk'
    rcases List.mem_append.mp hk' with hk' | hk'
    · exact .inr (hmodels k' hk')
    · rw [List.mem_singleton.mp hk']
      exact .inl hname
  replace h := compiles h
  induction h with
  | object doc hdraft hextra _ _ =>
    rw [models_markNullable]
    refine hown (fun k hk => ?_) rfl
    obtain ⟨p, hp, hk⟩ := List.mem_flatMap.mp hk
    obtain ⟨s, -, hint', hinside, hp⟩ := (object_parts hdraft hextra).2 p hp
    exact classes_isMixed hinside.isMixed hp k hk
  | array hc _ _ =>
    rw [models_markNullable]
    exact fun k hk => .inr (classes_isMixed (inside_append _ (by decide)).isMixed hc k hk)
  | allOf _ _ _ ih => rwa [models_markNullable]
  | union _ _ ih => rwa [models_markNullable]
  | inherits doc _ _ hparts _ _ =>
    rw [models_markNullable]
    exact hown (parts_isMixed (by decide) hparts) rfl
  | checked _ _ hparts _ _ =>
    rw [models_markNullable, Compiled.combine, List.append_nil]
    exact fun k hk => .inr (parts_isMixed (by decide) hparts k hk)
  | any parts _ hparts _ _ =>
    rw [models_markNullable, models_combineAny]
    exact fun k hk => .inr (parts_isMixed (by decide) hparts k hk)
  | _ =>
    rw [models_markNullable]
    exact List.forall_mem_nil _

end Schema

theorem NamedSchema.classes_of_compile {r : Registry} {e : NamedSchema} {c : Compiled} (h : e.compile r = .ok c) :
    ∀ k ∈ c.models, k.name = e.symbol ∨ IsMixed k.name := by
  obtain ⟨c', hc, -, -, ⟨hmodels, -⟩ | ⟨-, -, own, hmodels, hown, -⟩⟩ := models_of_compile h
  · rw [hmodels]
    exact Schema.classes_of_type hc
  · rw [hmodels]
    intro k hk
    rcases List.mem_append.mp hk with hk | hk
    · exact Schema.classes_of_type hc k hk
    · rw [List.mem_singleton.mp hk]
      exact .inl hown

theorem Needs.gathered_mixed (r : Registry) (o : Operation) : Gathered r o fun n =>
    (∀ k ∈ n.classes, IsMixed k.name) ∧ ∀ a ∈ n.adapter, IsMixed a.name where
  append a b ha hb := by
    refine ⟨fun k hk => (List.mem_append.mp hk).elim (ha.1 k) (hb.1 k), fun adapter hadapter => ?_⟩
    rcases Option.or_eq_some_iff.mp hadapter with hadapter | ⟨-, hadapter⟩
    · exact hb.2 adapter hadapter
    · exact ha.2 adapter hadapter
  plain symbols := by simp [ofSymbols]
  compiled s place c hc := by
    have hstart : IsMixed (Request.hintStart o ++ place) := (pascalCase_isRaised o.method.name).isMixed.append place
    exact ⟨Schema.classes_isMixed hstart hc, fun a ha => by cases ha⟩
  adapted s place c hc := by
    have hstart : IsMixed (Request.hintStart o ++ place) := (pascalCase_isRaised o.method.name).isMixed.append place
    refine ⟨fun k hk => ?_, fun a ha => ?_⟩
    · exact Schema.classes_isMixed hstart hc k ((List.append_nil c.models) ▸ hk)
    · cases ha
      exact adapterName_isMixed o.method

namespace Package

section Schemas

variable {r : Registry} {naming : ModuleNaming} {reach : String → List String} {e : NamedSchema} {m : Module}

theorem schemaModule_free (hsymbols : ∀ e ∈ r.entries, e.symbol ∉ builtins) (he : e ∈ r.entries)
    (hm : schemaModule r naming reach e = .ok m) : ∀ x ∈ m.bound, x ∉ builtins := by
  obtain ⟨c, hc, hclash, rfl⟩ := schemaModule_eq_ok hm
  intro x hx
  rw [((brings_schemaTable hclash).bound_into _).mem_iff] at hx
  simp only [Module.blank, List.map_nil, List.append_nil, List.mem_append, List.mem_map] at hx
  rcases hx with hx | ⟨i, hi, rfl⟩ | ⟨k, hk, rfl⟩
  · exact reserved_notMem_builtins x (ImportTable.foreign_subset_reserved (by simp [libraries_schemaTable]) _ hx)
  · exact hsymbols _ (Registry.mem_of_get? (mem_schemaImports.mp hi).2.2.1).1
  · rcases NamedSchema.classes_of_compile hc k hk with hname | hmixed
    · exact hname ▸ hsymbols e he
    · exact hmixed.notMem_builtins

theorem symbol_mem_bound (hm : schemaModule r naming reach e = .ok m) : m.classes ≠ [] ∧ e.symbol ∈ m.bound := by
  obtain ⟨c, hc, hclasses, -⟩ := takes_schemaModule hm
  obtain ⟨-, -, -, k, hk, hname⟩ := NamedSchema.compile_cases hc
  rw [← hclasses] at hk
  refine ⟨List.ne_nil_of_mem hk, List.mem_append_right _ ?_⟩
  simp only [List.mem_append, List.mem_map]
  exact .inl (.inl (.inl ⟨k, hk, hname⟩))

end Schemas

section Routes

variable {r : Registry} {naming : ModuleNaming} {path : ModulePath} {n : RouteNode} {m : Module}
  (hchildren : ∀ c ∈ n.children, ∃ segment, c.parts = n.parts ++ [segment])

include hchildren

theorem routeModule_free (hsymbols : ∀ e ∈ r.entries, e.symbol ∉ builtins)
    (hbelow : ∀ c ∈ importedChildren n, c.symbol ∉ builtins) (hm : routeModule r naming path n = .ok m) :
    ∀ x ∈ m.bound, x ∉ builtins := by
  obtain ⟨p, hp, hclash, rfl⟩ := routeModule_eq_ok hm
  have hneeds : ∀ d ∈ p.definitions,
      (∃ o, d.1.name = Route.functionName o) ∧ (∀ k ∈ d.2.classes, IsMixed k.name) ∧
        ∀ a ∈ d.2.adapter, IsMixed a.name := by
    rintro ⟨d, needs⟩ hd
    obtain ⟨o, -, ho⟩ := exists_left_of_mem (nodeParts_eq_ok hp) hd
    exact ⟨⟨o.method, (Request.define_eq_ok ho).1⟩, Request.define_gathered (Needs.gathered_mixed r o) ho⟩
  intro x hx
  rw [((brings_nodeImports hclash hp hchildren path).bound_into _).mem_iff] at hx
  simp only [Module.blank, List.map_nil, List.append_nil, List.mem_append, List.mem_map] at hx
  rcases hx with hx | ((⟨c, hc, rfl⟩ | hx) | ⟨ref, href, rfl⟩) | (⟨k, hk, rfl⟩ | ⟨a, ha, rfl⟩) | ⟨d, hd, rfl⟩
  · refine reserved_notMem_builtins x (ImportTable.foreign_subset_reserved ?_ _ hx)
    rw [libraries_nodeImports]
    split <;> simp
  · exact hbelow c hc
  · refine reserved_notMem_builtins x ?_
    rw [eq_of_mem_settingsNames hx]
    decide
  · obtain ⟨e, he⟩ := Option.isSome_iff_exists.mp (get?_of_mem_refs hp href)
    rw [Request.symbolOf, he]
    exact hsymbols e (Registry.mem_of_get? he).1
  · obtain ⟨d, hd, hk⟩ := List.mem_flatMap.mp hk
    exact ((hneeds d hd).2.1 k hk).notMem_builtins
  · obtain ⟨d, hd, ha⟩ := List.mem_filterMap.mp ha
    exact ((hneeds d hd).2.2 a ha).notMem_builtins
  · obtain ⟨pair, hpair, rfl⟩ := List.mem_map.mp hd
    obtain ⟨⟨o, hname⟩, -⟩ := hneeds pair hpair
    rw [hname]
    exact functionName_notMem_builtins o

theorem child_mem_bound (hm : routeModule r naming path n = .ok m) {c : RouteNode} (hc : c ∈ importedChildren n) :
    c.symbol ∈ m.bound := by
  obtain ⟨p, hp, hclash, rfl⟩ := routeModule_eq_ok hm
  rw [((brings_nodeImports hclash hp hchildren path).bound_into _).mem_iff]
  simp only [List.mem_append, List.mem_map]
  exact .inr (.inl (.inl (.inl ⟨c, hc, rfl⟩)))

end Routes

def Evaluates (m : Module) : Prop := m.classes ≠ [] ∨ m.adapters ≠ [] ∨ m.operations ≠ []

theorem evaluates_iff {r : Registry} {naming : ModuleNaming} {path : ModulePath} {n : RouteNode} {m : Module}
    (hm : routeModule r naming path n = .ok m) : Evaluates m ↔ n.operations ≠ [] := by
  obtain ⟨p, hp, -, rfl⟩ := routeModule_eq_ok hm
  have hlength := (nodeParts_eq_ok hp).length_eq
  have hempty : n.operations = [] ↔ p.definitions = [] := by
    rw [← List.length_eq_zero_iff, hlength, List.length_eq_zero_iff]
  rw [Ne, hempty]
  constructor
  · rintro h hnil
    simp [Evaluates, ImportTable.into, NodeParts.classes, NodeParts.adapters, NodeParts.operations, hnil] at h
  · intro hne
    refine .inr (.inr ?_)
    simpa [ImportTable.into, NodeParts.operations] using hne

/-- No built-in name is the name of a schema's class or of a package right below an operation's. -/
structure SparesBuiltins (api : Api) : Prop where
  symbols : ∀ e ∈ api.schemas.entries, e.symbol ∉ builtins
  segments : ∀ o ∈ api.operations, ∀ o' ∈ api.operations, ∀ segment, Route.segments o.path ≠ [] →
    Route.segments o.path ++ [segment] <+: Route.segments o'.path → Naming.segmentSymbol segment ∉ builtins

theorem configModule_free (api : Api) : ∀ x ∈ (configModule api).bound, x ∉ builtins := by
  intro x hx
  simp only [Module.bound, configModule, Module.blank, futureNames, List.append_nil, List.nil_append, List.map_nil,
    List.map_cons, List.mem_append] at hx
  apply reserved_notMem_builtins
  rcases hx with hx | hx
  · rw [(Library.bound_imports _).mem_iff] at hx
    exact Library.symbols_subset_reserved (List.mem_of_mem_filter hx)
  · exact (by decide : ["SDKConfig", "sdk_config"] ⊆ reservedSymbols) (by simpa [configClass] using hx)

section Build

variable {style : ImportStyle} {package : Option String} {api : Api} {b : Build}

theorem symbol_of_parts {n c : RouteNode} {segment : String} (h : c.parts = n.parts ++ [segment]) :
    c.symbol = Naming.segmentSymbol segment := by
  simp [RouteNode.symbol, RouteNode.isRoot, RouteNode.segment, h]

theorem Build.IsOf.spares_children (hb : b.IsOf style package api) (h : SparesBuiltins api) {n : RouteNode}
    (hn : n ∈ b.root.postOrder) (hoperations : n.operations ≠ []) :
    ∀ c ∈ importedChildren n, c.symbol ∉ builtins := by
  intro c hc
  obtain ⟨hroot, hchild⟩ := mem_importedChildren.mp hc
  have hparts : n.parts ≠ [] := by simpa [RouteNode.isRoot] using hroot
  obtain ⟨hmem, segment, hsegment⟩ := Route.child_of_mem_tree hb.root hn hchild
  obtain ⟨o, ho⟩ := List.exists_mem_of_ne_nil _ hoperations
  rw [Route.operations_of_mem_tree hb.root hn, Route.operationsAt, List.mem_filter, beq_iff_eq] at ho
  obtain ⟨ho, hpath⟩ := ho
  have hplace := (Route.mem_parts_iff hb.root c.parts).mp (List.mem_map_of_mem hmem)
  obtain ⟨o', ho', hbegins⟩ := hplace.resolve_left (by simp [hsegment])
  rw [symbol_of_parts hsegment]
  exact h.segments o ho o' ho' segment (hpath ▸ hparts) (by rwa [hpath, ← hsegment])

theorem Build.IsOf.exists_child (hb : b.IsOf style package api) {n : RouteNode} (hn : n ∈ b.root.postOrder)
    {o : Operation} (ho : o ∈ api.operations) {segment : String}
    (hbegins : n.parts ++ [segment] <+: Route.segments o.path) :
    ∃ c ∈ n.children, c.parts = n.parts ++ [segment] := by
  obtain ⟨c, hc, hparts⟩ := List.mem_map.mp ((Route.mem_parts_iff hb.root _).mpr (.inr ⟨o, ho, hbegins⟩))
  rcases Route.parent_of_mem_tree hb.root hc with ⟨hroot, -⟩ | ⟨-, p, hp, hchild, segment', hsegment⟩
  · rw [RouteNode.isRoot, hparts] at hroot
    simp at hroot
  · have hsame : p.parts = n.parts := (List.append_inj' (hsegment.symm.trans hparts) rfl).1
    have heq := List.inj_on_of_nodup_map (Route.nodup_postOrder hb.root) hp hn hsame
    exact ⟨c, heq ▸ hchild, hparts⟩

/-- No module that evaluates types takes one of the built-in names just when none is called like a schema or like a
package right below that of an operation. -/
theorem builtins_free_iff {ms : List Module} (h : modules style package api = .ok ms) :
    (∀ m ∈ ms, Evaluates m → ∀ x ∈ builtins, x ∉ m.bound) ↔ SparesBuiltins api := by
  obtain ⟨b, hb, rfl⟩ := exists_build h
  constructor
  · intro hfree
    constructor
    · intro e he hbuiltin
      obtain ⟨m, hm, hmade⟩ := exists_mem_of_mapM hb.ofSchemas he
      obtain ⟨hclasses, hbound⟩ := symbol_mem_bound hmade
      exact hfree m (b.ofSchemas_subset api hm) (.inl hclasses) _ hbuiltin hbound
    · intro o ho o' ho' segment hne hbegins hbuiltin
      obtain ⟨n, hn, hparts, hmine⟩ := Route.exists_node_of_operation hb.root ho
      have hoperations := List.ne_nil_of_mem hmine
      obtain ⟨m, hm, hmade⟩ := exists_right_of_mem hb.routeModules
        (mem_functionNodes hb.root hn fun _ => hoperations)
      obtain ⟨c, hc, hchild⟩ := hb.exists_child hn ho' (hparts.symm ▸ hbegins)
      have hbound := child_mem_bound (fun c hc => (Route.child_of_mem_tree hb.root hn hc).2) hmade
        (mem_importedChildren.mpr ⟨by simpa [RouteNode.isRoot, hparts] using hne, hc⟩)
      rw [symbol_of_parts hchild] at hbound
      exact hfree m (b.ofRoutes_subset api hm) ((evaluates_iff hmade).mpr hoperations) _ hbuiltin hbound
  · intro hspares m hm hevaluates x hx hbound
    rcases Build.mem_modules.mp hm with rfl | hm | rfl | hm | rfl | rfl | rfl
    · exact configModule_free api x hbound hx
    · obtain ⟨e, he, hmade⟩ := exists_of_mem_mapM hb.ofSchemas hm
      exact schemaModule_free hspares.symbols he hmade x hbound hx
    · rw [(schemasModule_eq_ok hb.gathered).2] at hevaluates
      simp [Evaluates, ImportTable.into, Module.blank] at hevaluates
    · obtain ⟨n, hn, hmade⟩ := exists_left_of_mem hb.routeModules hm
      have hnode := mem_postOrder_of_mem_functionNodes hn
      have hbelow := hb.spares_children hspares hnode ((evaluates_iff hmade).mp hevaluates)
      exact routeModule_free (fun c hc => (Route.child_of_mem_tree hb.root hnode hc).2) hspares.symbols hbelow hmade x
        hbound hx
    · simp [Evaluates, aliasesModule, ImportTable.into, Module.blank] at hevaluates
    · simp [Evaluates, routesModule, ImportTable.into, Module.blank] at hevaluates
    · simp [Evaluates, indexModule, ImportTable.into, Module.blank] at hevaluates

theorem builtins_free_near : ∃ (api : Api) (ms : List Module), modules .relative none api = .ok ms ∧
    ∀ m ∈ ms, Evaluates m → ∀ x ∈ builtins, x ∉ m.bound := by
  let object : Schema := .object ⟨false, .absent⟩ [] [] none
  let api : Api := { bareApi ⟨[⟨"List", "List", "list", object⟩, ⟨"str_", "str_", "str_", object⟩]⟩ with
    operations := [.bare .get "/list" none, .bare .get "/list/{bool}" none] }
  have hok : (modules .relative none api).isOk = true := by decide +kernel
  obtain ⟨ms, h⟩ := exists_of_isOk hok
  refine ⟨api, ms, h, (builtins_free_iff h).mpr ⟨by decide, fun o ho o' ho' segment hne hbegins => ?_⟩⟩
  have hplain : Route.segments "/list" = ["list"] := by decide
  have hbelow : Route.segments "/list/{bool}" = ["list", "{bool}"] := by decide
  rcases List.mem_pair.mp ho with rfl | rfl <;> rcases List.mem_pair.mp ho' with rfl | rfl
  · simp [Operation.bare, hplain] at hbegins
  · simp only [Operation.bare, hplain, hbelow, List.singleton_append, List.cons_prefix_cons, List.prefix_nil,
      and_true, true_and] at hbegins
    exact hbegins ▸ (by decide)
  · simp [Operation.bare, hplain, hbelow] at hbegins
  · simp [Operation.bare, hbelow] at hbegins

theorem builtin_taken : ∃ (d : Document) (api : Api) (ms : List Module), Registry.ofDocument d = .ok api.schemas ∧
    modules .relative none api = .ok ms ∧ ∃ m ∈ ms, m.classes ≠ [] ∧ "str" ∈ builtins ∧ "str" ∈ m.bound := by
  let schema : NamedSchema := ⟨"str", "str", "str", .object ⟨false, .absent⟩ [] [] none⟩
  let api : Api := bareApi ⟨[schema]⟩
  have hok : (modules .relative none api).isOk = true := by decide +kernel
  obtain ⟨ms, h⟩ := exists_of_isOk hok
  obtain ⟨b, hb, rfl⟩ := exists_build h
  obtain ⟨m, hm, hmade⟩ := exists_mem_of_mapM hb.ofSchemas (List.mem_singleton_self schema)
  obtain ⟨hclasses, hbound⟩ := symbol_mem_bound hmade
  exact ⟨.map [(.text "str", .map [(.text "type", .text "object")])], api, _, rfl, h, m, b.ofSchemas_subset api hm,
    hclasses, by decide, hbound⟩

end Build

end Package

end ClientForge
