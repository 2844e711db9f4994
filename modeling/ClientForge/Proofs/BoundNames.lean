import ClientForge.Proofs.ModuleScopes
import ClientForge.Proofs.RequestNames

/-!
The names in the code of a module are known to it: they are built in, or an import, a class, a checker or a function of
the module brings them.
-/

namespace ClientForge

open Outcome

namespace Module

variable {m : Module}

def declared (m : Module) : List String :=
  (m.imports ++ m.deferred).flatMap Import.bound
    ++ (m.classes.map (·.name) ++ m.adapters.map (·.name) ++ m.operations.map (·.name))

def Knows (m : Module) (x : String) : Prop := x ∈ Naming.builtins ∨ x ∈ m.declared

theorem knows_class {k : ClassDef} (hk : k ∈ m.classes) : m.Knows k.name :=
  .inr (List.mem_append_right _ (List.mem_append_left _ (List.mem_append_left _ (List.mem_map_of_mem hk))))

theorem knows_adapter {a : AdapterDef} (ha : a ∈ m.adapters) : m.Knows a.name :=
  .inr (List.mem_append_right _ (List.mem_append_left _ (List.mem_append_right _ (List.mem_map_of_mem ha))))

theorem knows_operation {o : OperationDef} (ho : o ∈ m.operations) : m.Knows o.name :=
  .inr (List.mem_append_right _ (List.mem_append_right _ (List.mem_map_of_mem ho)))

/-- All code in a module can be read: what its classes inherit from, their settings and fields, its checkers, and its
functions. The module knows every name that this code reads from around itself. -/
structure KnowsNames (m : Module) : Prop where
  classes : ∀ k ∈ m.classes, ∀ line ∈ k.codeLines, ∃ tokens, CodeReader.tokens? line = some tokens ∧
    ∀ x ∈ Token.names tokens, m.Knows x
  adapters : ∀ a ∈ m.adapters, ∃ tokens, CodeReader.tokens? s!"{a.name} = TypeAdapter({a.type.text})" = some tokens ∧
    ∀ x ∈ Token.names tokens, m.Knows x
  operations : ∀ o ∈ m.operations, ∃ tokens, CodeReader.tokens? o.text = some tokens ∧
    ∀ x ∈ Token.functionNames tokens, m.Knows x

theorem exists_tokens {code : String} (h : Names code m.Knows) :
    ∃ tokens, CodeReader.tokens? code = some tokens ∧ ∀ x ∈ Token.names tokens, m.Knows x := by
  obtain ⟨tokens, hreads, hnames⟩ := h
  exact ⟨tokens, tokens?_of_reads hreads, hnames⟩

theorem knowsNames_of_nil (hclasses : m.classes = []) (hadapters : m.adapters = []) (hoperations : m.operations = []) :
    m.KnowsNames where
  classes := by simp [hclasses]
  adapters := by simp [hadapters]
  operations := by simp [hoperations]

theorem knows_of_atHand {r : Registry} {symbols refs : List String} {classes : List ClassDef} {x : String}
    (h : AtHand r symbols refs classes x) (hsymbols : symbols ⊆ (m.imports ++ m.deferred).flatMap Import.bound)
    (hrefs : ∀ name ∈ refs, ∀ e, r.get? name = some e → m.Knows e.symbol) (hclasses : classes ⊆ m.classes) :
    m.Knows x := by
  cases h with
  | builtin h => exact .inl h
  | symbol h => exact .inr (List.mem_append_left _ (hsymbols h))
  | ref h he => exact hrefs _ h _ he
  | model hk => exact knows_class (hclasses hk)

end Module

namespace ImportTable

variable {t : ImportTable} {names : List String}

theorem Brings.mem_bound_into (h : t.Brings names) (m : Module) {x : String} :
    x ∈ ((t.into m).imports ++ (t.into m).deferred).flatMap Import.bound ↔
      x ∈ t.libraries.map (fun name => (name.pieces '.').headD "") ∨
        (x ∈ Library.symbols ∧ x ∈ t.used) ∨ x ∈ names := by
  change x ∈ (t.imports ++ t.deferredImports).flatMap Import.bound ↔ _
  rw [h.bound_imports.mem_iff, List.mem_append, List.mem_append, List.mem_filter, decide_eq_true_eq, or_assoc]

theorem Brings.symbols_bound_into (h : t.Brings names) (m : Module) {symbols : List String}
    (hsymbols : symbols ⊆ t.symbols) (hlibrary : symbols ⊆ Library.symbols) :
    symbols ⊆ ((t.into m).imports ++ (t.into m).deferred).flatMap Import.bound := fun _ hx =>
  (h.mem_bound_into m).mpr (.inr (.inl ⟨hlibrary hx, List.mem_append_left _ (hsymbols hx)⟩))

end ImportTable

namespace Package

open ImportTable

section Settings

variable (api : Api)

theorem closed_headers : Closed "Field(default_factory=lambda: \x7b\"Accept\": \"application/json\"\x7d)"
    [.word "Field", .group '(' [.word "default_factory", .mark '=', .word "lambda", .mark ':',
      .group '\x7b' [.literal, .mark ':', .literal]]] := fun _ _ => by rfl

theorem reads_timeout : Reads "30.0" [.word "30", .mark '.', .word "0"] := fun _ _ => ⟨_, rfl, by rfl, by rfl⟩

theorem names_setting {name value : String} {type : TypeExpr} {tokens : List Token} {P : String → Prop}
    (hname : Naming.IsWord name) (htype : type.IsReadable) (hnames : type.names ⊆ Naming.builtins)
    (hvalue : Reads value tokens) (hreads : Token.readsAll true .within tokens ⊆ ["Field"])
    (hbuiltin : ∀ x ∈ Naming.builtins, P x) (hfield : P "Field") :
    Names (FieldDef.line ⟨name, type, some value, none⟩) P :=
  names_given hname htype (fun x hx => hbuiltin x (hnames hx)) hvalue
    fun _ hx => List.mem_singleton.mp (hreads hx) ▸ hfield

theorem names_settings {P : String → Prop} (hbuiltin : ∀ x ∈ Naming.builtins, P x) (hfield : P "Field") :
    ∀ f ∈ (configClass api).fields, Names f.line P := by
  have hstr : TypeExpr.IsReadable (.named "str") := (by decide : Naming.IsWord "str")
  have hfloat : TypeExpr.IsReadable (.named "float") := (by decide : Naming.IsWord "float")
  simp only [configClass, List.forall_mem_cons]
  refine ⟨?_, ?_, ?_, by simp⟩
  · exact names_setting (by decide) hstr (by decide) (reads_quoted (baseUrl api)) (by decide) hbuiltin hfield
  · exact names_setting (by decide) hstr (by decide) closed_headers.reads (by decide) hbuiltin hfield
  · exact names_setting (by decide) hfloat (by decide) reads_timeout (by decide) hbuiltin hfield

theorem knowsNames_config : (configModule api).KnowsNames where
  classes k hk line hline := by
    rw [List.mem_singleton.mp hk] at hline
    have hbound : ["BaseModel", "Field"] ⊆ (configModule api).declared := by
      intro x hx
      have hlibrary : x ∈ Library.symbols.filter (· ∈ ["BaseModel", "Field"]) := by
        revert x
        decide
      refine List.mem_append_left _ ?_
      change x ∈ (Library.imports ["BaseModel", "Field"] ++ []).flatMap Import.bound
      rw [List.append_nil]
      exact (Library.bound_imports _).mem_iff.mpr hlibrary
    apply Module.exists_tokens
    have hline : line = "BaseModel" ∨ ∃ f ∈ (configClass api).fields, line = f.line := by
      simpa [ClassDef.codeLines, ClassDef.fieldLines, configClass] using hline
    rcases hline with rfl | ⟨f, hf, rfl⟩
    · refine ⟨_, reads_word (by decide), fun x hx => .inr (hbound ?_)⟩
      revert x
      decide
    · exact names_settings api (fun x hx => .inl hx) (.inr (hbound (by decide))) f hf
  adapters := by simp [configModule, Module.blank]
  operations := by simp [configModule, Module.blank]

end Settings

section Schemas

variable {r : Registry} {naming : ModuleNaming} {reach : String → List String} {e : NamedSchema} {m : Module}

theorem exists_schemaImport (reach : String → List String) {own name : String} {c : Compiled} {target : NamedSchema}
    (hname : name ∈ c.refs) (hne : name ≠ own) (htarget : r.get? name = some target) :
    ∃ i ∈ schemaImports r reach own c, i.target = target :=
  ⟨⟨name, target, (reach name).contains own && !(c.models.flatMap (·.bases)).contains target.symbol
    && !c.runtimeRefs.contains name⟩, mem_schemaImports.mpr ⟨hname, hne, htarget, rfl⟩, rfl⟩

theorem knows_schema (hr : r.WellFormed) (he : e ∈ r.entries) {c : Compiled} (hc : e.compile r = .ok c)
    (hclash : Naming.clash (schemaClaims (schemaImports r reach e.name c) c.models) = none)
    (hsymbols : c.symbols ⊆ Library.symbols) (hclasses : m.classes = c.models) {x : String} (hx : c.Provides r x) :
    ((schemaTable r naming reach e c).into m).Knows x := by
  have hbrings : (schemaTable r naming reach e c).Brings _ := brings_schemaTable hclash
  have hmodels : ((schemaTable r naming reach e c).into m).classes = c.models := hclasses
  refine Module.knows_of_atHand hx (hbrings.symbols_bound_into _ (fun x hx => ?_) hsymbols)
    (fun name hname target htarget => ?_) (hmodels ▸ List.Subset.refl _)
  · rw [schemaTable, symbols_foldl_takeNames, use, mem_foldl_add]
    exact .inr hx
  · by_cases hown : name = e.name
    · -- The class of the schema itself is the last one.
      obtain ⟨before, k, hlast, hsymbol, -⟩ := NamedSchema.compile_last he hc
      rw [hown, hr.get?_name he, Option.some.injEq] at htarget
      rw [← htarget, ← hsymbol]
      exact Module.knows_class (by simp [hmodels, hlast])
    · obtain ⟨i, hi, rfl⟩ := exists_schemaImport reach hname hown htarget
      refine .inr (List.mem_append_left _ ((hbrings.mem_bound_into _).mpr (.inr (.inr ?_))))
      exact List.mem_map.mpr ⟨i, hi, rfl⟩

theorem knowsNames_schema (hr : r.WellFormed) (hwords : ∀ e ∈ r.entries, Naming.IsWord e.symbol) (he : e ∈ r.entries)
    (hplain : e.schema.IsPlain) (hm : schemaModule r naming reach e = .ok m) : m.KnowsNames := by
  obtain ⟨c, hc, hclash, rfl⟩ := schemaModule_eq_ok hm
  have hcomplete := NamedSchema.compile_complete hr hwords he hplain hc
  refine ⟨fun k hk line hline => Module.exists_tokens ?_, by simp [into, Module.blank], by simp [into, Module.blank]⟩
  refine k.names_codeLines (hcomplete.classes k hk) (fun x hx => ?_) line hline
  exact knows_schema hr he hc hclash hcomplete.symbols rfl (hcomplete.class_names k hk x hx)

end Schemas

section Routes

variable {r : Registry} {naming : ModuleNaming} {n : RouteNode} {p : NodeParts} {m : Module}

theorem httpx_of_libraries : ["httpx"].map (fun name => (name.pieces '.').headD "") = ["httpx"] := by rfl

section Nodes

variable (hclash : Naming.clash (nodeClaims r n p) = none) (hp : nodeParts r n = .ok p)
  (hchildren : ∀ c ∈ n.children, ∃ segment, c.parts = n.parts ++ [segment]) {path : ModulePath} {d : OperationDef}
  {needs : Needs} (hd : (d, needs) ∈ p.definitions)

include hclash hp hchildren hd

theorem knows_needed (hclasses : m.classes = p.classes) (hsymbols : needs.symbols ⊆ Library.symbols) {x : String}
    (hx : needs.Provides r x) : ((nodeImports r naming path n p).into m).Knows x := by
  have hbrings : (nodeImports r naming path n p).Brings _ := brings_nodeImports hclash hp hchildren path
  refine Module.knows_of_atHand hx (hbrings.symbols_bound_into _ (fun x hx => ?_) hsymbols) (fun name hname e he => ?_)
    (fun k hk => ?_)
  · exact symbols_nodeImports r naming path n p (List.mem_flatMap.mpr ⟨_, hd, hx⟩)
  · have hsymbol : e.symbol = Request.symbolOf r name := by rw [Request.symbolOf, he, Option.map_some, Option.getD_some]
    have hname : name ∈ p.refs := List.mem_eraseDups.mpr (List.mem_flatMap.mpr ⟨_, hd, hname⟩)
    refine .inr (List.mem_append_left _ ((hbrings.mem_bound_into _).mpr (.inr (.inr ?_))))
    exact List.mem_append_right _ (hsymbol ▸ List.mem_map_of_mem hname)
  · change k ∈ m.classes
    rw [hclasses]
    exact List.mem_flatMap.mpr ⟨_, hd, hk⟩

theorem knows_fixed {x : String} (hx : x = "httpx" ∨ x = "sdk_config") :
    ((nodeImports r naming path n p).into m).Knows x := by
  have hbrings : (nodeImports r naming path n p).Brings _ := brings_nodeImports hclash hp hchildren path
  have hne : p.definitions.isEmpty = false := List.isEmpty_eq_false_iff.mpr (List.ne_nil_of_mem hd)
  refine .inr (List.mem_append_left _ ((hbrings.mem_bound_into _).mpr ?_))
  rcases hx with rfl | rfl
  · rw [libraries_nodeImports, hne, if_neg Bool.false_ne_true, httpx_of_libraries]
    exact .inl (List.mem_singleton_self _)
  · refine .inr (.inr (List.mem_append_left _ (List.mem_append_right _ ?_)))
    rw [settingsNames, hne, if_neg Bool.false_ne_true]
    exact List.mem_singleton_self _

end Nodes

theorem knowsNames_route (hwords : ∀ e ∈ r.entries, Naming.IsWord e.symbol)
    (hplain : ∀ o ∈ n.operations, ∀ s ∈ o.schemas, s.IsPlain)
    (hchildren : ∀ c ∈ n.children, ∃ segment, c.parts = n.parts ++ [segment]) {path : ModulePath}
    (hm : routeModule r naming path n = .ok m) : m.KnowsNames := by
  obtain ⟨p, hp, hclash, rfl⟩ := routeModule_eq_ok hm
  have hserved {d : OperationDef} {needs : Needs} (hd : (d, needs) ∈ p.definitions) : Request.Served r needs d := by
    obtain ⟨o, ho, hdefine⟩ := exists_left_of_mem (nodeParts_eq_ok hp) hd
    exact Request.define_served hwords (hplain o ho) hdefine
  refine ⟨fun k hk line hline => ?_, fun a ha => ?_, fun f hf => ?_⟩
  · obtain ⟨⟨d, needs⟩, hd, hk⟩ := List.mem_flatMap.mp hk
    have hneeds := (hserved hd).needs
    refine Module.exists_tokens (k.names_codeLines (hneeds.classes k hk) (fun x hx => ?_) line hline)
    exact knows_needed hclash hp hchildren hd rfl hneeds.symbols (hneeds.class_names k hk x hx)
  · obtain ⟨⟨d, needs⟩, hd, ha⟩ := List.mem_filterMap.mp ha
    have hneeds := (hserved hd).needs
    obtain ⟨hname, htype, hadapter, hnames⟩ := hneeds.adapter a ha
    refine Module.exists_tokens (AdapterDef.names_text hname htype (fun x hx => ?_) ?_)
    · exact knows_needed hclash hp hchildren hd rfl hneeds.symbols (hnames x hx)
    · exact knows_needed hclash hp hchildren hd rfl hneeds.symbols (.symbol hadapter)
  · obtain ⟨⟨d, needs⟩, hd, rfl⟩ := List.mem_map.mp hf
    obtain ⟨tokens, htokens, hnames⟩ := (hserved hd).functionNames
    refine ⟨tokens, htokens, fun x hx => ?_⟩
    rcases hnames x hx with hx | ⟨a, ha, rfl⟩ | hx
    · rcases List.mem_cons.mp hx with rfl | hx
      · exact Module.knows_operation hf
      · exact knows_fixed hclash hp hchildren hd (List.mem_pair.mp hx)
    · exact Module.knows_adapter (List.mem_filterMap.mpr ⟨_, hd, ha⟩)
    · exact knows_needed hclash hp hchildren hd rfl (hserved hd).needs.symbols hx

end Routes

def enumValues (api : Api) : List Document :=
  (api.schemas.entries.map (·.schema) ++ api.operations.flatMap Operation.schemas).flatMap Schema.enumValues

section Modules

variable {style : ImportStyle} {package : Option String} {api : Api} {b : Build}

theorem Build.IsOf.knowsNames (hb : b.IsOf style package api) (hr : api.schemas.WellFormed)
    (hwords : ∀ e ∈ api.schemas.entries, Naming.IsWord e.symbol) (hplain : ∀ d ∈ enumValues api, d.IsPlain) :
    ∀ m ∈ b.modules api, m.KnowsNames := by
  have hschemas : ∀ s ∈ api.schemas.entries.map (·.schema) ++ api.operations.flatMap Operation.schemas, s.IsPlain :=
    fun s hs d hd => hplain d (List.mem_flatMap.mpr ⟨s, hs, hd⟩)
  intro m hm
  rcases Build.mem_modules.mp hm with rfl | hm | rfl | hm | rfl | rfl | rfl
  · exact knowsNames_config api
  · obtain ⟨e, he, hmade⟩ := exists_of_mem_mapM hb.ofSchemas hm
    exact knowsNames_schema hr hwords he (hschemas _ (List.mem_append_left _ (List.mem_map_of_mem he))) hmade
  · have hgathered := (schemasModule_eq_ok hb.gathered).2
    exact Module.knowsNames_of_nil (hgathered ▸ rfl) (hgathered ▸ rfl) (hgathered ▸ rfl)
  · obtain ⟨n, hmem, hmade⟩ := exists_left_of_mem hb.routeModules hm
    have hnode := mem_postOrder_of_mem_functionNodes hmem
    refine knowsNames_route hwords (fun o ho s hs => hschemas s (List.mem_append_right _ ?_))
      (fun c hc => (Route.child_of_mem_tree hb.root hnode hc).2) hmade
    rw [Route.operations_of_mem_tree hb.root hnode] at ho
    exact List.mem_flatMap.mpr ⟨o, List.mem_of_mem_filter ho, hs⟩
  · exact Module.knowsNames_of_nil rfl rfl rfl
  · exact Module.knowsNames_of_nil rfl rfl rfl
  · exact Module.knowsNames_of_nil rfl rfl rfl

/-- No code in a package reads a name that its module does not know. -/
theorem modules_know_names {d : Document} {ms : List Module} (hd : Registry.ofDocument d = .ok api.schemas)
    (hplain : ∀ d ∈ enumValues api, d.IsPlain) (h : modules style package api = .ok ms) : ∀ m ∈ ms, m.KnowsNames := by
  obtain ⟨b, hb, rfl⟩ := exists_build h
  exact hb.knowsNames (Registry.wellFormed_of_ofDocument hd)
    (fun e he => (Registry.symbols_areIdentifiers hd e he).isWord) hplain

theorem modules_know_names_mixed : ∃ (api : Api) (ms : List Module), modules .relative none api = .ok ms ∧
    enumValues api = [.text "cat", .scalar (.int (-1)), .null, .scalar (.bool true)] ∧ ∀ m ∈ ms, m.KnowsNames := by
  let marks : Marks := ⟨false, .absent⟩
  let schemas : Registry := ⟨[
    ⟨"Pet", "Pet", "pet", .object marks [("kind", .enum marks [.text "cat", .scalar (.int (-1)), .null]),
      ("owner", .ref marks "Owner")] [] none⟩,
    ⟨"Owner", "Owner", "owner", .object marks [("pets", .array marks (.ref marks "Pet"))] [] none⟩]⟩
  let limit : Parameter := ⟨"page limit", .query, false, none, false, .enum marks [.scalar (.bool true)]⟩
  let body : RequestBody := ⟨true, none, ["application/json"],
    some (.object marks [("tag", .object marks [("name", .primitive marks .string none)] [] none)] [] none)⟩
  let answer : Response := ⟨"200", none, ["application/json"], some (.ref ⟨true, .absent⟩ "Pet")⟩
  let api : Api := { bareApi schemas with operations := [{ Operation.bare .post "/pets/{id}" none with
    parameters := [limit], requestBody := some body, responses := [answer] }] }
  let d : Document := .map [
    (.text "Pet", Registry.objectOf [
      (.text "kind", .map [(.text "enum", .list [.text "cat", .scalar (.int (-1)), .null])]),
      (.text "owner", Registry.referenceTo "Owner")]),
    (.text "Owner", Registry.objectOf [(.text "pets", .map [(.text "type", .text "array"),
      (.text "items", Registry.referenceTo "Pet")])])]
  have hd : Registry.ofDocument d = .ok api.schemas := rfl
  have hok : (modules .relative none api).isOk = true := by decide +kernel
  obtain ⟨ms, h⟩ := exists_of_isOk hok
  have hvalues : enumValues api = [.text "cat", .scalar (.int (-1)), .null, .scalar (.bool true)] := rfl
  refine ⟨api, ms, h, hvalues, modules_know_names hd ?_ h⟩
  rw [hvalues]
  simp [Document.IsPlain]

end Modules

end Package

end ClientForge
