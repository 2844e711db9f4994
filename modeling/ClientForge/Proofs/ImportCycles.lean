import ClientForge.Proofs.Assembly
import ClientForge.Proofs.Reachability
import ClientForge.Proofs.Registries
import ClientForge.Proofs.TypeReferences
import Mathlib.Data.List.Basic

/-!
Which modules of schemas run before which, and when one of them would have to run before itself.
-/

namespace ClientForge

open Outcome Relation

namespace Registry

/-- The class of one schema cannot be made before that of another one: it inherits from it, or checks values by it. -/
def NeedsFirst (r : Registry) (a b : String) : Prop :=
  ∃ e c target, r.get? a = some e ∧ e.compile r = .ok c ∧ b ∈ c.refs ∧ b ≠ a ∧ r.get? b = some target ∧
    (target.symbol ∈ c.models.flatMap (·.bases) ∨ b ∈ c.runtimeRefs)

instance (r : Registry) (a b : String) : Decidable (r.NeedsFirst a b) :=
  decidable_of_iff (∃ e ∈ r.get? a, ∃ c ∈ (e.compile r).toOption, ∃ target ∈ r.get? b,
      b ∈ c.refs ∧ b ≠ a ∧ (target.symbol ∈ c.models.flatMap (·.bases) ∨ b ∈ c.runtimeRefs)) <| by
    have hok {e : NamedSchema} {c : Compiled} : c ∈ (e.compile r).toOption ↔ e.compile r = .ok c := by
      cases e.compile r <;> simp [Except.toOption, eq_comm]
    simp only [hok, Option.mem_def]
    constructor
    · rintro ⟨e, he, c, hc, target, htarget, href, hne, hneed⟩
      exact ⟨e, c, target, he, hc, href, hne, htarget, hneed⟩
    · rintro ⟨e, c, target, he, hc, href, hne, htarget, hneed⟩
      exact ⟨e, he, c, hc, target, htarget, href, hne, hneed⟩

theorem mem_names_of_get? {r : Registry} {name : String} {e : NamedSchema} (h : r.get? name = some e) :
    name ∈ r.names := by
  obtain ⟨he, hname⟩ := mem_of_get? h
  exact List.mem_map.mpr ⟨e, he, hname⟩

theorem NeedsFirst.mem_names {r : Registry} {a b : String} (h : r.NeedsFirst a b) : a ∈ r.names ∧ b ∈ r.names := by
  obtain ⟨e, c, target, he, -, -, -, htarget, -⟩ := h
  exact ⟨mem_names_of_get? he, mem_names_of_get? htarget⟩

/-- The module of one schema imports the class of another one at once. -/
def Loads (r : Registry) (reach : String → List String) (a b : String) : Prop :=
  ∃ e c, r.get? a = some e ∧ e.compile r = .ok c ∧
    ∃ i ∈ Package.schemaImports r reach a c, i.ref = b ∧ i.deferred = false

end Registry

theorem transGen_returning {α : Type} {R : α → α → Prop} {a b : α} (h : TransGen R a b) (hback : ReflTransGen R b a) :
    TransGen (fun x y => R x y ∧ ReflTransGen R y x) a b := by
  induction h with
  | single h => exact .single ⟨h, hback⟩
  | tail hpath hstep ih => exact (ih (hback.head hstep)).tail ⟨hstep, hback.trans hpath.to_reflTransGen⟩

theorem exists_transGen_of_steps {α β : Type} {R : α → α → Prop} {S : β → β → Prop} {M : α → β → Prop}
    (hleft : ∀ a b x, M a x → M b x → a = b) (hstep : ∀ x y, S x y → ∃ a b, M a x ∧ M b y ∧ R a b) {x y : β}
    (h : TransGen S x y) : ∃ a b, M a x ∧ M b y ∧ TransGen R a b := by
  induction h with
  | single h =>
    obtain ⟨a, b, ha, hb, hab⟩ := hstep _ _ h
    exact ⟨a, b, ha, hb, .single hab⟩
  | tail _ h ih =>
    obtain ⟨a, b, ha, hb, hab⟩ := ih
    obtain ⟨b', c, hb', hc, hbc⟩ := hstep _ _ h
    obtain rfl := hleft b b' _ hb hb'
    exact ⟨a, c, ha, hc, hab.tail hbc⟩

theorem transGen_cyclic_iff {α β : Type} {R : α → α → Prop} {S : β → β → Prop} {M : α → β → Prop}
    (hright : ∀ a x y, M a x → M a y → x = y) (hleft : ∀ a b x, M a x → M b x → a = b)
    (hstep : ∀ x y, S x y → ∃ a b, M a x ∧ M b y ∧ R a b) (hback : ∀ a b, R a b → ∃ x y, M a x ∧ M b y ∧ S x y) :
    (∃ x, TransGen S x x) ↔ ∃ a, TransGen R a a := by
  constructor
  · rintro ⟨x, hx⟩
    obtain ⟨a, b, ha, hb, hab⟩ := exists_transGen_of_steps hleft hstep hx
    obtain rfl := hleft a b x ha hb
    exact ⟨a, hab⟩
  · rintro ⟨a, ha⟩
    have hright' : ∀ x y a, M a x → M a y → x = y := fun x y a => hright a x y
    obtain ⟨x, y, hx, hy, hxy⟩ := exists_transGen_of_steps (M := fun x a => M a x) hright' hback ha
    obtain rfl := hright a x y hx hy
    exact ⟨x, hxy⟩

namespace Package

variable {r : Registry} {naming : ModuleNaming} {reach : String → List String}

theorem refersTo_of_loads {a b : String} (h : r.Loads reach a b) : b ≠ a ∧ r.RefersTo a b := by
  obtain ⟨e, c, he, hc, i, hi, rfl, -⟩ := h
  obtain ⟨href, hne, -, -⟩ := mem_schemaImports.mp hi
  exact ⟨hne, Registry.refersTo_iff.mpr ⟨e, he, (NamedSchema.compile_refersTo hc _ href).1⟩⟩

theorem needsFirst_of_loads {a b : String} (h : r.Loads reach a b) (hback : a ∈ reach b) : r.NeedsFirst a b := by
  obtain ⟨e, c, he, hc, i, hi, rfl, hdeferred⟩ := h
  obtain ⟨href, hne, htarget, hd⟩ := mem_schemaImports.mp hi
  refine ⟨e, c, i.target, he, hc, href, hne, htarget, ?_⟩
  by_contra hno
  rw [not_or] at hno
  rw [hd] at hdeferred
  simp [hback, hno.1, hno.2] at hdeferred

theorem loads_of_needsFirst {a b : String} (h : r.NeedsFirst a b) : r.Loads reach a b := by
  obtain ⟨e, c, target, he, hc, href, hne, htarget, hneed⟩ := h
  exact ⟨e, c, he, hc, ⟨b, target, false⟩, mem_schemaImports_of_needed href hne htarget hneed, rfl, rfl⟩

theorem loads_cyclic_iff (hreach : ∀ x ∈ r.names, reach x = r.reachable x) (a : String) :
    TransGen (r.Loads reach) a a ↔ TransGen r.NeedsFirst a a := by
  have hrefers : r.Loads reach ≤ r.RefersTo := fun _ _ h => (refersTo_of_loads h).2
  have hloads : r.NeedsFirst ≤ r.Loads reach := fun _ _ h => loads_of_needsFirst h
  have hneeds : (fun x y => r.Loads reach x y ∧ ReflTransGen (r.Loads reach) y x) ≤ r.NeedsFirst := by
    -- The way back makes the import one that could be put off, so that it is there for a need.
    rintro x y ⟨hload, hback⟩
    apply needsFirst_of_loads hload
    obtain ⟨hne, -⟩ := refersTo_of_loads hload
    obtain ⟨e, c, -, -, i, hi, rfl, -⟩ := hload
    rw [hreach _ (Registry.mem_names_of_get? (mem_schemaImports.mp hi).2.2.1)]
    have hback := ReflTransGen.mono hrefers _ _ hback
    exact Registry.mem_reachable_iff.mpr ((reflTransGen_iff_eq_or_transGen.mp hback).resolve_left hne.symm)
  constructor
  · intro h
    exact TransGen.mono hneeds _ _ (transGen_returning h .refl)
  · intro h
    exact TransGen.mono hloads _ _ h

def IsSchemaModule (m : Module) : Prop := m.path.package = ["schemas"] ∧ m.path ≠ schemasIndex

def LoadsFirst (root? : Option (List String)) (ms : List Module) (m n : Module) : Prop :=
  m ∈ ms ∧ n ∈ ms ∧ IsSchemaModule m ∧ IsSchemaModule n ∧ ∃ source name, m.Takes false source name ∧
    ModuleName.locate root? m.path.package source.text = some n.path.dotted ∧ ∃ c ∈ n.classes, c.name = name.name

def IsModuleOf (r : Registry) (naming : ModuleNaming) (reach : String → List String) (name : String) (m : Module) :
    Prop :=
  ∃ e, r.get? name = some e ∧ schemaModule r naming reach e = .ok m

theorem IsModuleOf.name_eq (hr : r.WellFormed) {a b : String} {m : Module} (ha : IsModuleOf r naming reach a m)
    (hb : IsModuleOf r naming reach b m) : a = b := by
  obtain ⟨e, he, hm⟩ := ha
  obtain ⟨e', he', hm'⟩ := hb
  obtain ⟨hmem, rfl⟩ := Registry.mem_of_get? he
  obtain ⟨hmem', rfl⟩ := Registry.mem_of_get? he'
  have hpath := congrArg ModulePath.dotted ((path_of_schemaModule hm).symm.trans (path_of_schemaModule hm'))
  rw [dotted_schemaPath hr hmem, dotted_schemaPath hr hmem'] at hpath
  rw [hr.eq_of_module hmem hmem' (by simpa using hpath)]

theorem IsModuleOf.module_eq {a : String} {m n : Module} (hm : IsModuleOf r naming reach a m)
    (hn : IsModuleOf r naming reach a n) : m = n := by
  obtain ⟨e, he, hm⟩ := hm
  obtain ⟨e', he', hn⟩ := hn
  rw [he] at he'
  cases he'
  rw [hm] at hn
  exact Except.ok.inj hn

theorem takes_iff_loads (hr : r.WellFormed) (hn : naming.IsPlain) {a b : String} {m n : Module}
    (hm : IsModuleOf r naming reach a m) (ht : IsModuleOf r naming reach b n) :
    (∃ source name, m.Takes false source name ∧
      ModuleName.locate naming.root? m.path.package source.text = some n.path.dotted ∧
        ∃ c ∈ n.classes, c.name = name.name) ↔ r.Loads reach a b := by
  obtain ⟨e, he, hm⟩ := hm
  obtain ⟨target, htarget, ht⟩ := ht
  have htmem := (Registry.mem_of_get? htarget).1
  have hpackage : m.path.package = ["schemas"] := by
    rw [path_of_schemaModule hm]
    exact ModulePath.package_inFolders _ _
  have hlocate {x : NamedSchema} (hx : x ∈ r.entries) : ModuleName.locate naming.root? m.path.package
      (naming.nameOf ["schemas"] (schemaPath x.module).dotted).text = some n.path.dotted ↔ x = target := by
    rw [hpackage, ModuleNaming.locate_nameOf hn _ (dotted_schemaPath_isWord hr hx), path_of_schemaModule ht,
      dotted_schemaPath hr hx, dotted_schemaPath hr htmem]
    constructor
    · intro h
      exact hr.eq_of_module hx htmem (by simpa using h)
    · rintro rfl
      rfl
  have hentry {c : Compiled} {i : SchemaImport} (hi : i ∈ schemaImports r reach a c) : i.target ∈ r.entries :=
    (Registry.mem_of_get? (mem_schemaImports.mp hi).2.2.1).1
  obtain ⟨c, hc, -, htakes⟩ := takes_schemaModule hm
  rw [(Registry.mem_of_get? he).2] at htakes
  constructor
  · rintro ⟨source, name, htake, hsource, -⟩
    obtain ⟨i, hi, rfl, hd, -⟩ := (htakes _ _ _).mp htake
    obtain rfl := (hlocate (hentry hi)).mp hsource
    refine ⟨e, c, he, hc, i, hi, ?_, hd.symm⟩
    rw [← (Registry.mem_of_get? htarget).2, (Registry.mem_of_get? (mem_schemaImports.mp hi).2.2.1).2]
  · rintro ⟨e', c', he', hc', i, hi, rfl, hd⟩
    cases he.symm.trans he'
    cases Except.ok.inj (hc.symm.trans hc')
    have htarget' := (mem_schemaImports.mp hi).2.2.1
    cases htarget.symm.trans htarget'
    obtain ⟨ct, hct, hclasses, -⟩ := takes_schemaModule ht
    obtain ⟨-, -, -, model, hmodel, hname⟩ := NamedSchema.compile_cases hct
    refine ⟨_, ⟨i.target.symbol, none⟩, (htakes _ _ _).mpr ⟨i, hi, rfl, hd.symm, rfl, rfl⟩, (hlocate htmem).mpr rfl, ?_⟩
    exact ⟨model, hclasses ▸ hmodel, hname⟩

theorem package_functionsPath (package : List String) : (functionsPath package).package = "routes" :: package := by
  unfold functionsPath
  split
  · rename_i h
    rw [List.isEmpty_iff.mp h]
    exact ModulePath.package_inFolders _ _
  · exact ModulePath.package_index _

theorem isSchemaModule_iff {style : ImportStyle} {package : Option String} {api : Api} {b : Build}
    (hb : b.IsOf style package api) (hr : api.schemas.WellFormed) {m : Module} :
    m ∈ b.modules api ∧ IsSchemaModule m ↔ m ∈ b.ofSchemas := by
  constructor
  · rintro ⟨hm, hpackage, hindex⟩
    rcases Build.mem_modules.mp hm with rfl | hm | rfl | hm | rfl | rfl | rfl
    · exact absurd (show configPath.package = ["schemas"] from hpackage) (by decide)
    · exact hm
    · obtain ⟨-, hm⟩ := schemasModule_eq_ok hb.gathered
      exact absurd (congrArg Module.path hm) hindex
    · obtain ⟨n, -, hn⟩ := exists_left_of_mem hb.routeModules hm
      rw [path_of_routeModule hn, package_functionsPath, List.cons.injEq] at hpackage
      exact absurd hpackage.1 (by decide)
    · exact absurd (show aliasPath.package = ["schemas"] from hpackage) (by decide)
    · exact absurd (show routesIndex.package = ["schemas"] from hpackage) (by decide)
    · exact absurd (show packageIndex.package = ["schemas"] from hpackage) (by decide)
  · intro hm
    obtain ⟨e, he, hm'⟩ := exists_of_mem_mapM hb.ofSchemas hm
    have hpath := path_of_schemaModule hm'
    refine ⟨b.ofSchemas_subset api hm, ?_, ?_⟩
    · rw [hpath]
      exact ModulePath.package_inFolders _ _
    · rw [hpath]
      intro h
      have h := congrArg ModulePath.dotted h
      rw [dotted_schemaPath hr he, schemasIndex, ModulePath.dotted_index] at h
      cases h

def reached (r : Registry) (name : String) : List String :=
  (r.reachability.lookup name).getD []

theorem reached_eq {name : String} (h : name ∈ r.names) : reached r name = r.reachable name := by
  rw [reached, Registry.lookup_reachability h, Option.getD_some]

theorem mem_schemaModules {modules : List Module} (h : schemaModules r naming = .ok modules) (hr : r.WellFormed)
    {m : Module} : m ∈ modules ↔ ∃ a, IsModuleOf r naming (reached r) a m := by
  constructor
  · intro hm
    obtain ⟨e, he, hm⟩ := exists_of_mem_mapM h hm
    exact ⟨e.name, e, hr.get?_name he, hm⟩
  · rintro ⟨a, e, he, hm⟩
    obtain ⟨m', hm', heq⟩ := exists_mem_of_mapM h (Registry.mem_of_get? he).1
    rwa [Except.ok.inj (hm.symm.trans heq)]

theorem Build.IsOf.loadsFirst_cyclic {style : ImportStyle} {package : Option String} {api : Api} {b : Build}
    (hb : b.IsOf style package api) (hr : api.schemas.WellFormed) (hp : PlainRoot style package) :
    (∃ m, TransGen (LoadsFirst (rootName? style package) (b.modules api)) m m) ↔
      ∃ a, TransGen api.schemas.NeedsFirst a a := by
  have hplain := isPlain_of_moduleNaming hb.naming hp
  have hmem {m : Module} := mem_schemaModules (m := m) hb.ofSchemas hr
  rw [← root?_of_moduleNaming hb.naming, ← exists_congr (loads_cyclic_iff fun _ => reached_eq)]
  apply transGen_cyclic_iff (M := IsModuleOf api.schemas b.naming (reached api.schemas))
  · exact fun a x y hx hy => hx.module_eq hy
  · exact fun a a' x ha ha' => ha.name_eq hr ha'
  · rintro m n ⟨hm, hn, hm', hn', htakes⟩
    obtain ⟨a, ha⟩ := hmem.mp ((isSchemaModule_iff hb hr).mp ⟨hm, hm'⟩)
    obtain ⟨a', ha'⟩ := hmem.mp ((isSchemaModule_iff hb hr).mp ⟨hn, hn'⟩)
    exact ⟨a, a', ha, ha', (takes_iff_loads hr hplain ha ha').mp htakes⟩
  · intro a a' hload
    obtain ⟨e, c, he, -, i, hi, rfl, -⟩ := id hload
    have htarget := (mem_schemaImports.mp hi).2.2.1
    obtain ⟨m, hm, hmade⟩ := exists_mem_of_mapM hb.ofSchemas (Registry.mem_of_get? he).1
    obtain ⟨n, hn, hmade'⟩ := exists_mem_of_mapM hb.ofSchemas (Registry.mem_of_get? htarget).1
    have hofm : IsModuleOf api.schemas b.naming (reached api.schemas) a m := ⟨e, he, hmade⟩
    have hofn : IsModuleOf api.schemas b.naming (reached api.schemas) i.ref n := ⟨i.target, htarget, hmade'⟩
    obtain ⟨hm, hm'⟩ := (isSchemaModule_iff hb hr).mpr hm
    obtain ⟨hn, hn'⟩ := (isSchemaModule_iff hb hr).mpr hn
    exact ⟨m, n, hofm, hofn, hm, hn, hm', hn', (takes_iff_loads hr hplain hofm hofn).mpr hload⟩

/-- The modules of schemas run each other in a circle just where the schemas need each other in a circle, by
inheritance or by checks. -/
theorem loadsFirst_cyclic_iff {d : Document} {style : ImportStyle} {package : Option String} {api : Api}
    {ms : List Module} (hd : Registry.ofDocument d = .ok api.schemas) (hp : PlainRoot style package)
    (h : modules style package api = .ok ms) :
    (∃ m, TransGen (LoadsFirst (rootName? style package) ms) m m) ↔ ∃ a, TransGen api.schemas.NeedsFirst a a := by
  obtain ⟨b, hb, rfl⟩ := exists_build h
  exact hb.loadsFirst_cyclic (Registry.wellFormed_of_ofDocument hd) hp

def pairOf (property : String → Document) : Document :=
  let object (other : String) : Document :=
    .map [(.text "type", .text "object"), (.text "properties", .map [(.text "p", property other)])]
  .map [(.text "A", object "B"), (.text "B", object "A")]

def referenceTo (name : String) : Document := .map [(.text "$ref", .text ("#/components/schemas/" ++ name))]

def checkBy (name : String) : Document :=
  .map [(.text "allOf", .list [.map [(.text "type", .text "string")], referenceTo name])]

def pairSchemas (property : String → Schema) : Registry :=
  let object (other : String) : Schema := .object ⟨false, .absent⟩ [("p", property other)] [] none
  ⟨[⟨"A", "A", "a", object "B"⟩, ⟨"B", "B", "b", object "A"⟩]⟩

theorem references_acyclic :
    Registry.ofDocument (pairOf referenceTo) = .ok (pairSchemas (.ref ⟨false, .absent⟩)) ∧
      PlainRoot .absolute (some "sdk") ∧
      ∃ ms, modules .absolute (some "sdk") (bareApi (pairSchemas (.ref ⟨false, .absent⟩))) = .ok ms ∧
        ¬∃ m, TransGen (LoadsFirst (some ["sdk"]) ms) m m := by
  let schemas := pairSchemas (.ref ⟨false, .absent⟩)
  have hd : Registry.ofDocument (pairOf referenceTo) = .ok (bareApi schemas).schemas := rfl
  have hp : PlainRoot .absolute (some "sdk") := by
    intro _ name hname
    cases hname
    decide
  have hok : (modules .absolute (some "sdk") (bareApi schemas)).isOk = true := by decide +kernel
  obtain ⟨ms, h⟩ := exists_of_isOk hok
  have hnone : ∀ a ∈ schemas.names, ∀ b ∈ schemas.names, ¬schemas.NeedsFirst a b := by decide +kernel
  refine ⟨hd, hp, ms, h, ?_⟩
  have hiff := loadsFirst_cyclic_iff hd hp h
  rintro hcycle
  obtain ⟨a, ha⟩ := hiff.mp hcycle
  obtain ⟨b, hab, -⟩ := TransGen.head'_iff.mp ha
  exact hnone a hab.mem_names.1 b hab.mem_names.2 hab

theorem checks_cyclic :
    ∃ (schemas : Registry) (ms : List Module), Registry.ofDocument (pairOf checkBy) = .ok schemas ∧
      modules .relative none (bareApi schemas) = .ok ms ∧ ∃ m, TransGen (LoadsFirst none ms) m m := by
  let check (name : String) : Schema :=
    .allOf ⟨false, .absent⟩ [.primitive ⟨false, .absent⟩ .string none, .ref ⟨false, .absent⟩ name]
  have hd : Registry.ofDocument (pairOf checkBy) = .ok (pairSchemas check) := rfl
  have hok : (modules .relative none (bareApi (pairSchemas check))).isOk = true := by decide +kernel
  obtain ⟨ms, h⟩ := exists_of_isOk hok
  have hab : (pairSchemas check).NeedsFirst "A" "B" := by decide +kernel
  have hba : (pairSchemas check).NeedsFirst "B" "A" := by decide +kernel
  obtain ⟨b, hb, rfl⟩ := exists_build h
  have hplain : PlainRoot .relative none := by
    intro hstyle
    cases hstyle
  refine ⟨_, _, hd, h, (hb.loadsFirst_cyclic (Registry.wellFormed_of_ofDocument hd) hplain).mpr ⟨"A", ?_⟩⟩
  exact .tail (.single hab) hba

end Package

end ClientForge
