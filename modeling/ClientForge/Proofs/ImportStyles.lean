import ClientForge.Proofs.Assembly

/-!
A package whose modules name each other by the way between them is the same as one whose modules name each other from
the root on, but for these names.
-/

namespace ClientForge

open Outcome

/-- Two imports of one module under one group, in which the module stands for itself or is of the package itself. Then
the first one names it by the way that leads there, the second one by its place below the root. -/
def SameImport (root : String) (folders : List String) (i j : Import) : Prop :=
  i.names = j.names ∧ i.group = j.group ∧
    if i.group = Import.own then
      ∃ place, ModuleName.locate none folders i.source.text = some place ∧
        j.source.text = ".".intercalate (root :: place)
    else i.source = j.source

structure SameModule (root : String) (m m' : Module) : Prop where
  rest : { m with imports := [], deferred := [] } = { m' with imports := [], deferred := [] }
  imports : List.Forall₂ (SameImport root m.path.package) m.imports m'.imports
  deferred : List.Forall₂ (SameImport root m.path.package) m.deferred m'.deferred

def SameOwn (root : String) (folders : List String) (i j : OwnImport) : Prop :=
  i.deferred = j.deferred ∧ i.names = j.names ∧ ∃ place, (∀ s ∈ place, Naming.IsWord s) ∧
    i.source = ModuleNaming.relative.nameOf folders place ∧ j.source = (ModuleNaming.fromRoot root).nameOf folders place

inductive SameTable (root : String) (folders : List String) : ImportTable → ImportTable → Prop
  | mk (symbols libraries : List String) (references : List ModulePath) {own own' : List OwnImport}
      (h : List.Forall₂ (SameOwn root folders) own own') :
      SameTable root folders ⟨.relative, folders, symbols, libraries, own, references⟩
        ⟨.fromRoot root, folders, symbols, libraries, own', references⟩

theorem SameImport.refl {root : String} {folders : List String} {i : Import} (h : i.group ≠ Import.own) :
    SameImport root folders i i :=
  ⟨rfl, rfl, by rw [if_neg h]⟩

theorem addNames_same {root : String} {folders place : List String} {own own' : List OwnImport}
    (h : List.Forall₂ (SameOwn root folders) own own') (hplace : ∀ s ∈ place, Naming.IsWord s) (deferred : Bool)
    (names : List ImportedName) :
    List.Forall₂ (SameOwn root folders)
      (ImportTable.addNames own (ModuleNaming.relative.nameOf folders place) deferred names)
      (ImportTable.addNames own' ((ModuleNaming.fromRoot root).nameOf folders place) deferred names) := by
  induction h with
  | nil => exact .cons ⟨rfl, rfl, place, hplace, rfl, rfl⟩ .nil
  | @cons i j own own' hij hrest ih =>
    -- Either way two names are equal only if they mean the same place, so both tables merge the same imports.
    obtain ⟨hdeferred, hnames, place', hplace', hi, hj⟩ := id hij
    have hsource : i.source = ModuleNaming.relative.nameOf folders place ↔ place' = place := by
      rw [hi]
      exact (ModuleNaming.nameOf_injective _ _).eq_iff
    have hsource' : j.source = (ModuleNaming.fromRoot root).nameOf folders place ↔ place' = place := by
      rw [hj]
      exact (ModuleNaming.nameOf_injective _ _).eq_iff
    unfold ImportTable.addNames
    simp only [hsource, hsource', ← hdeferred]
    split
    · exact .cons ⟨rfl, by rw [hnames], place', hplace', hi, hj⟩ hrest
    · exact .cons hij ih

section Own

variable {root : String} {folders : List String} {own own' : List OwnImport}

theorem SameOwn.sameImport {i j : OwnImport} (h : SameOwn root folders i j) :
    SameImport root folders ⟨i.source, i.names, Import.own⟩ ⟨j.source, j.names, Import.own⟩ := by
  obtain ⟨-, hnames, place, hplace, hi, hj⟩ := h
  refine ⟨hnames, rfl, ?_⟩
  rw [if_pos rfl, hi, hj]
  have hplain : ModuleNaming.relative.IsPlain := trivial
  exact ⟨place, ModuleNaming.locate_nameOf hplain folders hplace, rfl⟩

theorem any_deferred_same (h : List.Forall₂ (SameOwn root folders) own own') :
    own.any (·.deferred) = own'.any (·.deferred) := by
  induction h with
  | nil => rfl
  | cons hij _ ih => rw [List.any_cons, List.any_cons, hij.1, ih]

theorem imports_same (h : List.Forall₂ (SameOwn root folders) own own') (counts : Bool → Bool) :
    List.Forall₂ (SameImport root folders)
      ((own.filter fun i => counts i.deferred).map fun i => ⟨i.source, i.names, Import.own⟩)
      ((own'.filter fun i => counts i.deferred).map fun i => ⟨i.source, i.names, Import.own⟩) := by
  induction h with
  | nil => exact .nil
  | cons hij _ ih =>
    rw [List.filter_cons, List.filter_cons, hij.1]
    split
    · exact .cons hij.sameImport ih
    · exact ih

end Own

theorem sameImports_refl (root : String) (folders : List String) {imports : List Import}
    (h : ∀ i ∈ imports, i.group ≠ Import.own) : List.Forall₂ (SameImport root folders) imports imports :=
  List.forall₂_same.mpr fun i hi => .refl (h i hi)

namespace SameTable

variable {root : String} {folders : List String} {t t' : ImportTable}

theorem start (root : String) (path : ModulePath) :
    SameTable root path.package (.start .relative path) (.start (.fromRoot root) path) :=
  .mk _ _ _ .nil

theorem use (h : SameTable root folders t t') (symbols : List String) :
    SameTable root folders (t.use symbols) (t'.use symbols) := by
  obtain ⟨_, _, _, hown⟩ := h
  exact .mk _ _ _ hown

theorem useLibrary (h : SameTable root folders t t') (name : String) :
    SameTable root folders (t.useLibrary name) (t'.useLibrary name) := by
  obtain ⟨_, _, _, hown⟩ := h
  exact .mk _ _ _ hown

theorem addFrom (h : SameTable root folders t t') {place : List String} (hplace : ∀ s ∈ place, Naming.IsWord s)
    (target : ModulePath) (deferred : Bool) (names : List ImportedName) :
    SameTable root folders (t.addFrom place target deferred names) (t'.addFrom place target deferred names) := by
  obtain ⟨_, _, _, hown⟩ := h
  exact .mk _ _ _ (addNames_same hown hplace deferred names)

theorem takeNames (h : SameTable root folders t t') {target : ModulePath}
    (htarget : ∀ s ∈ target.dotted, Naming.IsWord s) (names : List String) (deferred : Bool) :
    SameTable root folders (t.takeNames target names deferred) (t'.takeNames target names deferred) := by
  unfold ImportTable.takeNames
  split
  · exact h
  · exact h.addFrom htarget _ _ _

theorem takeModule (h : SameTable root folders t t') {target : ModulePath}
    (htarget : ∀ s ∈ target.dotted, Naming.IsWord s) (asName : Option String) :
    SameTable root folders (t.takeModule target asName) (t'.takeModule target asName) :=
  h.addFrom (fun s hs => htarget s (List.dropLast_subset _ hs)) _ _ _

theorem foldl {α β : Type} {R : α → β → Prop} {l : List α} {l' : List β} (hl : List.Forall₂ R l l')
    {step : ImportTable → α → ImportTable} {step' : ImportTable → β → ImportTable}
    (hstep : ∀ t t' a b, SameTable root folders t t' → R a b → SameTable root folders (step t a) (step' t' b))
    (h : SameTable root folders t t') : SameTable root folders (l.foldl step t) (l'.foldl step' t') := by
  induction hl generalizing t t' with
  | nil => exact h
  | cons hab _ ih => exact ih (hstep _ _ _ _ h hab)

theorem foldl_same {α : Type} {l : List α} {step : ImportTable → α → ImportTable}
    (hstep : ∀ a ∈ l, ∀ t t', SameTable root folders t t' → SameTable root folders (step t a) (step t' a))
    (h : SameTable root folders t t') : SameTable root folders (l.foldl step t) (l.foldl step t') := by
  have hl : List.Forall₂ (fun a b => a = b ∧ a ∈ l) l l := List.forall₂_same.mpr fun a ha => ⟨rfl, ha⟩
  apply foldl hl _ h
  rintro t t' a _ ht ⟨rfl, ha⟩
  exact hstep a ha t t' ht

theorem into (h : SameTable root folders t t') {m : Module} (hm : m.path.package = folders) :
    SameModule root (t.into m) (t'.into m) := by
  subst hm
  obtain ⟨symbols, libraries, references, hown⟩ := h
  refine ⟨rfl, ?_, imports_same hown id⟩
  rw [ImportTable.into, ImportTable.into, ImportTable.imports, ImportTable.imports]
  dsimp only
  rw [any_deferred_same hown]
  refine List.rel_append (sameImports_refl _ _ fun i hi => ?_) (imports_same hown not)
  rcases List.mem_append.mp hi with hi | hi
  · obtain ⟨name, -, rfl⟩ := List.mem_map.mp hi
    exact show Import.thirdParty ≠ Import.own by decide
  · exact ImportTable.group_ne_own_of_mem_library hi

end SameTable

theorem SameModule.path_eq {root : String} {m m' : Module} (h : SameModule root m m') : m.path = m'.path := by
  have hpath := congrArg Module.path h.rest
  exact hpath

theorem SameModule.classes_eq {root : String} {m m' : Module} (h : SameModule root m m') :
    m.classes = m'.classes := by
  have hclasses := congrArg Module.classes h.rest
  exact hclasses

namespace Package

variable {root : String} {r : Registry}

theorem schemaModule_alike (hr : r.WellFormed) (reach : String → List String) (e : NamedSchema) :
    Alike (SameModule root) (schemaModule r .relative reach e) (schemaModule r (.fromRoot root) reach e) := by
  apply (Alike.refl (R := Eq) (fun _ => rfl) _).bind
  rintro c _ rfl
  dsimp only
  split
  · rfl
  · refine SameTable.into (SameTable.foldl_same ?_ ((SameTable.start _ _).use _)) rfl
    intro i hi t t' ht
    apply ht.takeNames
    exact dotted_schemaPath_isWord hr (Registry.mem_of_get? (mem_schemaImports.mp hi).2.2.1).1

theorem modelClaims_same {ms ms' : List Module} (h : List.Forall₂ (SameModule root) ms ms') :
    modelClaims ms = modelClaims ms' := by
  induction h with
  | nil => rfl
  | cons hm _ ih =>
    rw [modelClaims, modelClaims] at *
    rw [List.flatMap_cons, List.flatMap_cons, ih, hm.path_eq, hm.classes_eq]

theorem schemasModule_alike {ms ms' : List Module} (h : List.Forall₂ (SameModule root) ms ms')
    (hwords : ∀ m ∈ ms, ∀ s ∈ m.path.dotted, Naming.IsWord s) :
    Alike (SameModule root) (schemasModule .relative ms) (schemasModule (.fromRoot root) ms') := by
  unfold schemasModule
  dsimp only
  rw [modelClaims_same h]
  split
  · rfl
  · refine SameTable.into (SameTable.foldl ((List.forall₂_and_left _ _).mpr ⟨hwords, h⟩) ?_ (SameTable.start _ _)) rfl
    rintro t t' m m' ht ⟨hm, hsame⟩
    rw [← hsame.path_eq, ← hsame.classes_eq]
    exact ht.takeNames hm _ _

theorem children_same {folders : List String} {t t' : ImportTable} (h : SameTable root folders t t')
    (children : List RouteNode) :
    SameTable root folders (children.foldl (fun t c => t.takeModule (routePath c.package) none) t)
      (children.foldl (fun t c => t.takeModule (routePath c.package) none) t') :=
  SameTable.foldl_same (fun c _ _ _ ht => ht.takeModule (isWord_routePath c.parts) none) h

theorem nodeImports_same (path : ModulePath) (n : RouteNode) (p : NodeParts) :
    SameTable root path.package (nodeImports r .relative path n p) (nodeImports r (.fromRoot root) path n p) := by
  have ht := (children_same (SameTable.start root path) (importedChildren n)).use p.symbols
  refine SameTable.takeNames ?_ (isWord_fixedPath schemasIndex (by decide)) _ _
  split
  · exact ht
  · exact (ht.useLibrary "httpx").takeNames (isWord_fixedPath configPath (by decide)) _ _

theorem routeModule_alike (path : ModulePath) (n : RouteNode) :
    Alike (SameModule root) (routeModule r .relative path n) (routeModule r (.fromRoot root) path n) := by
  apply (Alike.refl (R := Eq) (fun _ => rfl) _).bind
  rintro p _ rfl
  dsimp only
  cases Naming.clash (nodeClaims r n p) with
  | some clash => rfl
  | none => exact (nodeImports_same path n p).into rfl

theorem routeModules_alike (n : RouteNode) :
    Alike (List.Forall₂ (SameModule root)) (routeModules r .relative n) (routeModules r (.fromRoot root) n) := by
  apply (Alike.mapM _ fun n _ => routeModule_alike _ n).bind
  intro below below' hbelow
  split
  · exact hbelow
  · apply (routeModule_alike rootOperationsPath n).bind
    intro own own' hown
    exact List.rel_append hbelow (.cons hown .nil)

theorem aliasesModule_same {operations : List Operation} {table : AliasTable}
    (h : Route.aliases operations = .ok table) :
    SameModule root (aliasesModule .relative table) (aliasesModule (.fromRoot root) table) := by
  refine SameTable.into (SameTable.foldl_same ?_ (SameTable.start _ _)) rfl
  rintro ⟨folders, name⟩ hentry t t' ht
  obtain ⟨o, -, rfl⟩ := Route.exists_operation_of_mem_packages h (fst_mem_of_mem_localNames hentry)
  exact ht.takeModule (isWord_functionsPath _) _

theorem routesModule_same (n : RouteNode) (table : AliasTable) :
    SameModule root (routesModule .relative n table) (routesModule (.fromRoot root) n table) := by
  have halias := isWord_fixedPath aliasPath (by decide)
  have ht := children_same (SameTable.start root routesIndex) n.children
  have ht := ht.takeNames (isWord_functionsPath []) (n.operations.map fun o => Route.functionName o.method) false
  exact ((ht.takeModule halias none).takeNames halias _ false).into rfl

theorem indexModule_same (api : Api) (models : List String) :
    SameModule root (indexModule .relative api models) (indexModule (.fromRoot root) api models) := by
  have ht := (SameTable.start root packageIndex).takeNames (isWord_fixedPath configPath (by decide))
    ["SDKConfig", "sdk_config"] false
  have ht := ht.takeNames (isWord_fixedPath schemasIndex (by decide)) models false
  exact (ht.takeModule (isWord_fixedPath routesIndex (by decide)) (some "client")).into rfl

theorem configModule_same (api : Api) : SameModule root (configModule api) (configModule api) :=
  ⟨rfl, sameImports_refl _ _ fun _ hi => ImportTable.group_ne_own_of_mem_library hi, .nil⟩

theorem schemas_alike {api : Api} (hr : api.schemas.WellFormed) :
    Alike (fun x y => List.Forall₂ (SameModule root) x.1 y.1 ∧ SameModule root x.2 y.2) (schemas .relative api)
      (schemas (.fromRoot root) api) := by
  have hmodules : Alike (List.Forall₂ fun m m' => (∀ s ∈ m.path.dotted, Naming.IsWord s) ∧ SameModule root m m')
      (schemaModules api.schemas .relative) (schemaModules api.schemas (.fromRoot root)) := by
    apply Alike.mapM
    intro e he
    apply (schemaModule_alike hr _ e).imp
    intro m m' hm hsame
    rw [path_of_schemaModule hm]
    exact ⟨dotted_schemaPath_isWord hr he, hsame⟩
  apply hmodules.bind
  intro ms ms' hms
  obtain ⟨hwords, hms⟩ := (List.forall₂_and_left _ _).mp hms
  apply (schemasModule_alike hms hwords).bind
  intro gathered gathered' hgathered
  exact ⟨hms, hgathered⟩

theorem paths_same {ms ms' : List Module} (h : List.Forall₂ (SameModule root) ms ms') :
    ms.map (·.path) = ms'.map (·.path) := by
  induction h with
  | nil => rfl
  | cons hm _ ih => rw [List.map_cons, List.map_cons, hm.path_eq, ih]

theorem checked_alike {ms ms' : List Module} (h : List.Forall₂ (SameModule root) ms ms') :
    Alike (List.Forall₂ (SameModule root))
      (match sharedPath? [] (ms.map (·.path)) with
        | some path => throw (.conflict (.pathTwice path.text))
        | none => return ms : Except Failure (List Module))
      (match sharedPath? [] (ms'.map (·.path)) with
        | some path => throw (.conflict (.pathTwice path.text))
        | none => return ms') := by
  rw [paths_same h]
  split
  · rfl
  · exact h

/-- In both styles the same package comes about, or none for the same reason. -/
theorem modules_alike {d : Document} {package : Option String} {api : Api}
    (hd : Registry.ofDocument d = .ok api.schemas) (hroot : root ≠ "") :
    Alike (List.Forall₂ (SameModule root)) (modules .relative package api) (modules .absolute (some root) api) := by
  have hname : (some root).filter (· ≠ "") = some root := by simp [hroot]
  have hnaming : Alike (fun a b => a = .relative ∧ b = .fromRoot root) (moduleNaming .relative package)
      (moduleNaming .absolute (some root)) := by
    unfold moduleNaming
    rw [hname]
    exact ⟨rfl, rfl⟩
  have hroutes : Alike (fun a b => a = b ∧ Route.aliases api.operations = .ok a.2) (routes api) (routes api) := by
    apply (Alike.refl (R := fun a b => a = b) (fun _ => rfl) (routes api)).imp
    intro a b ha hab
    obtain ⟨n, -, ha⟩ := bind_eq_ok.mp ha
    obtain ⟨table, htable, ha⟩ := bind_eq_ok.mp ha
    cases pure_eq_ok.mp ha
    exact ⟨hab, htable⟩
  unfold modules
  apply hnaming.bind
  rintro _ _ ⟨rfl, rfl⟩
  apply hroutes.bind
  rintro ⟨n, table⟩ _ ⟨rfl, htable⟩
  apply (schemas_alike (Registry.wellFormed_of_ofDocument hd)).bind
  rintro ⟨ofSchemas, gathered⟩ ⟨ofSchemas', gathered'⟩ ⟨hschemas, hgathered⟩
  apply (routeModules_alike n).bind
  intro ofRoutes ofRoutes' hofRoutes
  have hexports : gathered.exports = gathered'.exports := by
    have hexports := congrArg Module.exports hgathered.rest
    exact hexports
  have hlast : List.Forall₂ (SameModule root)
      [aliasesModule .relative table, routesModule .relative n table,
        indexModule .relative api (gathered.exports.getD [])]
      [aliasesModule (.fromRoot root) table, routesModule (.fromRoot root) n table,
        indexModule (.fromRoot root) api (gathered.exports.getD [])] :=
    .cons (aliasesModule_same htable) (.cons (routesModule_same n table) (.cons (indexModule_same api _) .nil))
  dsimp only
  rw [← hexports]
  apply checked_alike
  exact .cons (configModule_same api)
    (List.rel_append (List.rel_append (List.rel_append hschemas (.cons hgathered .nil)) hofRoutes) hlast)

theorem modules_alike_tree :
    ∃ (api : Api) (ms ms' : List Module), modules .relative none api = .ok ms ∧
      modules .absolute (some "sdk.client") api = .ok ms' ∧ List.Forall₂ (SameModule "sdk.client") ms ms' := by
  let tree : Document := .map [(.text "Tree", .map [(.text "type", .text "array"),
    (.text "items", .map [(.text "$ref", .text "#/components/schemas/Tree")])])]
  let schemas : Registry := ⟨[⟨"Tree", "Tree", "tree", .array ⟨false, .absent⟩ (.ref ⟨false, .absent⟩ "Tree")⟩]⟩
  let api : Api := { bareApi schemas with operations := [.bare .get "/trees/{id}/" (some "readTree")] }
  have hd : Registry.ofDocument tree = .ok api.schemas := rfl
  have hok : (modules .relative none api).isOk = true := by decide +kernel
  have hok' : (modules .absolute (some "sdk.client") api).isOk = true := by decide +kernel
  obtain ⟨ms, h⟩ := exists_of_isOk hok
  obtain ⟨ms', h'⟩ := exists_of_isOk hok'
  have halike := @modules_alike "sdk.client" _ none _ hd (by decide)
  rw [h, h'] at halike
  exact ⟨api, ms, ms', h, h', halike⟩

end Package

end ClientForge
