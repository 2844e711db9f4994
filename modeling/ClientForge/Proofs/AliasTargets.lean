import ClientForge.Proofs.AliasTables
import ClientForge.Proofs.Endpoints

/-!
Every alias leads to the request function of its own operation, and the package of routes passes on those whose names
are free there.
-/

namespace ClientForge

open Outcome

theorem filter_map_eq_singleton {α β : Type} [DecidableEq β] {l : List α} {f : α → β} (h : (l.map f).Nodup) {a : α}
    (ha : a ∈ l) : l.filter (f · = f a) = [a] := by
  induction l with
  | nil => cases ha
  | cons b l ih =>
    rw [List.map_cons, List.nodup_cons] at h
    by_cases hb : f b = f a
    · have hrest : l.filter (f · = f a) = [] := by
        rw [List.filter_eq_nil_iff]
        intro c hc hfc
        exact h.1 (hb ▸ of_decide_eq_true hfc ▸ List.mem_map_of_mem hc)
      rcases List.mem_cons.mp ha with rfl | ha
      · rw [List.filter_cons_of_pos (by simp), hrest]
      · exact absurd (hb ▸ List.mem_map_of_mem ha) h.1
    · rw [List.filter_cons_of_neg (by simpa using hb)]
      refine ih h.2 ((List.mem_cons.mp ha).resolve_left ?_)
      rintro rfl
      exact hb rfl

/-- A written name is that of the place in the given style: the way to it from the folders of a module, or the name of
the package in front of it. -/
def ImportStyle.Calls (style : ImportStyle) (package : Option String) (folders : List String) (source : ModuleName)
    (place : List String) : Prop :=
  match style with
  | .relative => ModuleName.locate none folders source.text = some place
  | .absolute => source.text = ".".intercalate (package.getD "" :: place)

theorem ImportStyle.calls_nameOf {style : ImportStyle} {package : Option String} {naming : ModuleNaming}
    (h : Package.moduleNaming style package = .ok naming) (folders : List String) {target place : List String}
    (htarget : ∀ s ∈ target, Naming.IsWord s) (hplace : ∀ s ∈ place, Naming.IsWord s) :
    style.Calls package folders (naming.nameOf folders target) place ↔ target = place := by
  unfold Package.moduleNaming at h
  split at h
  · cases h
    have hlocate := ModuleNaming.locate_nameOf (show ModuleNaming.relative.IsPlain from trivial) folders htarget
    rw [ModuleNaming.root?] at hlocate
    rw [Calls, hlocate, Option.some_inj]
  · rename_i name hname
    cases h
    rw [(Option.filter_eq_some_iff.mp hname).1]
    constructor
    · intro htext
      have hpieces := congrArg (String.pieces · '.') htext
      dsimp only [ModuleNaming.nameOf, ModuleName.text, Option.getD_some] at hpieces
      rw [ModuleName.pieces_intercalate_cons name htarget, ModuleName.pieces_intercalate_cons name hplace] at hpieces
      exact List.append_cancel_left hpieces
    · rintro rfl
      rfl
  · cases h

namespace ImportTable

@[simp] theorem naming_takeModule (t : ImportTable) (target : ModulePath) (asName : Option String) :
    (t.takeModule target asName).naming = t.naming := rfl

@[simp] theorem package_takeModule (t : ImportTable) (target : ModulePath) (asName : Option String) :
    (t.takeModule target asName).package = t.package := rfl

variable {α : Type} (items : List α) (target : α → ModulePath) (asName : α → Option String) (t : ImportTable)

@[simp] theorem naming_foldl_takeModule :
    (items.foldl (fun t a => t.takeModule (target a) (asName a)) t).naming = t.naming :=
  foldl_unchanged (fun t _ => naming_takeModule t _ _) items t

@[simp] theorem package_foldl_takeModule :
    (items.foldl (fun t a => t.takeModule (target a) (asName a)) t).package = t.package :=
  foldl_unchanged (fun t _ => package_takeModule t _ _) items t

end ImportTable

namespace Request

theorem operationId_of_define {r : Registry} {o : Operation} {f : OperationDef} {needs : Needs}
    (h : define r o = .ok (f, needs)) : f.operationId = o.operationId := by
  obtain ⟨_, -, h⟩ := bind_eq_ok.mp h
  obtain ⟨_, -, h⟩ := bind_eq_ok.mp h
  obtain ⟨_, -, h⟩ := bind_eq_ok.mp h
  exact congrArg (·.1.operationId) (pure_eq_ok.mp h).symm

end Request

namespace Package

structure IsFunctionOf (r : Registry) (ms : List Module) (m : Module) (f : OperationDef) (o : Operation) : Prop where
  module_mem : m ∈ ms
  mem : f ∈ m.operations
  defined : ∃ needs, Request.define r o = .ok (f, needs)
  only : ∀ m' ∈ ms, ∀ f' ∈ m'.operations, f'.operationId = o.operationId → m' = m ∧ f' = f

/-- In the module `aliases` the alias `symbol` is the function `f` of the module `m`, which is imported there as `name`.
Nothing else has this name there. -/
structure Reaches (style : ImportStyle) (package : Option String) (aliases : Module) (symbol name : String)
    (m : Module) (f : OperationDef) : Prop where
  exported : (aliases.exports.getD []).count symbol = 1
  assigned : aliases.assigns.filter (·.target = symbol) = [⟨symbol, name ++ "." ++ f.name⟩]
  free : name ∉ aliases.exports.getD []
  bound : (aliases.imports.flatMap Import.bound).count name = 1
  imported : ∃ source folder n, style.Calls package aliases.path.package source folder ∧
    aliases.Takes false source n ∧ n.bound = name ∧ m.path.dotted = folder ++ [n.name]

section Build

variable {style : ImportStyle} {package : Option String} {api : Api} {b : Build}

theorem Build.IsOf.exists_function (hb : b.IsOf style package api) {o : Operation} (ho : o ∈ api.operations)
    {id : String} (hid : Route.idOf? o = some id) :
    ∃ m f, m.path = operationPlace o ∧ IsFunctionOf api.schemas (b.modules api) m f o := by
  obtain ⟨n, hn, -, hplace⟩ := hb.exists_node ho
  obtain ⟨m, hm, hmade⟩ := exists_right_of_mem hb.routeModules hn
  have hpath := path_of_routeModule hmade
  obtain ⟨p, hp, -, hm_eq⟩ := routeModule_eq_ok hmade
  have hmem : o ∈ n.operations := by
    rw [hb.operations_eq hn]
    exact List.mem_filter.mpr ⟨ho, decide_eq_true hplace.symm⟩
  obtain ⟨⟨f, needs⟩, hf, hdefine⟩ := exists_right_of_mem (nodeParts_eq_ok hp) hmem
  refine ⟨m, f, hpath.trans hplace, b.ofRoutes_subset api hm, ?_, ⟨needs, hdefine⟩, ?_⟩
  · rw [hm_eq]
    exact List.mem_map_of_mem hf
  · intro m' hm' f' hf' hsame
    have hroutes : m' ∈ b.ofRoutes := by
      by_contra hroutes
      rw [hb.operations_nil hm' hroutes] at hf'
      cases hf'
    obtain ⟨n', hn', hmade'⟩ := exists_left_of_mem hb.routeModules hroutes
    have hpath' := path_of_routeModule hmade'
    obtain ⟨p', hp', -, rfl⟩ := routeModule_eq_ok hmade'
    obtain ⟨⟨_, needs'⟩, hd, rfl⟩ := List.mem_map.mp hf'
    obtain ⟨o', ho', hdefine'⟩ := exists_left_of_mem (nodeParts_eq_ok hp') hd
    rw [hb.operations_eq hn', List.mem_filter, decide_eq_true_eq] at ho'
    obtain ⟨ho', hplace'⟩ := ho'
    -- No two operations share an id, so that both functions are made of one operation.
    have hid' : Route.idOf? o' = some id := by
      rw [← hid, Route.idOf?, Route.idOf?, ← Request.operationId_of_define hdefine', hsame]
    obtain rfl := Route.eq_of_idOf? hb.table ho' ho hid' hid
    rw [hdefine] at hdefine'
    cases hdefine'
    refine ⟨List.inj_on_of_nodup_map hb.paths hm' (b.ofRoutes_subset api hm) ?_, rfl⟩
    rw [hpath', hpath, ← hplace', hplace]

theorem AliasTable.assigned {operations : List Operation} {table : AliasTable}
    (h : Route.aliases operations = .ok table) {e : AliasEntry} (he : e ∈ table.entries)
    (names : List (List String × String)) :
    (table.entries.map (aliasAssign names)).filter (·.target = e.symbol) = [aliasAssign names e] := by
  have hfilter := filter_map_eq_singleton (Route.entries_of_aliases h).2.2 he
  rw [List.filter_map, ← List.map_singleton, ← hfilter]
  rfl

theorem Build.IsOf.reaches (hb : b.IsOf style package api) {o : Operation} (ho : o ∈ api.operations) {id : String}
    (hid : Route.idOf? o = some id) {m : Module} (hm : m.path = operationPlace o) {f : OperationDef}
    (hf : f.name = Route.functionName o.method) :
    ∃ name, Reaches style package (aliasesModule b.naming b.table) (Naming.identifier id) name m f := by
  have hentry := Route.aliasOf_mem_entries hb.table ho hid
  have hsymbols := (Route.entries_of_aliases hb.table).2.2
  have hpackage : Route.packageOf o.path ∈ b.table.packages := by
    rw [AliasTable.packages, List.mem_eraseDups]
    exact List.mem_map_of_mem hentry
  have hsymbol := List.mem_map_of_mem (f := AliasEntry.symbol) hentry
  have hnames := nodup_localNames hsymbols b.table.packages
  obtain ⟨name, hname, hlookup⟩ := exists_localName b.table.symbols hpackage
  have hmem : name ∈ (localNames b.table.symbols b.table.packages).map (·.2) := List.mem_map_of_mem hname
  refine ⟨name, ?_, ?_, ?_, ?_, ?_⟩
  · exact List.count_eq_one_of_mem hsymbols hsymbol
  · have hassigned := AliasTable.assigned hb.table hentry (localNames b.table.symbols b.table.packages)
    rw [aliasAssign, Route.aliasOf, hlookup, Option.getD_some, ← hf] at hassigned
    exact hassigned
  · exact fun hmem' => List.disjoint_of_nodup_append hnames hmem' hmem
  · have hbound := ImportTable.bound_foldl_takeModule (ImportTable.start b.naming aliasPath)
      (localNames b.table.symbols b.table.packages) (fun item => functionsPath item.1) (·.2)
      hnames.of_append_right (fun i hi => by cases hi) rfl rfl
    rw [aliasesModule]
    exact (hbound.count_eq name).trans (List.count_eq_one_of_mem hnames.of_append_right hmem)
  · obtain ⟨n, hn, -, hplace⟩ := hb.exists_node ho
    obtain ⟨folder, last, hdotted, -⟩ := hb.exists_folder (mem_postOrder_of_mem_functionNodes hn)
    rw [hplace] at hdotted
    have hwords := isWord_functionsPath (Route.segments o.path)
    change ∀ s ∈ (operationPlace o).dotted, Naming.IsWord s at hwords
    rw [hdotted] at hwords
    have hfolder : ∀ s ∈ folder, Naming.IsWord s := fun s hs => hwords s (List.mem_append_left _ hs)
    refine ⟨b.naming.nameOf ["routes"] folder, folder, ImportTable.moduleName (operationPlace o) (some name), ?_, ?_,
      ImportTable.bound_moduleName _ _, ?_⟩
    · exact (ImportStyle.calls_nameOf hb.naming _ hfolder hfolder).mpr rfl
    · rw [aliasesModule, ImportTable.takes_into, ImportTable.has_foldl_takeModule]
      refine .inr ⟨_, hname, ?_, rfl, rfl⟩
      change _ = b.naming.nameOf ["routes"] (operationPlace o).dotted.dropLast
      rw [hdotted, List.dropLast_concat]
    · rw [hm, ImportTable.moduleName, hdotted, List.getLast?_concat, Option.getD_some]

def symbolsBeside (root : RouteNode) (symbols : List String) : List String :=
  symbols.filter fun s => s ≠ Route.aliasModule ∧ s ∉ root.exports

theorem freeAliases_symbols (root : RouteNode) (table : AliasTable) :
    (freeAliases root table).map (·.symbol) = symbolsBeside root table.symbols := by
  rw [freeAliases, symbolsBeside, AliasTable.symbols, List.filter_map]
  apply congrArg
  apply List.filter_congr
  intro e _
  rw [Bool.eq_iff_iff]
  simp [and_comm]

theorem Build.IsOf.takes_routesModule (hb : b.IsOf style package api) (n : ImportedName) :
    (∃ source, style.Calls package ["routes"] source aliasPath.dotted ∧
        (routesModule b.naming b.root b.table).Takes false source n) ↔
      n.asName = none ∧ n.name ∈ symbolsBeside b.root b.table.symbols := by
  have halias := isWord_fixedPath aliasPath (by decide)
  have hcalls {target : List String} (htarget : ∀ s ∈ target, Naming.IsWord s) :
      style.Calls package ["routes"] (b.naming.nameOf ["routes"] target) aliasPath.dotted ↔ target = aliasPath.dotted :=
    ImportStyle.calls_nameOf hb.naming _ htarget halias
  have hindex : ¬style.Calls package ["routes"] (b.naming.nameOf ["routes"] ["routes"]) aliasPath.dotted := by
    rw [hcalls (by simpa using isWord_routes)]
    decide +kernel
  have hroot : ¬style.Calls package ["routes"] (b.naming.nameOf ["routes"] rootOperationsPath.dotted)
      aliasPath.dotted := by
    rw [hcalls (by decide +kernel)]
    decide +kernel
  rw [← freeAliases_symbols]
  simp only [routesModule, ImportTable.takes_into, ImportTable.has_takeNames, ImportTable.has_takeModule,
    ImportTable.naming_takeNames, ImportTable.package_takeNames, ImportTable.naming_takeModule,
    ImportTable.package_takeModule, ImportTable.naming_foldl_takeModule, ImportTable.package_foldl_takeModule,
    ImportTable.has_foldl_takeModule, ImportTable.has_start, false_or, true_and]
  constructor
  · rintro ⟨source, hsource, ((⟨c, hc, rfl, -⟩ | ⟨rfl, -⟩) | ⟨rfl, -⟩) | ⟨rfl, hn⟩⟩
    · obtain ⟨-, segment, hparts⟩ := Route.child_of_mem_tree hb.root b.root.self_mem_postOrder hc
      have hfolder : (routePath c.package).dotted.dropLast = ["routes"] := by
        rw [routePath, ModulePath.dotted_index, Route.package_child hparts, RouteNode.package,
          Route.parts_of_tree hb.root]
        rfl
      rw [hfolder] at hsource
      exact absurd hsource hindex
    · exact absurd hsource hroot
    · exact absurd hsource hindex
    · exact hn
  · intro hn
    exact ⟨_, (hcalls halias).mpr rfl, .inr ⟨rfl, hn⟩⟩

end Build

/-- Each operation with an id has an alias that leads to its function, and the package of the routes passes on the
aliases that are named otherwise than what stands there already. -/
theorem aliases_reach {style : ImportStyle} {package : Option String} {api : Api} {ms : List Module}
    (h : modules style package api = .ok ms) :
    ∃ root aliases routes, Route.tree api.operations = .ok root ∧ (ms.map (·.path)).Nodup ∧
      aliases ∈ ms ∧ aliases.path = aliasPath ∧ routes ∈ ms ∧ routes.path = routesIndex ∧
      aliases.exports = some ((api.operations.filterMap Route.idOf?).map Naming.identifier) ∧
      (∀ o ∈ api.operations, ∀ id, o.operationId = some id → id ≠ "" → ∃ m f name,
        IsFunctionOf api.schemas ms m f o ∧ Reaches style package aliases (Naming.identifier id) name m f) ∧
      (∀ n, (∃ source, style.Calls package routes.path.package source aliases.path.dotted ∧
          routes.Takes false source n) ↔
        n.asName = none ∧ n.name ∈ aliases.exports.getD [] ∧ n.name ≠ "alias" ∧ n.name ∉ root.exports) ∧
      routes.exports = some (root.exports ++ "alias" ::
        (aliases.exports.getD []).filter fun s => s ≠ "alias" ∧ s ∉ root.exports) := by
  obtain ⟨b, hb, rfl⟩ := exists_build h
  refine ⟨b.root, aliasesModule b.naming b.table, routesModule b.naming b.root b.table, hb.root, hb.paths,
    Build.mem_modules.mpr (by simp), rfl, Build.mem_modules.mpr (by simp), rfl, ?_, ?_, ?_, ?_⟩
  · rw [← Route.symbols_of_aliases hb.table]
    rfl
  · intro o ho id hid hne
    have hid : Route.idOf? o = some id := by
      rw [Route.idOf?, hid, Option.filter_some, if_pos (decide_eq_true hne)]
    obtain ⟨m, f, hpath, hf⟩ := hb.exists_function ho hid
    obtain ⟨needs, hdefine⟩ := hf.defined
    obtain ⟨name, hname⟩ := hb.reaches ho hid hpath (Request.define_eq_ok hdefine).1
    exact ⟨m, f, name, hf, hname⟩
  · intro n
    refine (hb.takes_routesModule n).trans ?_
    rw [symbolsBeside, List.mem_filter, decide_eq_true_eq]
    rfl
  · change some (b.root.exports ++ Route.aliasModule :: (freeAliases b.root b.table).map (·.symbol)) = _
    rw [freeAliases_symbols]
    rfl

def aliasedApi : Api :=
  { bareApi .empty with
    operations := [.bare .get "/pets/\x7bid\x7d" (some "readPet"), .bare .get "/pets__by_id" (some "_pets__by_id"),
      .bare .get "/" (some "alias"), .bare .post "/" none] }

theorem aliases_reach_joined :
    ∃ ms aliases m f name, modules .absolute (some "sdk") aliasedApi = .ok ms ∧ aliases ∈ ms ∧
      IsFunctionOf .empty ms m f (.bare .get "/pets/\x7bid\x7d" (some "readPet")) ∧
      Reaches .absolute (some "sdk") aliases (Naming.identifier "readPet") name m f := by
  have hok : (modules .absolute (some "sdk") aliasedApi).isOk = true := by decide +kernel
  obtain ⟨ms, h⟩ := exists_of_isOk hok
  obtain ⟨root, aliases, routes, -, -, haliases, -, -, -, -, hreach, -⟩ := aliases_reach h
  obtain ⟨m, f, name, hf, hname⟩ := hreach _ List.mem_cons_self "readPet" rfl (by decide)
  exact ⟨ms, aliases, m, f, name, h, haliases, hf, hname⟩

end Package

end ClientForge
