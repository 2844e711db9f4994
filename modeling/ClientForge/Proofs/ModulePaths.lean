import ClientForge.Package.Writing
import ClientForge.Proofs.Failures
import ClientForge.Proofs.ClassNames
import ClientForge.Proofs.ImportTargets

/-!
The paths of modules: identifiers all along, no two of them alike, and each in the directory of the package.
-/

namespace ClientForge

open Outcome

namespace Naming

structure IsIdentifier (s : String) : Prop where
  isWord : IsWord s
  head : ∀ c ∈ s.toList.head?, c.isDigit = false

instance (s : String) : Decidable (IsIdentifier s) :=
  decidable_of_iff (IsWord s ∧ (s.toList.head?.all fun c => !c.isDigit) = true) <| by
    rw [Option.all_eq_true]
    exact ⟨fun h => ⟨h.1, fun c hc => by simpa using h.2 c hc⟩, fun h => ⟨h.1, fun c hc => by simpa using h.2 c hc⟩⟩

theorem IsIdentifier.append {s t : String} (hs : IsIdentifier s) (ht : ∀ c ∈ t.toList, isWordChar c = true) :
    IsIdentifier (s ++ t) := by
  refine ⟨hs.isWord.append ht, ?_⟩
  rw [String.toList_append, List.head?_append_of_ne_nil _ (by simpa using hs.isWord.1)]
  exact hs.head

theorem IsIdentifier.notMem {s : String} (hs : IsIdentifier s) {c : Char} (hc : isWordChar c = false) :
    c ∉ s.toList :=
  hs.isWord.notMem hc

theorem head?_guardDigit (s : List Char) : ∀ c ∈ (guardDigit s).head?, c.isDigit = false := by
  cases s with
  | nil => simp [guardDigit]
  | cons c s =>
    rw [guardDigit]
    split
    · simp
    · rename_i hc
      simpa using hc

theorem identifier_isIdentifier (name : String) : IsIdentifier (identifier name) := by
  refine ⟨identifier_isWord name, ?_⟩
  rw [identifier, String.toList_ofList, identifierChars, guardKeyword]
  split
  · rw [List.head?_append_of_ne_nil _ (guardDigit_ne_nil _)]
    exact head?_guardDigit _
  · exact head?_guardDigit _

theorem moduleName_isIdentifier (symbol : String) : IsIdentifier (moduleName symbol) := identifier_isIdentifier _

theorem classSymbol_isIdentifier (name : String) : IsIdentifier (classSymbol name) := by
  obtain ⟨k, hk⟩ := toList_free "Model" reservedSymbols (identifier name)
  have heq : classSymbol name = identifier name ++ String.ofList (List.replicate k "Model".toList).flatten := by
    apply String.toList_injective
    rw [classSymbol, hk, String.toList_append]
    exact congrArg _ String.toList_ofList.symm
  rw [heq]
  apply (identifier_isIdentifier name).append
  intro c hc
  rw [String.toList_ofList, List.mem_flatten] at hc
  obtain ⟨word, hword, hc⟩ := hc
  rw [List.eq_of_mem_replicate hword] at hc
  exact (by decide : IsIdentifier "Model").isWord.2 c hc

theorem segmentSymbol_isIdentifier (segment : String) : IsIdentifier (segmentSymbol segment) := by
  unfold segmentSymbol
  split
  · apply IsIdentifier.append (by decide)
    intro c hc
    rw [dropUnderscores, String.toList_ofList] at hc
    exact (identifier_isWord _).2 c (List.dropWhile_subset _ hc)
  · exact identifier_isIdentifier segment

theorem unique_isIdentifier {name : String} (h : IsIdentifier name) (taken : List String) :
    IsIdentifier (unique name taken "_") := by
  rcases unique_eq name taken "_" with heq | ⟨k, heq⟩
  · rwa [heq]
  · rw [heq]
    have hmark : IsIdentifier (name ++ "_") := h.append (List.all_eq_true.mp (by decide))
    exact hmark.append fun c hc => isWordChar_of_mem_toString hc

theorem module_isIdentifier (symbol : String) (taken : List String) :
    IsIdentifier (unique (moduleName symbol) taken "_") :=
  unique_isIdentifier (moduleName_isIdentifier symbol) taken

end Naming

open Naming

namespace Registry

theorem modules_areIdentifiers {d : Document} {r : Registry} (h : ofDocument d = .ok r) :
    ∀ e ∈ r.entries, IsIdentifier e.module :=
  forall_entries h fun _ _ _ _ _ _ => module_isIdentifier _ _

theorem symbols_areIdentifiers {d : Document} {r : Registry} (h : ofDocument d = .ok r) :
    ∀ e ∈ r.entries, IsIdentifier e.symbol :=
  forall_entries h fun name _ _ symbols _ _ => unique_isIdentifier (classSymbol_isIdentifier name) symbols

end Registry

namespace Route

theorem package_isIdentifier (parts : List String) : ∀ s ∈ package parts, IsIdentifier s := by
  intro s hs
  obtain ⟨segment, -, rfl⟩ := List.mem_map.mp hs
  exact segmentSymbol_isIdentifier segment

theorem postOrders_eq_flatMap (ns : List RouteNode) : RouteNode.postOrders ns = ns.flatMap RouteNode.postOrder := by
  induction ns with
  | nil => rfl
  | cons n ns ih => rw [RouteNode.postOrders, List.flatMap_cons, ih]

theorem postOrder_eq (n : RouteNode) : n.postOrder = n.children.flatMap RouteNode.postOrder ++ [n] := by
  cases n with
  | mk parts operations children exports =>
    rw [RouteNode.postOrder, postOrders_eq_flatMap]
    rfl

section Nodes

variable {operations : List Operation} {all : List (List String)} {fuel : ℕ} {parts : List String} {n : RouteNode}

theorem prefix_parts (h : nodeAt operations all fuel parts = .ok n) :
    ∀ m ∈ n.postOrder, parts <+: m.parts := by
  induction fuel generalizing parts n with
  | zero =>
    obtain ⟨hparts, -, hchildren, -⟩ := makeNode_eq_ok h
    rw [postOrder_eq, hchildren]
    intro m hm
    obtain rfl := List.mem_singleton.mp hm
    exact hparts ▸ List.prefix_rfl
  | succ fuel ih =>
    intro m hm
    rcases (RouteNode.mem_postOrder m n).mp hm with rfl | ⟨c, hc, hm⟩
    · exact parts_of_nodeAt h ▸ List.prefix_rfl
    · obtain ⟨q, hq, hmade⟩ := exists_left_of_mem (nodeAt_succ h).1 hc
      obtain ⟨-, segment, rfl⟩ := mem_childrenOf.mp hq
      exact (List.prefix_append _ _).trans (ih hmade m hm)

theorem prefix_package (h : nodeAt operations all fuel parts = .ok n) :
    ∀ m ∈ n.postOrder, n.package <+: m.package := by
  intro m hm
  rw [RouteNode.package, RouteNode.package, parts_of_nodeAt h]
  exact (prefix_parts h m hm).map _

theorem nodup_packages (h : nodeAt operations all fuel parts = .ok n) :
    (n.postOrder.map RouteNode.package).Nodup := by
  -- Below different children the packages begin with different symbols, below one child the induction tells.
  induction fuel generalizing parts n with
  | zero =>
    obtain ⟨-, -, hchildren, -⟩ := makeNode_eq_ok h
    rw [postOrder_eq, hchildren]
    exact List.nodup_singleton _
  | succ fuel ih =>
    obtain ⟨hchildren, hmade⟩ := nodeAt_succ h
    obtain ⟨-, -, -, hexports, hnodup, -⟩ := makeNode_eq_ok hmade
    have hchild : ∀ c ∈ n.children, (∃ q, nodeAt operations all fuel q = .ok c) ∧
        c.package = n.package ++ [c.symbol] := by
      intro c hc
      obtain ⟨q, hq, hc⟩ := exists_left_of_mem hchildren hc
      obtain ⟨-, segment, rfl⟩ := mem_childrenOf.mp hq
      have hparts : c.parts = n.parts ++ [segment] := by rw [parts_of_nodeAt hc, parts_of_nodeAt h]
      exact ⟨⟨_, hc⟩, package_child hparts⟩
    have hbelow : ∀ c ∈ n.children, ∀ m ∈ c.postOrder, n.package ++ [c.symbol] <+: m.package := by
      intro c hc m hm
      obtain ⟨⟨q, hq⟩, hpackage⟩ := hchild c hc
      rw [← hpackage]
      exact prefix_package hq m hm
    have hsymbols : (n.children.map RouteNode.symbol).Nodup := by
      rw [hexports, exportClaims, List.map_append, List.map_map, List.map_map] at hnodup
      exact hnodup.of_append_right
    rw [postOrder_eq, List.map_append, List.map_singleton, List.map_flatMap, List.nodup_append]
    refine ⟨List.nodup_flatMap.mpr ⟨?_, ?_⟩, List.nodup_singleton _, ?_⟩
    · intro c hc
      obtain ⟨⟨q, hq⟩, -⟩ := hchild c hc
      exact ih hq
    · rw [List.Nodup, List.pairwise_map] at hsymbols
      apply hsymbols.imp_of_mem
      intro a b ha hb hne package hpa hpb
      obtain ⟨m, hm, rfl⟩ := List.mem_map.mp hpa
      obtain ⟨m', hm', heq⟩ := List.mem_map.mp hpb
      have hboth := List.prefix_of_prefix_length_le (hbelow a ha m hm) (heq ▸ hbelow b hb m' hm') (by simp)
      have hsame := hboth.eq_of_length (by simp)
      exact hne (List.singleton_inj.mp (List.append_cancel_left hsame))
    · intro package hbelow' own hown heq
      obtain ⟨c, hc, hpackage⟩ := List.mem_flatMap.mp hbelow'
      obtain ⟨m, hm, rfl⟩ := List.mem_map.mp hpackage
      have hlength := (hbelow c hc m hm).length_le
      rw [heq, List.mem_singleton.mp hown, List.length_append, List.length_singleton] at hlength
      omega

end Nodes

end Route

namespace ModulePath

theorem inFolders_inj {folders folders' : List String} {module module' : String} :
    inFolders folders module = inFolders folders' module' ↔ folders = folders' ∧ module = module' := by
  constructor
  · intro h
    obtain ⟨hfolders, hlast⟩ := List.append_inj' h rfl
    exact ⟨hfolders, String.append_left_inj ".py" |>.mp (List.singleton_inj.mp hlast)⟩
  · rintro ⟨rfl, rfl⟩
    rfl

theorem pieces_intercalate_slash {names : List String} (hne : names ≠ []) (h : ∀ s ∈ names, '/' ∉ s.toList) :
    ("/".intercalate names).pieces '/' = names := by
  induction names with
  | nil => exact absurd rfl hne
  | cons name names ih =>
    obtain ⟨hname, hnames⟩ := List.forall_mem_cons.mp h
    have hone : Text.pieces '/' name.toList = [name.toList] := Text.pieces_of_notMem hname
    cases names with
    | nil => simp [String.pieces, hone]
    | cons name' names =>
      have hslash : "/".toList = ['/'] := rfl
      rw [String.intercalate_cons_cons, String.pieces, String.toList_append, String.toList_append, hslash,
        List.append_assoc, List.singleton_append, Text.pieces_append, List.map_append, hone, List.map_singleton,
        String.ofList_toList]
      exact congrArg _ (ih (List.cons_ne_nil _ _) hnames)

theorem mem_text {p : ModulePath} {c : Char} (h : c ∈ p.text.toList) : c = '/' ∨ ∃ s ∈ p, c ∈ s.toList := by
  induction p with
  | nil => simp [text] at h
  | cons name p ih =>
    cases p with
    | nil => exact .inr ⟨name, List.mem_cons_self, by simpa [text] using h⟩
    | cons name' p =>
      rw [text, String.intercalate_cons_cons, String.toList_append, String.toList_append, List.mem_append,
        List.mem_append] at h
      rcases h with (h | h) | h
      · exact .inr ⟨name, List.mem_cons_self, h⟩
      · exact .inl (List.mem_singleton.mp h)
      · exact (ih h).imp_right fun ⟨s, hs, hc⟩ => ⟨s, List.mem_cons_of_mem _ hs, hc⟩

def IsPlain (p : ModulePath) : Prop :=
  ∃ folders module, p = inFolders folders module ∧ (∀ s ∈ folders, IsIdentifier s) ∧ IsIdentifier module

theorem isPlain_index (folders : List String) (h : ∀ s ∈ folders, IsIdentifier s) : IsPlain (index folders) :=
  ⟨folders, "__init__", rfl, h, by decide⟩

namespace IsPlain

variable {p q : ModulePath}

theorem ne_nil (h : p.IsPlain) : p ≠ [] := by
  obtain ⟨folders, module, rfl, -⟩ := h
  exact List.append_ne_nil_of_right_ne_nil _ (List.cons_ne_nil _ _)

theorem name_ne (h : p.IsPlain) : ∀ s ∈ p, s ≠ "" ∧ s ≠ "." ∧ s ≠ ".." := by
  obtain ⟨folders, module, rfl, hfolders, hmodule⟩ := h
  intro s hs
  rcases List.mem_append.mp hs with hs | hs
  · have hnone {t : String} (ht : ¬IsIdentifier t) : s ≠ t := fun heq => ht (heq ▸ hfolders s hs)
    exact ⟨hnone (by decide), hnone (by decide), hnone (by decide)⟩
  · have hlength : 3 < s.length := by
      have hpos : 0 < module.length := by
        rw [← String.length_toList]
        exact List.length_pos_iff.mpr (by simpa using hmodule.isWord.1)
      have hending : ".py".length = 3 := rfl
      rw [List.mem_singleton.mp hs, String.length_append, hending]
      omega
    have hnone {t : String} (ht : t.length ≤ 3) : s ≠ t := by
      rintro rfl
      omega
    exact ⟨hnone (by decide), hnone (by decide), hnone (by decide)⟩

theorem notMem (h : p.IsPlain) {c : Char} (hc : isWordChar c = false) (hending : c ∉ ".py".toList) :
    ∀ s ∈ p, c ∉ s.toList := by
  obtain ⟨folders, module, rfl, hfolders, hmodule⟩ := h
  intro s hs
  rcases List.mem_append.mp hs with hs | hs
  · exact (hfolders s hs).notMem hc
  · rw [List.mem_singleton.mp hs, String.toList_append, List.mem_append, not_or]
    exact ⟨hmodule.notMem hc, hending⟩

theorem ofText_text (h : p.IsPlain) : ofText p.text = p :=
  pieces_intercalate_slash h.ne_nil (h.notMem (by decide) (by decide))

theorem text_relative (h : p.IsPlain) : Path.isAbsolute p.text = false := by
  have hpieces := h.ofText_text
  unfold Path.isAbsolute
  rw [decide_eq_false_iff_not]
  intro hhead
  obtain ⟨rest, hrest⟩ := List.head?_eq_some_iff.mp hhead
  -- A slash in front would leave an empty name before it.
  have hempty : "" ∈ p := by
    rw [← hpieces, ofText, String.pieces, hrest, Text.pieces, if_pos rfl, List.map_cons]
    exact List.mem_cons_self
  exact (h.name_ne "" hempty).1 rfl

theorem resolve_text (h : p.IsPlain) (root : Path) : Path.resolve root p.text = root ++ p := by
  have hnames : Path.names p.text = p := by
    have hall : ∀ s ∈ p, decide (s ≠ "" ∧ s ≠ ".") = true := fun s hs =>
      decide_eq_true ⟨(h.name_ne s hs).1, (h.name_ne s hs).2.1⟩
    rw [Path.names, ← ofText, h.ofText_text]
    simpa using List.filter_eq_self.mpr hall
  have hsteps : ∀ (l : List String) (base : Path), (∀ s ∈ l, s ≠ "..") → l.foldl Path.step base = base ++ l := by
    intro l
    induction l with
    | nil => simp
    | cons s l ih =>
      intro base hl
      obtain ⟨hs, hl⟩ := List.forall_mem_cons.mp hl
      rw [List.foldl_cons, Path.step, if_neg hs, ih _ hl, List.append_assoc, List.singleton_append]
  rw [Path.resolve, hnames, h.text_relative]
  exact hsteps p root fun s hs => (h.name_ne s hs).2.2

theorem not_folder (hp : p.IsPlain) (hq : q.IsPlain) : ¬(p.text ++ "/").toList <+: q.text.toList := by
  rintro ⟨rest, hrest⟩
  have hsplit : q = p ++ (Text.pieces '/' rest).map .ofList := by
    have hslash : "/".toList = ['/'] := rfl
    rw [← hq.ofText_text, ofText, String.pieces, ← hrest, String.toList_append, hslash, List.append_assoc,
      List.singleton_append, Text.pieces_append, List.map_append]
    exact congrArg (· ++ _) hp.ofText_text
  have hmore : (Text.pieces '/' rest).map String.ofList ≠ [] := by
    rw [Ne, List.map_eq_nil_iff]
    exact Text.pieces_ne_nil '/' rest
  obtain ⟨folders, module, rfl, hfolders, -⟩ := hq
  obtain ⟨folders', module', rfl, -⟩ := hp
  have hlast := congrArg List.dropLast hsplit
  rw [inFolders, List.dropLast_concat, List.dropLast_append_of_ne_nil hmore, inFolders, List.append_assoc] at hlast
  have hfolder : module' ++ ".py" ∈ folders := by
    rw [hlast]
    exact List.mem_append_right _ List.mem_cons_self
  apply (hfolders _ hfolder).notMem (by decide : isWordChar '.' = false)
  rw [String.toList_append]
  exact List.mem_append_right _ (by decide)

theorem target_text (h : p.IsPlain) (root : Path) : Package.target root p.text = .ok (root ++ p) := by
  have hnull : p.text.toList.contains '\x00' = false := by
    rw [List.contains_eq_mem, decide_eq_false_iff_not]
    intro hmem
    rcases mem_text hmem with hc | ⟨s, hs, hc⟩
    · revert hc
      decide
    · exact h.notMem (by decide) (by decide) s hs hc
  have hbelow : Path.isBelow root (root ++ p) = true := by
    rw [Path.isBelow, Bool.and_eq_true, List.isPrefixOf_iff_prefix, decide_eq_true_eq]
    exact ⟨List.prefix_append _ _, by simpa using h.ne_nil⟩
  rw [Package.target, hnull, h.resolve_text, hbelow]
  rfl

end IsPlain

end ModulePath

namespace Package

theorem functionsPath_injective : Function.Injective functionsPath := by
  intro a b h
  have hroot (package : List String) : rootOperationsPath ≠ routePath package := by
    intro h
    exact absurd (ModulePath.inFolders_inj.mp h).2 (by decide)
  unfold functionsPath at h
  split at h <;> split at h
  · rename_i ha hb
    rw [List.isEmpty_iff.mp ha, List.isEmpty_iff.mp hb]
  · exact absurd h (hroot b)
  · exact absurd h.symm (hroot a)
  · exact List.tail_eq_of_cons_eq (ModulePath.inFolders_inj.mp h).1

section Nodes

variable {operations : List Operation} {root : RouteNode}

theorem nodup_functionPackages (h : Route.tree operations = .ok root) :
    ((functionNodes root).map RouteNode.package).Nodup := by
  have hall := Route.nodup_packages h
  unfold functionNodes
  split
  · rw [List.append_nil]
    exact hall.sublist (List.filter_sublist.map _)
  · rw [List.map_append, List.nodup_append]
    refine ⟨hall.sublist (List.filter_sublist.map _), List.nodup_singleton _, ?_⟩
    intro package hbelow own hown heq
    obtain ⟨n, hn, rfl⟩ := List.mem_map.mp hbelow
    rw [List.map_singleton, List.mem_singleton] at hown
    have hroot : n.package = [] := by
      rw [heq, hown, RouteNode.package, Route.parts_of_tree h]
      rfl
    have hn := (List.mem_filter.mp hn).2
    rw [RouteNode.package, Route.package, List.map_eq_nil_iff] at hroot
    simp [RouteNode.isRoot, hroot] at hn

theorem nodup_functionPaths (h : Route.tree operations = .ok root) :
    ((functionNodes root).map fun n => functionsPath n.package).Nodup := by
  have hpaths := (nodup_functionPackages h).map functionsPath_injective
  rwa [List.map_map] at hpaths

end Nodes

def fixedPaths : List ModulePath := [configPath, schemasIndex, aliasPath, routesIndex, packageIndex]

theorem functionsPath_notMem_fixed (package : List String) : functionsPath package ∉ fixedPaths := by
  unfold functionsPath
  split
  · decide
  · rename_i hne
    rw [List.isEmpty_iff] at hne
    simp [fixedPaths, routePath, configPath, schemasIndex, aliasPath, routesIndex, packageIndex, ModulePath.index,
      ModulePath.inFolders_inj, hne]

theorem schemaPath_notMem_fixed {module : String} (h : module ≠ Registry.indexModule) :
    schemaPath module ∉ fixedPaths := by
  have hindex : module ≠ "__init__" := h
  simp [fixedPaths, schemaPath, routePath, configPath, schemasIndex, aliasPath, routesIndex, packageIndex,
    ModulePath.index, ModulePath.inFolders_inj, hindex]

theorem functionsPath_ne_schemaPath (package : List String) (module : String) :
    functionsPath package ≠ schemaPath module := by
  unfold functionsPath
  split <;> simp [rootOperationsPath, routePath, schemaPath, ModulePath.index, ModulePath.inFolders_inj]

section Build

variable {style : ImportStyle} {package : Option String} {api : Api} {b : Build}

theorem nodup_paths (hr : api.schemas.WellFormed) (hroot : Route.tree api.operations = .ok b.root)
    (hschemas : schemaModules api.schemas b.naming = .ok b.ofSchemas)
    (hgathered : schemasModule b.naming b.ofSchemas = .ok b.gathered)
    (hroutes : routeModules api.schemas b.naming b.root = .ok b.ofRoutes) :
    ((b.modules api).map (·.path)).Nodup := by
  have hschemaPaths : b.ofSchemas.map (·.path) = api.schemas.entries.map fun e => schemaPath e.module := by
    have hmade := (forall₂_of_mapM hschemas).imp fun e m hm => (path_of_schemaModule hm).symm
    exact (List.forall₂_eq_eq_eq ▸ List.forall₂_map_left_iff.mpr (List.forall₂_map_right_iff.mpr hmade)).symm
  have hroutePaths : b.ofRoutes.map (·.path) = (functionNodes b.root).map fun n => functionsPath n.package := by
    have hmade := (routeModules_eq_ok (Route.isRoot_of_tree hroot) hroutes).imp
      fun n m hm => (path_of_routeModule hm).symm
    exact (List.forall₂_eq_eq_eq ▸ List.forall₂_map_left_iff.mpr (List.forall₂_map_right_iff.mpr hmade)).symm
  have hperm : ((b.modules api).map (·.path)).Perm
      (fixedPaths ++ (b.ofSchemas.map (·.path) ++ b.ofRoutes.map (·.path))) := by
    have hpath : b.gathered.path = schemasIndex := by
      rw [(schemasModule_eq_ok hgathered).2]
      rfl
    have hlist : (b.modules api).map (·.path) = configPath :: (b.ofSchemas.map (·.path) ++ [schemasIndex]
        ++ b.ofRoutes.map (·.path) ++ [aliasPath, routesIndex, packageIndex]) := by
      simp only [Build.modules, List.map_cons, List.map_append, List.map_nil, hpath]
      rfl
    rw [hlist, List.perm_iff_count]
    intro p
    simp only [fixedPaths, List.cons_append, List.nil_append, List.count_cons, List.count_append, List.count_nil]
    omega
  rw [hperm.nodup_iff, hschemaPaths, hroutePaths, List.nodup_append, List.nodup_append]
  refine ⟨by decide, ⟨?_, nodup_functionPaths hroot, ?_⟩, ?_⟩
  · have hmodules : (api.schemas.entries.map fun e => e.module).Nodup := hr.modules
    have hpaths := hmodules.map (f := schemaPath) fun a c h => (ModulePath.inFolders_inj.mp h).2
    rwa [List.map_map] at hpaths
  · intro p hp q hq
    obtain ⟨e, -, rfl⟩ := List.mem_map.mp hp
    obtain ⟨n, -, rfl⟩ := List.mem_map.mp hq
    exact (functionsPath_ne_schemaPath _ _).symm
  · rintro p hp q hq rfl
    rcases List.mem_append.mp hq with hq | hq
    · obtain ⟨e, he, rfl⟩ := List.mem_map.mp hq
      exact schemaPath_notMem_fixed (hr.module_ne_index e he) hp
    · obtain ⟨n, -, rfl⟩ := List.mem_map.mp hq
      exact functionsPath_notMem_fixed _ hp

theorem modules_fails (hr : api.schemas.WellFormed) : FailsOnly IsEarly (modules style package api) := by
  unfold modules
  apply (moduleNaming_fails style package).bind
  intro naming
  apply (routes_fails api).bind_of_eq
  rintro ⟨root, table⟩ hroutes
  apply (schemas_fails api).bind_of_eq
  rintro ⟨ofSchemas, gathered⟩ hschemas
  apply (routeModules_fails root).bind_of_eq
  intro ofRoutes hofRoutes
  obtain ⟨hroot, -⟩ := routes_eq_ok hroutes
  obtain ⟨hofSchemas, hgathered⟩ := schemas_eq_ok hschemas
  have hnodup := nodup_paths (b := ⟨naming, root, table, ofSchemas, gathered, ofRoutes⟩) hr hroot hofSchemas hgathered
    hofRoutes
  have hnone : sharedPath? [] ((Build.modules ⟨naming, root, table, ofSchemas, gathered, ofRoutes⟩ api).map
      (·.path)) = none := by
    rwa [sharedPath?_eq_none_iff List.nodup_nil, List.append_nil, List.nodup_reverse]
  dsimp only [Build.modules] at hnone
  dsimp only
  rw [hnone]
  exact failsOnly_ok _

theorem Build.IsOf.isPlain_path (hb : b.IsOf style package api) {d : Document}
    (hd : Registry.ofDocument d = .ok api.schemas) {m : Module} (hm : m ∈ b.modules api) : m.path.IsPlain := by
  have hschemas : IsIdentifier "schemas" := by decide
  have hroutes : IsIdentifier "routes" := by decide
  have hfixed : ∀ p ∈ fixedPaths, p.IsPlain := by
    simp only [fixedPaths, List.forall_mem_cons]
    refine ⟨⟨[], "config", rfl, by simp, by decide⟩,
      ModulePath.isPlain_index ["schemas"] (by simpa using hschemas),
      ⟨["routes"], "alias", rfl, by simpa using hroutes, by decide⟩,
      ModulePath.isPlain_index ["routes"] (by simpa using hroutes), ModulePath.isPlain_index [] (by simp), by simp⟩
  rcases Build.mem_modules.mp hm with rfl | hm | rfl | hm | rfl | rfl | rfl
  · exact hfixed configPath (by decide)
  · obtain ⟨e, he, hm⟩ := exists_of_mem_mapM hb.ofSchemas hm
    rw [path_of_schemaModule hm]
    exact ⟨["schemas"], e.module, rfl, by simpa using hschemas, Registry.modules_areIdentifiers hd e he⟩
  · rw [hb.gathered_path]
    exact hfixed schemasIndex (by decide)
  · obtain ⟨n, -, hm⟩ := exists_left_of_mem hb.routeModules hm
    rw [path_of_routeModule hm, functionsPath]
    split
    · exact ⟨["routes"], "_root", rfl, by simpa using hroutes, by decide⟩
    · exact ModulePath.isPlain_index _ (List.forall_mem_cons.mpr ⟨hroutes, Route.package_isIdentifier n.parts⟩)
  · exact hfixed aliasPath (by decide)
  · exact hfixed routesIndex (by decide)
  · exact hfixed packageIndex (by decide)

end Build

/-- No two modules get into each other's way, and each of them is written below the directory of the package. -/
structure Apart (ms : List Module) : Prop where
  texts : (ms.map (·.path.text)).Nodup
  dotted : (ms.map (·.path.dotted)).Nodup
  not_folder : ∀ m ∈ ms, ∀ m' ∈ ms, ¬(m.path.text ++ "/").toList <+: m'.path.text.toList
  relative : ∀ m ∈ ms, Path.isAbsolute m.path.text = false
  identifiers : ∀ m ∈ ms, m.path.IsPlain
  target : ∀ m ∈ ms, ∀ root, target root m.path.text = .ok (root ++ m.path)

theorem paths_apart {d : Document} (style : ImportStyle) (package : Option String) {api : Api}
    (hd : Registry.ofDocument d = .ok api.schemas) :
    (∀ path, modules style package api ≠ .error (.conflict (.pathTwice path))) ∧
      ∀ ms, modules style package api = .ok ms → Apart ms := by
  have hr := Registry.wellFormed_of_ofDocument hd
  refine ⟨fun path h => modules_fails hr _ h path rfl, fun ms h => ?_⟩
  obtain ⟨b, hb, rfl⟩ := exists_build h
  have hplain : ∀ m ∈ b.modules api, m.path.IsPlain := fun m hm => hb.isPlain_path hd hm
  constructor
  · have hback : ((b.modules api).map (·.path.text)).map ModulePath.ofText = (b.modules api).map (·.path) := by
      rw [List.map_map]
      exact List.map_congr_left fun m hm => (hplain m hm).ofText_text
    exact List.Nodup.of_map ModulePath.ofText (hback ▸ hb.paths)
  · exact hb.nodup_dotted hr
  · exact fun m hm m' hm' => (hplain m hm).not_folder (hplain m' hm')
  · exact fun m hm => (hplain m hm).text_relative
  · exact hplain
  · exact fun m hm => (hplain m hm).target_text

theorem paths_apart_hostile :
    ∃ (api : Api) (ms : List Module), modules .relative none api = .ok ms ∧ api.schemas.size = 4 ∧ Apart ms := by
  let named (name : String) : Scalar × Document := (.text name, .map [(.text "type", .text "object")])
  let doc : Document := .map [named "../Pet", named "Pet", named "pet", named "__init__"]
  let apiOf (schemas : Registry) : Api := { bareApi schemas with operations := [
    .bare .get "/../{..}/alias" (some "__init__"), .bare .get "/a/./b/{/}" none, .bare .get "/" none,
    .bare .get "/{..}/alias" none] }
  have hok : (Registry.ofDocument doc).map (fun r => (r.size, (modules .relative none (apiOf r)).isOk)) =
      .ok (4, true) := by decide +kernel
  obtain ⟨r, hd, hmade⟩ := map_eq_ok.mp hok
  obtain ⟨hsize, hmade⟩ := Prod.mk.inj hmade
  obtain ⟨ms, h⟩ := exists_of_isOk hmade
  exact ⟨apiOf r, ms, h, hsize, (paths_apart .relative none hd).2 ms h⟩

end Package

end ClientForge
