import ClientForge.Proofs.ImportTargets
import ClientForge.Proofs.OperationParts

/-!
From the paths of a document to the functions of its package: none is lost on the way, and none comes twice.
-/

namespace ClientForge

open Outcome

structure Endpoint where
  path : String
  method : Method
deriving DecidableEq, Repr

namespace Document

def isMapping (d : Document) : Bool :=
  match d.opened with
  | .map _ => true
  | _ => false

def endpointsOf (path : String) (fields : Entries) : List Endpoint :=
  (fields.filter (·.2.isMapping)).filterMap fun (key, _) =>
    (Method.all.find? fun m => key = .text m.name).map (⟨path, ·⟩)

def endpoints (d : Document) : List Endpoint :=
  ((field d.entriesOrNone "paths").entriesOrNone.filter (·.2.isMapping)).flatMap fun (path, item) =>
    endpointsOf (Document.scalar path).display item.entriesOrNone

theorem isMapping_cases (d : Document) :
    (∃ fields, d.opened = .map fields ∧ d.isMapping = true ∧ d.entriesOrNone = fields) ∨
      (∀ fields, d.opened ≠ .map fields) ∧ d.isMapping = false := by
  unfold isMapping entriesOrNone
  cases d.opened with
  | map fields => exact .inl ⟨fields, rfl, rfl, rfl⟩
  | _ => simp

end Document

namespace Endpoint

/-- The module for the functions of a path: in folders named for its pieces between slashes, the empty ones apart, or
one for the root where no other piece is left. -/
def place (e : Endpoint) : ModulePath :=
  let pieces := (e.path.toList.splitOn '/').filter (· ≠ [])
  if pieces = [] then ["routes", "_root.py"]
  else "routes" :: pieces.map (fun piece => Naming.segmentSymbol (.ofList piece)) ++ ["__init__.py"]

theorem segments_eq (path : String) :
    Route.segments path = ((path.toList.splitOn '/').filter (· ≠ [])).map .ofList := by
  rw [Route.segments, String.pieces, Text.pieces_eq_splitOn, List.filter_map]
  congr 1
  apply List.filter_congr
  intro piece _
  simp [String.ofList_eq_empty_iff]

theorem place_eq (e : Endpoint) : e.place = Package.functionsPath (Route.packageOf e.path) := by
  rw [place, Package.functionsPath, Route.packageOf, Route.package, segments_eq]
  by_cases h : (e.path.toList.splitOn '/').filter (· ≠ []) = []
  · simp only [h]
    rfl
  · rw [if_neg h, List.map_map, if_neg (by simpa using h)]
    rfl

def IsServedBy (e : Endpoint) (f : OperationDef) : Prop :=
  f.name = Route.functionName e.method ∧ f.httpMethod = e.method.name.toUpper ∧
    ∃ argument, f.url = Route.urlExpression e.path argument

def IsOf (e : Endpoint) (o : Operation) : Prop := o.path = e.path ∧ o.method = e.method

end Endpoint

namespace Operation

theorem displayed_eq {d : Document} {s : String} (h : d.displayed = .ok s) : s = d.display := by
  unfold Document.displayed at h
  split at h
  · exact (Except.ok.inj h).symm
  · cases h

theorem isOf_of_isAt {p : OperationPlace} {o : Operation} (h : IsAt p o) :
    Endpoint.IsOf ⟨(Document.scalar p.path).display, p.method⟩ o :=
  have h := isReadFrom_of_ofEntries h
  ⟨displayed_eq h.path, h.method⟩

theorem keyed?_endpoint (path : String) (k : Scalar) (d : Document) :
    (keyed? k d).map (fun e => (⟨path, e.1⟩ : Endpoint)) =
      if d.isMapping then (Method.all.find? fun m => k = .text m.name).map (⟨path, ·⟩) else none := by
  unfold keyed? Document.isMapping
  cases d.opened with
  | map fields =>
    cases k with
    | text name =>
      simp only [if_true, Option.map_map, Scalar.text.injEq, Method.ofName?, eq_comm (a := name)]
      rfl
    | _ =>
      rw [List.find?_eq_none.mpr (by simp)]
      rfl
  | _ => simp

theorem keyed_endpoints (path : String) (fields : Entries) :
    (fields.filterMap fun (k, d) => keyed? k d).map (fun e => (⟨path, e.1⟩ : Endpoint)) =
      Document.endpointsOf path fields := by
  rw [Document.endpointsOf, List.map_filterMap, List.filterMap_filter]
  exact List.filterMap_congr fun e _ => keyed?_endpoint path e.1 e.2

theorem mappings_eq (entries : Entries) :
    entries.mappings = (entries.filter (·.2.isMapping)).map fun e => (e.1, e.2.entriesOrNone) := by
  rw [Entries.mappings, ← List.filterMap_eq_map, List.filterMap_filter]
  apply List.filterMap_congr
  rintro ⟨k, d⟩ -
  rcases d.isMapping_cases with ⟨fields, hopened, hmapping, hentries⟩ | ⟨hopened, hmapping⟩
  · simp [hopened, hmapping, hentries]
  · simp [hmapping]

theorem map_places (paths : Entries) :
    (places paths).map (fun p => (⟨(Document.scalar p.path).display, p.method⟩ : Endpoint)) =
      (paths.filter (·.2.isMapping)).flatMap fun (path, item) =>
        Document.endpointsOf (Document.scalar path).display item.entriesOrNone := by
  rw [places, List.map_flatMap, mappings_eq, List.flatMap_map]
  apply List.flatMap_congr
  rintro ⟨path, item⟩ -
  exact List.map_map.trans (keyed_endpoints (Document.scalar path).display item.entriesOrNone)

end Operation

theorem Api.operations_ofDocument {version : String} {d : Document} {api : Api}
    (h : ofDocument version d = .ok api) : ∃ resolved, d.resolve [schemaReferenceStart] = .ok resolved ∧
      List.Forall₂ Endpoint.IsOf resolved.endpoints api.operations := by
  obtain ⟨resolved, hresolved, hplaces⟩ := exists_places h
  refine ⟨resolved, hresolved, ?_⟩
  rw [Document.endpoints, ← Operation.map_places, List.forall₂_map_left_iff]
  exact hplaces.imp fun _ _ hplace => Operation.isOf_of_isAt hplace

namespace Package

variable {style : ImportStyle} {package : Option String} {api : Api} {b : Build}

def operationPlace (o : Operation) : ModulePath := functionsPath (Route.packageOf o.path)

theorem Build.IsOf.node_eq (hb : b.IsOf style package api) {n n' : RouteNode} (hn : n ∈ functionNodes b.root)
    (hn' : n' ∈ functionNodes b.root) (h : functionsPath n.package = functionsPath n'.package) : n = n' := by
  have hpaths : ((functionNodes b.root).map fun n => functionsPath n.package) = b.ofRoutes.map (·.path) := by
    rw [← List.forall₂_eq_eq_eq, List.forall₂_map_left_iff, List.forall₂_map_right_iff]
    exact hb.routeModules.imp fun n m hm => (path_of_routeModule hm).symm
  have hsublist : List.Sublist b.ofRoutes (b.modules api) := by
    apply List.Sublist.cons
    exact (List.sublist_append_right _ _).trans (List.sublist_append_left _ _)
  have hnodup := (hsublist.map (·.path)).nodup hb.paths
  rw [← hpaths] at hnodup
  exact List.inj_on_of_nodup_map hnodup hn hn' h

theorem Build.IsOf.exists_node (hb : b.IsOf style package api) {o : Operation} (ho : o ∈ api.operations) :
    ∃ n ∈ functionNodes b.root, n.parts = Route.segments o.path ∧ functionsPath n.package = operationPlace o := by
  obtain ⟨n, hn, hparts, hmine⟩ := Route.exists_node_of_operation hb.root ho
  refine ⟨n, mem_functionNodes hb.root hn fun _ => List.ne_nil_of_mem hmine, hparts, ?_⟩
  rw [operationPlace, Route.packageOf, RouteNode.package, hparts]

theorem Build.IsOf.operations_eq (hb : b.IsOf style package api) {n : RouteNode} (hn : n ∈ functionNodes b.root) :
    n.operations = api.operations.filter (operationPlace · = functionsPath n.package) := by
  rw [Route.operations_of_mem_tree hb.root (mem_postOrder_of_mem_functionNodes hn), Route.operationsAt]
  apply List.filter_congr
  intro o ho
  obtain ⟨n', hn', hparts, hplace⟩ := hb.exists_node ho
  rw [beq_eq_decide, decide_eq_decide]
  constructor
  · intro h
    rw [operationPlace, Route.packageOf, h, RouteNode.package]
  · -- Different segments may become one package, but then two modules would share a path.
    intro h
    rw [← hb.node_eq hn' hn (hplace.trans h), hparts]

theorem Build.IsOf.operations_nil (hb : b.IsOf style package api) {m : Module} (hm : m ∈ b.modules api)
    (hroutes : m ∉ b.ofRoutes) : m.operations = [] := by
  rcases Build.mem_modules.mp hm with rfl | hm | rfl | hm | rfl | rfl | rfl
  · rfl
  · obtain ⟨e, -, hm⟩ := exists_of_mem_mapM hb.ofSchemas hm
    obtain ⟨c, -, -, rfl⟩ := schemaModule_eq_ok hm
    rfl
  · rw [(schemasModule_eq_ok hb.gathered).2]
    rfl
  · exact absurd hm hroutes
  · rfl
  · rfl
  · rfl

theorem Build.IsOf.served (hb : b.IsOf style package api) {m : Module} (hm : m ∈ b.modules api) :
    (m.operations.map (·.name)).Nodup ∧ List.Forall₂ (fun o f => (⟨o.path, o.method⟩ : Endpoint).IsServedBy f)
      (api.operations.filter (operationPlace · = m.path)) m.operations := by
  by_cases hroutes : m ∈ b.ofRoutes
  · obtain ⟨n, hn, hmade⟩ := exists_left_of_mem hb.routeModules hroutes
    obtain ⟨p, hp, -, rfl⟩ := routeModule_eq_ok hmade
    have hserved : List.Forall₂ (fun o f => (⟨o.path, o.method⟩ : Endpoint).IsServedBy f) n.operations
        p.operations := by
      rw [NodeParts.operations, List.forall₂_map_right_iff]
      apply (nodeParts_eq_ok hp).imp
      intro o d hd
      obtain ⟨hname, hmethod, hurl, -⟩ := Request.define_eq_ok hd
      exact ⟨hname, hmethod, hurl⟩
    have hnames : n.operations.map (fun o => Route.functionName o.method) = p.operations.map (·.name) := by
      rw [← List.forall₂_eq_eq_eq, List.forall₂_map_left_iff, List.forall₂_map_right_iff]
      exact hserved.imp fun o f hf => hf.1.symm
    refine ⟨hnames ▸ Route.nodup_functionNames hb.root (mem_postOrder_of_mem_functionNodes hn), ?_⟩
    rw [hb.operations_eq hn] at hserved
    exact hserved
  · rw [hb.operations_nil hm hroutes]
    refine ⟨List.nodup_nil, ?_⟩
    rw [List.filter_eq_nil_iff.mpr]
    · exact .nil
    · -- An operation of this place has its function in a module of routes, which has this path already.
      intro o ho hplace
      obtain ⟨n, hn, -, hpath⟩ := hb.exists_node ho
      obtain ⟨m', hm', hmade⟩ := exists_right_of_mem hb.routeModules hn
      have hmodule : m'.path = m.path := by
        rw [path_of_routeModule hmade, hpath]
        exact of_decide_eq_true hplace
      have heq := List.inj_on_of_nodup_map hb.paths (b.ofRoutes_subset api hm') hm hmodule
      exact hroutes (heq ▸ hm')

/-- The functions of a package are those for the endpoints of the document, each in the module for its path, and in
each module in the order of the document. -/
theorem endpoints_served {version : String} {d : Document} {ms : List Module}
    (hd : Api.ofDocument version d = .ok api) (h : modules style package api = .ok ms) :
    ∃ resolved, d.resolve [schemaReferenceStart] = .ok resolved ∧
      (ms.map (·.path)).Nodup ∧ (∀ e ∈ resolved.endpoints, ∃ m ∈ ms, m.path = e.place) ∧
      ∀ m ∈ ms, (m.operations.map (·.name)).Nodup ∧
        List.Forall₂ Endpoint.IsServedBy (resolved.endpoints.filter (·.place = m.path)) m.operations := by
  obtain ⟨resolved, hresolved, hread⟩ := Api.operations_ofDocument hd
  obtain ⟨b, hb, rfl⟩ := exists_build h
  refine ⟨resolved, hresolved, hb.paths, fun e he => ?_, fun m hm => ?_⟩
  · obtain ⟨o, ho, hpath, -⟩ := exists_right_of_mem hread he
    obtain ⟨n, hn, -, hplace⟩ := hb.exists_node ho
    obtain ⟨m, hm, hmade⟩ := exists_right_of_mem hb.routeModules hn
    refine ⟨m, b.ofRoutes_subset api hm, ?_⟩
    rw [path_of_routeModule hmade, hplace, e.place_eq, operationPlace, hpath]
  · obtain ⟨hnames, hserved⟩ := hb.served hm
    refine ⟨hnames, ?_⟩
    have hfiltered : List.Forall₂ Endpoint.IsOf (resolved.endpoints.filter (·.place = m.path))
        (api.operations.filter (operationPlace · = m.path)) := by
      refine List.rel_filter ?_ hread
      rintro e o ⟨hpath, -⟩
      simp only [decide_eq_true_eq, e.place_eq, operationPlace, hpath]
    apply forall₂_trans hfiltered hserved
    rintro e o f ⟨hpath, hmethod⟩ hf
    rw [hpath, hmethod] at hf
    exact hf

def slashedDocument : Document :=
  let operation : Document := .map []
  .map [(.text "paths", .map [
    (.text "/", .map [(.text "get", operation)]),
    (.text "//pets//\x7bid\x7d/", .map [
      (.text "patch", operation), (.text "summary", .text "A pet"), (.text "get", operation)]),
    (.text "/none", .text "nothing")])]

theorem endpoints_served_slashed :
    ∃ (api : Api) (ms : List Module) (resolved : Document), Api.ofDocument "3.0.3" slashedDocument = .ok api ∧
      modules .relative none api = .ok ms ∧ slashedDocument.resolve [schemaReferenceStart] = .ok resolved ∧
      (ms.filter (·.operations ≠ [])).map (fun m => (m.path, m.operations.map (·.name))) =
        [(["routes", "pets", "by_id", "__init__.py"], ["patch", "get"]), (["routes", "_root.py"], ["get"])] ∧
      (∀ e ∈ resolved.endpoints, ∃ m ∈ ms, m.path = e.place) ∧
      ∀ m ∈ ms, List.Forall₂ Endpoint.IsServedBy (resolved.endpoints.filter (·.place = m.path)) m.operations := by
  have hrun : (fun ms : List Module => (ms.filter (·.operations ≠ [])).map fun m =>
      (m.path, m.operations.map (·.name))) <$>
      (Api.ofDocument "3.0.3" slashedDocument >>= modules .relative none) = .ok
        [(["routes", "pets", "by_id", "__init__.py"], ["patch", "get"]), (["routes", "_root.py"], ["get"])] := by
    decide +kernel
  obtain ⟨ms, hms, hplaced⟩ := map_eq_ok.mp hrun
  obtain ⟨api, hapi, hms⟩ := bind_eq_ok.mp hms
  obtain ⟨resolved, hresolved, -, hplaces, hmodules⟩ := endpoints_served hapi hms
  exact ⟨api, ms, resolved, hapi, hms, hresolved, hplaced, hplaces, fun m hm => (hmodules m hm).2⟩

end Package

end ClientForge
