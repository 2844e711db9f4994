import ClientForge.Proofs.Assembly
import ClientForge.Proofs.Requests
import ClientForge.Proofs.TypeReferences

/-!
Which references are checked. A package is made of a part of its interface only: bodies that are sent as they are and
responses that give no result stay out, and no reference in them is ever looked at.
-/

namespace ClientForge

open Outcome

namespace Schema

variable {r : Registry} {hint : String} {top : Bool} {c : Compiled}

def Resolved (r : Registry) (s : Schema) : Prop := ∀ x ∈ s.mentioned, (r.get? x).isSome

theorem resolved_of_compileAt {s : Schema} (h : compileAt r s hint top = .ok c) : s.Resolved r := by
  intro x hx
  apply found_of_compileAt h
  rw [(gathers_of_compileAt h).refs]
  exact List.mem_eraseDups.mpr hx

end Schema

def Operation.schemas (o : Operation) : List Schema :=
  o.parameters.map (·.schema) ++ (o.requestBody.bind (·.schema)).toList ++ o.responses.filterMap (·.schema)

def Api.Resolved (api : Api) : Prop :=
  (∀ e ∈ api.schemas.entries, e.schema.Resolved api.schemas) ∧
    ∀ o ∈ api.operations, ∀ s ∈ o.schemas, s.Resolved api.schemas

namespace Request

variable {r : Registry}

def bodyPart (b : RequestBody) : RequestBody :=
  if encodingOf b.contentTypes = .content then { b with schema := none } else b

def responsesPart : List Response → List Response
  | [] => []
  | a :: rest =>
    if a.isSuccess && a.isJson && a.schema.isSome then a :: rest.map ({ · with schema := none })
    else { a with schema := none } :: responsesPart rest

def compiledPart (o : Operation) : Operation :=
  { o with requestBody := o.requestBody.map bodyPart, responses := responsesPart o.responses }

theorem resultSchema?_cons (a : Response) (rest : List Response) : resultSchema? (a :: rest) =
    if a.isSuccess && a.isJson && a.schema.isSome then a.schema else resultSchema? rest := by
  unfold resultSchema?
  cases hsuccess : a.isSuccess && a.isJson <;> cases hschema : a.schema <;> simp [hsuccess, hschema]

theorem resultSchema?_responsesPart (responses : List Response) :
    resultSchema? (responsesPart responses) = resultSchema? responses := by
  induction responses with
  | nil => rfl
  | cons a rest ih =>
    rw [responsesPart, resultSchema?_cons]
    split
    · rename_i ha
      rw [resultSchema?_cons, if_pos ha]
    · rw [resultSchema?_cons, if_neg (by simp), ih]

theorem filterMap_schema_responsesPart (responses : List Response) :
    (responsesPart responses).filterMap (·.schema) = (resultSchema? responses).toList := by
  induction responses with
  | nil => rfl
  | cons a rest ih =>
    rw [responsesPart, resultSchema?_cons]
    split
    · rename_i ha
      simp only [Bool.and_eq_true, Option.isSome_iff_exists] at ha
      obtain ⟨-, s, hs⟩ := ha
      simp [hs, List.filterMap_map]
    · simpa using ih

theorem bodyDef_bodyPart (hint : String) (b : RequestBody) : bodyDef r hint (bodyPart b) = bodyDef r hint b := by
  unfold bodyPart
  split
  · rename_i hencoding
    unfold bodyDef
    simp only [hencoding]
  · rfl

theorem define_compiledPart (o : Operation) : define r (compiledPart o) = define r o := by
  have hbody (hint : String) : (compiledPart o).requestBody.mapM (bodyDef r hint) =
      o.requestBody.mapM (bodyDef r hint) := by
    cases hrequest : o.requestBody with
    | none => simp only [compiledPart, hrequest, Option.map_none]
    | some b => simp only [compiledPart, hrequest, Option.map_some, Option.mapM_some, bodyDef_bodyPart]
  have hresponse (hint : String) : responseDef r hint (compiledPart o) = responseDef r hint o := by
    simp only [responseDef, compiledPart, resultSchema?_responsesPart]
  unfold define
  simp only [hbody, hresponse]
  rfl

theorem resolved_of_declaredParams {hint : String} {done done' : List ParamDef} {needs needs' : Needs}
    {parameters : List Parameter} (h : declaredParams r hint done needs parameters = .ok (done', needs')) :
    ∀ p ∈ parameters, p.schema.Resolved r := by
  induction parameters generalizing done needs with
  | nil =>
    intro p hp
    cases hp
  | cons p parameters ih =>
    obtain ⟨c, hc, h⟩ := bind_eq_ok.mp h
    exact List.forall_mem_cons.mpr ⟨Schema.resolved_of_compileAt hc, ih h⟩

theorem resolved_of_bodyDef {hint : String} {body : RequestBody} {b : BodyDef} {needs : Needs}
    (h : bodyDef r hint body = .ok (b, needs)) : ∀ s ∈ (bodyPart body).schema, s.Resolved r := by
  unfold bodyPart
  split
  · rintro s ⟨⟩
  · rename_i hencoding
    intro s hs
    obtain ⟨-, type, htype, -⟩ := bodyDef_eq_ok h
    cases htype with
    | content hcontent => exact absurd hcontent hencoding
    | anything _ hnone =>
      rw [hnone] at hs
      cases hs
    | compiled _ hsome hc =>
      rw [hsome] at hs
      cases hs
      exact Schema.resolved_of_compileAt hc

theorem resolved_of_responseDef {hint : String} {o : Operation} {d : ResponseDef} {needs : Needs}
    (h : responseDef r hint o = .ok (d, needs)) : ∀ s ∈ resultSchema? o.responses, s.Resolved r := by
  intro s hs
  obtain ⟨hnone, -⟩ | ⟨s', c, hsome, hc, -⟩ := responseDef_eq_ok h
  · rw [hnone] at hs
    cases hs
  · rw [hsome] at hs
    cases hs
    exact Schema.resolved_of_compileAt hc

theorem resolved_of_define {o : Operation} {d : OperationDef} {needs : Needs} (h : define r o = .ok (d, needs)) :
    ∀ s ∈ (compiledPart o).schemas, s.Resolved r := by
  obtain ⟨declared, n, body, n', hdeclared, hbody, hresponse, -⟩ := define_cases h
  intro s hs
  rw [Operation.schemas, List.mem_append, List.mem_append] at hs
  rcases hs with (hs | hs) | hs
  · obtain ⟨p, hp, rfl⟩ := List.mem_map.mp hs
    apply resolved_of_declaredParams hdeclared
    rw [inOrder, List.mem_append, List.mem_filter, List.mem_filter]
    by_cases hpath : p.location = .path
    · exact .inl ⟨hp, by simpa using hpath⟩
    · exact .inr ⟨hp, by simpa using hpath⟩
  · simp only [compiledPart, Option.mem_toList, Option.bind_map, Option.bind_eq_some_iff, Function.comp_apply] at hs
    obtain ⟨b, hb, hs⟩ := hs
    rw [hb, Option.mapM_some, map_eq_ok] at hbody
    obtain ⟨⟨b', n''⟩, hresult, -⟩ := hbody
    exact resolved_of_bodyDef hresult s hs
  · rw [compiledPart, filterMap_schema_responsesPart, Option.mem_toList] at hs
    exact resolved_of_responseDef hresponse s hs

end Request

namespace RouteNode

mutual

def compiledPart : RouteNode → RouteNode
  | mk parts operations children exports =>
    mk parts (operations.map Request.compiledPart) (compiledParts children) exports

def compiledParts : List RouteNode → List RouteNode
  | [] => []
  | n :: rest => compiledPart n :: compiledParts rest

end

theorem compiledParts_eq_map (ns : List RouteNode) : compiledParts ns = ns.map compiledPart := by
  induction ns with
  | nil => rfl
  | cons n ns ih => rw [compiledParts, ih, List.map_cons]

section

variable (n : RouteNode)

theorem children_compiledPart : n.compiledPart.children = n.children.map compiledPart := by
  cases n
  exact compiledParts_eq_map _

@[simp] theorem operations_compiledPart : n.compiledPart.operations = n.operations.map Request.compiledPart := by
  cases n
  rfl

@[simp] theorem parts_compiledPart : n.compiledPart.parts = n.parts := by
  cases n
  rfl

@[simp] theorem exports_compiledPart : n.compiledPart.exports = n.exports := by
  cases n
  rfl

@[simp] theorem isRoot_compiledPart : n.compiledPart.isRoot = n.isRoot := by simp [isRoot]

@[simp] theorem package_compiledPart : n.compiledPart.package = n.package := by simp [package]

@[simp] theorem segment_compiledPart : n.compiledPart.segment = n.segment := by simp [segment]

@[simp] theorem symbol_compiledPart : n.compiledPart.symbol = n.symbol := by simp [symbol]

@[simp] theorem path_compiledPart : n.compiledPart.path = n.path := by simp [path]

end

mutual

theorem postOrder_compiledPart : ∀ n : RouteNode, n.compiledPart.postOrder = n.postOrder.map compiledPart
  | mk parts operations children exports => by
    rw [compiledPart, postOrder, postOrder, postOrders_compiledParts children, List.map_append, List.map_singleton,
      compiledPart]

theorem postOrders_compiledParts :
    ∀ ns : List RouteNode, postOrders (compiledParts ns) = (postOrders ns).map compiledPart
  | [] => rfl
  | n :: rest => by
    rw [compiledParts, postOrders, postOrders, postOrder_compiledPart n, postOrders_compiledParts rest,
      List.map_append]

end

end RouteNode

namespace Outcome

theorem eq_of_alike {ε α : Type} {x y : Except ε α} (h : Alike Eq x y) : x = y := by
  cases x <;> cases y
  · exact congrArg _ h
  · exact h.elim
  · exact h.elim
  · exact congrArg _ h

end Outcome

namespace Route

variable {operations : List Operation}

theorem operationsAt_compiledPart (parts : List String) :
    operationsAt (operations.map Request.compiledPart) parts = (operationsAt operations parts).map
      Request.compiledPart := by
  rw [operationsAt, List.filter_map]
  rfl

theorem makeNode_alike (parts : List String) (children : List RouteNode) :
    Alike (·.compiledPart = ·) (makeNode operations parts children)
      (makeNode (operations.map Request.compiledPart) parts (children.map RouteNode.compiledPart)) := by
  have hclaims : exportClaims ((operationsAt operations parts).map Request.compiledPart)
      (children.map RouteNode.compiledPart) = exportClaims (operationsAt operations parts) children := by
    simp only [exportClaims, List.map_map]
    congr 1
    apply List.map_congr_left
    intro c hc
    simp
  unfold makeNode
  rw [operationsAt_compiledPart]
  simp only [hclaims]
  split
  · rfl
  · split
    · rfl
    · rw [Alike, RouteNode.compiledPart, RouteNode.compiledParts_eq_map]

theorem nodeAt_alike (all : List (List String)) (fuel : ℕ) (parts : List String) :
    Alike (·.compiledPart = ·) (nodeAt operations all fuel parts)
      (nodeAt (operations.map Request.compiledPart) all fuel parts) := by
  induction fuel generalizing parts with
  | zero => exact makeNode_alike parts []
  | succ fuel ih =>
    apply (Alike.mapM _ fun q _ => ih q).bind
    intro children children' h
    rw [← List.forall₂_map_left_iff, List.forall₂_eq_eq_eq] at h
    exact h ▸ makeNode_alike parts children

theorem tree_alike : Alike (·.compiledPart = ·) (tree operations)
    (tree (operations.map Request.compiledPart)) := by
  unfold tree
  rw [List.map_map]
  exact nodeAt_alike _ _ _

theorem aliases_compiledPart : aliases (operations.map Request.compiledPart) = aliases operations := by
  have hafter (before : List AliasEntry) :
      aliasesAfter before (operations.map Request.compiledPart) = aliasesAfter before operations := by
    induction operations generalizing before with
    | nil => rfl
    | cons o operations ih =>
      rw [List.map_cons, aliasesAfter, aliasesAfter]
      simp only [ih]
      rfl
  rw [aliases, hafter, aliases]

end Route

namespace Package

variable {r : Registry} {naming : ModuleNaming}

theorem nodeParts_compiledPart (n : RouteNode) : nodeParts r n.compiledPart = nodeParts r n := by
  have hdefine : Request.define r ∘ Request.compiledPart = Request.define r := funext Request.define_compiledPart
  rw [nodeParts, nodeParts, RouteNode.operations_compiledPart, List.mapM_map, hdefine]

theorem importedChildren_compiledPart (n : RouteNode) :
    importedChildren n.compiledPart = (importedChildren n).map RouteNode.compiledPart := by
  rw [importedChildren, importedChildren, RouteNode.isRoot_compiledPart]
  split
  · rfl
  · exact n.children_compiledPart

theorem nodeClaims_compiledPart (n : RouteNode) (p : NodeParts) :
    nodeClaims r n.compiledPart p = nodeClaims r n p := by
  simp only [nodeClaims, importedChildren_compiledPart, RouteNode.operations_compiledPart, List.zip_map_right,
    List.map_map, Function.comp_def, RouteNode.symbol_compiledPart, RouteNode.segment_compiledPart]
  rfl

theorem takeChildren_compiledPart (t : ImportTable) (children : List RouteNode) :
    (children.map RouteNode.compiledPart).foldl (fun t c => t.takeModule (routePath c.package) none) t =
      children.foldl (fun t c => t.takeModule (routePath c.package) none) t := by
  simp only [List.foldl_map, RouteNode.package_compiledPart]

theorem routeModule_compiledPart (path : ModulePath) (n : RouteNode) :
    routeModule r naming path n.compiledPart = routeModule r naming path n := by
  have himports (p : NodeParts) : nodeImports r naming path n.compiledPart p = nodeImports r naming path n p := by
    rw [nodeImports, nodeImports, importedChildren_compiledPart, takeChildren_compiledPart]
  unfold routeModule
  simp only [nodeParts_compiledPart, nodeClaims_compiledPart, himports, RouteNode.path_compiledPart,
    RouteNode.isRoot_compiledPart, RouteNode.exports_compiledPart]

theorem routeModules_compiledPart (root : RouteNode) :
    routeModules r naming root.compiledPart = routeModules r naming root := by
  unfold routeModules
  have hbelow : root.compiledPart.postOrder.filter (!·.isRoot) =
      (root.postOrder.filter (!·.isRoot)).map RouteNode.compiledPart := by
    rw [RouteNode.postOrder_compiledPart, List.filter_map]
    simp only [Function.comp_def, RouteNode.isRoot_compiledPart]
  simp only [hbelow, List.mapM_map, Function.comp_def, routeModule_compiledPart, RouteNode.package_compiledPart,
    RouteNode.operations_compiledPart, List.isEmpty_map]

theorem routesModule_compiledPart (root : RouteNode) (table : AliasTable) :
    routesModule naming root.compiledPart table = routesModule naming root table := by
  simp only [routesModule, freeAliases, RouteNode.children_compiledPart, takeChildren_compiledPart,
    RouteNode.operations_compiledPart, RouteNode.exports_compiledPart, List.map_map]
  rfl

end Package

def Api.compiledPart (api : Api) : Api := { api with operations := api.operations.map Request.compiledPart }

namespace Package

variable {style : ImportStyle} {package : Option String} {api : Api} {ms : List Module}

theorem routes_alike (api : Api) :
    Alike (fun a b => a.1.compiledPart = b.1 ∧ a.2 = b.2) (routes api) (routes api.compiledPart) := by
  apply Route.tree_alike.bind
  intro root root' hroot
  have htable : Route.aliases api.compiledPart.operations = Route.aliases api.operations := Route.aliases_compiledPart
  rw [htable]
  apply (Alike.refl (R := Eq) (fun _ => rfl) _).bind
  intro table table' ht
  exact ⟨hroot, ht⟩

theorem modules_of_compiledPart (style : ImportStyle) (package : Option String) (api : Api) :
    modules style package api.compiledPart = modules style package api := by
  symm
  apply eq_of_alike
  apply (Alike.refl (R := Eq) (fun _ => rfl) _).bind
  rintro naming _ rfl
  apply (routes_alike api).bind
  rintro ⟨root, table⟩ ⟨_, _⟩ ⟨rfl, rfl⟩
  apply (Alike.refl (R := Eq) (fun _ => rfl) _).bind
  rintro ⟨ofSchemas, gathered⟩ _ rfl
  simp only [routeModules_compiledPart, routesModule_compiledPart]
  exact Alike.refl (fun _ => rfl) _

theorem resolved_of_schemas (h : modules style package api = .ok ms) :
    ∀ e ∈ api.schemas.entries, e.schema.Resolved api.schemas := by
  obtain ⟨b, hb, -⟩ := exists_build h
  intro e he
  obtain ⟨m, -, hm⟩ := exists_mem_of_mapM hb.ofSchemas he
  obtain ⟨c, hc, -⟩ := schemaModule_eq_ok hm
  obtain ⟨c', hc', -⟩ := NamedSchema.compile_cases hc
  exact Schema.resolved_of_compileAt hc'

theorem resolved_of_operations (h : modules style package api = .ok ms) :
    ∀ o ∈ api.operations, ∀ s ∈ (Request.compiledPart o).schemas, s.Resolved api.schemas := by
  obtain ⟨b, hb, -⟩ := exists_build h
  intro o ho
  obtain ⟨n, hn, -, ho⟩ := Route.exists_node_of_operation hb.root ho
  have hnode := mem_functionNodes hb.root hn fun _ => List.ne_nil_of_mem ho
  obtain ⟨m, -, hm⟩ := exists_right_of_mem hb.routeModules hnode
  obtain ⟨p, hp, -⟩ := routeModule_eq_ok hm
  obtain ⟨d, -, hd⟩ := exists_right_of_mem (nodeParts_eq_ok hp) ho
  exact Request.resolved_of_define hd

/-- A package is made of a part of its interface, and it is made only if all references in that part are there. What
stands in the rest of the interface changes nothing. -/
theorem references_checked (style : ImportStyle) (package : Option String) (api : Api) :
    modules style package api.compiledPart = modules style package api ∧
      ∀ ms, modules style package api = .ok ms → api.compiledPart.Resolved := by
  refine ⟨modules_of_compiledPart style package api, fun ms h => ?_⟩
  have hschemas := resolved_of_schemas h
  refine ⟨hschemas, fun o' ho' => ?_⟩
  obtain ⟨o, ho, rfl⟩ := List.mem_map.mp ho'
  exact resolved_of_operations h o ho

def danglingApi : Api :=
  let missing : Option Schema := some (.array ⟨false, .absent⟩ (.ref ⟨false, .absent⟩ "Missing"))
  let response (status : String) : Response := ⟨status, none, ["application/json"], missing⟩
  { bareApi ⟨[⟨"Pet", "Pet", "pet", .object ⟨false, .absent⟩ [] [] none⟩]⟩ with operations := [
      { Operation.bare .post "/pets" none with
        requestBody := some ⟨true, none, ["text/csv"], missing⟩
        responses := [{ response "200" with schema := some (.ref ⟨false, .absent⟩ "Pet") }, response "404"] }] }

theorem references_checked_dangling : ∃ ms, modules .relative none danglingApi = .ok ms ∧
    modules .relative none danglingApi.compiledPart = .ok ms ∧ danglingApi.compiledPart.Resolved := by
  have hok : (modules .relative none danglingApi).isOk = true := by decide +kernel
  obtain ⟨ms, h⟩ := exists_of_isOk hok
  obtain ⟨heq, hresolved⟩ := references_checked .relative none danglingApi
  exact ⟨ms, h, heq.trans h, hresolved ms h⟩

theorem dangling_reference_passes : ∃ (d : Document) (ms : List Module),
    Registry.ofDocument d = .ok danglingApi.schemas ∧ modules .relative none danglingApi = .ok ms ∧
      ¬danglingApi.Resolved := by
  have hok : (modules .relative none danglingApi).isOk = true := by decide +kernel
  obtain ⟨ms, h⟩ := exists_of_isOk hok
  refine ⟨.map [(.text "Pet", .map [(.text "type", .text "object")])], ms, rfl, h, fun ⟨_, hoperations⟩ => ?_⟩
  have hmissing := hoperations _ List.mem_cons_self (.array ⟨false, .absent⟩ (.ref ⟨false, .absent⟩ "Missing"))
    (by simp [Operation.schemas]) "Missing" (List.mem_singleton_self _)
  exact absurd hmissing (by decide)

end Package

end ClientForge
