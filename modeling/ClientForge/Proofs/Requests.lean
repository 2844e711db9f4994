import ClientForge.Package.Routes
import ClientForge.Proofs.TypeReferences

namespace ClientForge

open Outcome

def Request.adapterName (m : Method) : String := "_" ++ Route.functionName m ++ "_response"

structure Needs.Gathered (r : Registry) (o : Operation) (P : Needs → Prop) : Prop where
  append : ∀ a b, P a → P b → P (a ++ b)
  plain : ∀ symbols, P (.ofSymbols symbols)
  compiled : ∀ s place c, Schema.compile r s (Request.hintStart o ++ place) = .ok c → P (.ofCompiled c)
  adapted : ∀ s place c, Schema.compile r s (Request.hintStart o ++ place) = .ok c →
    P (.ofCompiled c ++ ⟨[], some ⟨Request.adapterName o.method, c.type⟩, [], ["TypeAdapter"]⟩)

def Needs.Known (r : Registry) (n : Needs) : Prop := ∀ x ∈ n.refs, (r.get? x).isSome

theorem Needs.gathered_known (r : Registry) (o : Operation) : Gathered r o (Known r) where
  append a b ha hb x hx := by
    rcases List.mem_append.mp hx with hx | hx
    · exact ha x hx
    · exact hb x hx
  plain symbols x hx := by cases hx
  compiled s place c hc x hx := (Schema.compileAt_refersTo hc x hx).2
  adapted s place c hc x hx := by
    have hx : x ∈ c.refs := (List.append_nil c.refs) ▸ hx
    exact (Schema.compileAt_refersTo hc x hx).2

/-- A request function as it follows from its parameters. -/
structure OperationDef.Takes (d : OperationDef) (o : Operation) (params : List ParamDef) : Prop where
  name : d.name = Route.functionName o.method
  httpMethod : d.httpMethod = o.method.wireName
  url : d.url = Route.urlExpression o.path (Request.argumentFor (params.filter (·.location = .path)))
  path : d.pathParams = Request.inPathOrder o.path (params.filter (·.location = .path))
  query : d.queryParams = params.filter (·.location = .query)
  header : d.headerParams = params.filter (·.location = .header)
  cookie : d.cookieParams = params.filter (·.location = .cookie)

namespace Request

variable {r : Registry} {o : Operation} {hint : String} {needs : Needs}

def adaptedNeeds (m : Method) (c : Compiled) : Needs :=
  .ofCompiled c ++ ⟨[], some ⟨adapterName m, c.type⟩, [], ["TypeAdapter"]⟩

def conversions (params : List ParamDef) (body : Option (BodyDef × Needs)) : List String :=
  if !(params.filter (·.location = .query)).isEmpty || body.any (·.1.encoding ≠ .content) then ["to_jsonable_python"]
  else []

/-- The type of a body before it is made optional, and what this type needs. -/
inductive IsBodyType (r : Registry) (hint : String) (body : RequestBody) : TypeExpr → Needs → Prop
  | content (h : encodingOf body.contentTypes = .content) : IsBodyType r hint body (.named "bytes") (.ofSymbols [])
  | anything (h : encodingOf body.contentTypes ≠ .content) (hschema : body.schema = none) :
      IsBodyType r hint body .any (.ofSymbols ["Any"])
  | compiled {s : Schema} {c : Compiled} (h : encodingOf body.contentTypes ≠ .content) (hschema : body.schema = some s)
      (hc : Schema.compile r s (hint ++ "Body") = .ok c) : IsBodyType r hint body c.type (.ofCompiled c)

/-- A result is read by an adapter for its type, or by the class that stands in this type. -/
inductive IsReadBy (r : Registry) (m : Method) (c : Compiled) : ResponseDef × Needs → Prop
  | adapter : IsReadBy r m c (⟨.adapter, c.type, none, some (adapterName m)⟩, adaptedNeeds m c)
  | model {e : NamedSchema} (he : e ∈ r.entries) (htype : c.type = .named e.symbol) :
      IsReadBy r m c (⟨.model, c.type, some e.symbol, none⟩, .ofCompiled c)
  | list {e : NamedSchema} (he : e ∈ r.entries) (htype : c.type = .list (.named e.symbol)) :
      IsReadBy r m c (⟨.list, c.type, some e.symbol, none⟩, .ofCompiled c)

theorem bodyDef_eq_ok {body : RequestBody} {b : BodyDef} (h : bodyDef r hint body = .ok (b, needs)) :
    b.encoding = encodingOf body.contentTypes ∧
      ∃ type, IsBodyType r hint body type needs ∧ b.type = if b.required then type else type.orNone := by
  unfold bodyDef at h
  dsimp only at h
  split at h
  · rename_i hcontent
    cases pure_eq_ok.mp h
    exact ⟨rfl, _, .content hcontent, rfl⟩
  · rename_i hschema hcontent
    cases pure_eq_ok.mp h
    exact ⟨rfl, _, .anything hcontent hschema, rfl⟩
  · rename_i s hschema hcontent
    obtain ⟨c, hc, h⟩ := bind_eq_ok.mp h
    cases pure_eq_ok.mp h
    exact ⟨rfl, _, .compiled hcontent hschema hc, rfl⟩

theorem resultDef_isReadBy {m : Method} {s : Schema} {c : Compiled} (hc : Schema.compile r s hint = .ok c) :
    IsReadBy r m c (resultDef r m s c) := by
  unfold resultDef
  split
  · split
    · exact .adapter
    · rename_i hnull
      obtain ⟨e, he, rfl⟩ := Schema.compileAt_ref hc
      rw [eq_false_of_ne_true hnull, Schema.markNullable_false]
      exact .model (List.mem_of_find?_eq_some he) rfl
  · rename_i marks inner name
    split
    · exact .adapter
    · rename_i hnull
      obtain ⟨hmarks, hinner⟩ : marks.nullable = false ∧ inner.nullable = false := by simpa using hnull
      obtain ⟨c', hc', rfl⟩ := Schema.compileAt_array hc
      obtain ⟨e, he, rfl⟩ := Schema.compileAt_ref hc'
      have hsymbol : symbolOf r name = e.symbol := by rw [symbolOf, he, Option.map_some, Option.getD_some]
      rw [hmarks, hinner, Schema.markNullable_false, Schema.markNullable_false, hsymbol]
      exact .list (List.mem_of_find?_eq_some he) rfl
  · exact .adapter

theorem responseDef_eq_ok {d : ResponseDef} (h : responseDef r hint o = .ok (d, needs)) :
    resultSchema? o.responses = none ∧ d = .nothing ∧ needs = .ofSymbols [] ∨
      ∃ s c, resultSchema? o.responses = some s ∧ Schema.compile r s (hint ++ "Response") = .ok c ∧
        resultDef r o.method s c = (d, needs) := by
  unfold responseDef at h
  split at h
  · rename_i hschema
    cases h
    exact .inl ⟨hschema, rfl, rfl⟩
  · rename_i s hschema
    obtain ⟨c, hc, h⟩ := bind_eq_ok.mp h
    exact .inr ⟨s, c, hschema, hc, pure_eq_ok.mp h⟩

theorem define_cases {d : OperationDef} (h : define r o = .ok (d, needs)) : ∃ declared n body n',
    declaredParams r (hintStart o) [] .start (inOrder o.parameters) = .ok (declared, n) ∧
    o.requestBody.mapM (bodyDef r (hintStart o)) = .ok body ∧
    responseDef r (hintStart o) o = .ok (d.response, n') ∧
    d.Takes o (withPlaceholders r o.path declared) ∧ d.body = body.map Prod.fst ∧
    needs = n ++ (body.map Prod.snd).getD (.ofSymbols []) ++ n' ++
      .ofSymbols (conversions (withPlaceholders r o.path declared) body) := by
  obtain ⟨⟨declared, n⟩, hdeclared, h⟩ := bind_eq_ok.mp h
  obtain ⟨body, hbody, h⟩ := bind_eq_ok.mp h
  obtain ⟨⟨response, n'⟩, hresponse, h⟩ := bind_eq_ok.mp h
  obtain ⟨rfl, rfl⟩ := Prod.mk.inj (pure_eq_ok.mp h)
  exact ⟨declared, n, body, n', hdeclared, hbody, hresponse, ⟨rfl, rfl, rfl, rfl, rfl, rfl, rfl⟩, rfl, rfl⟩

section Gathered

variable {P : Needs → Prop} (hP : Needs.Gathered r o P)

include hP

theorem declaredParams_gathered {done done' : List ParamDef} {needs needs' : Needs} {parameters : List Parameter}
    (h : declaredParams r (hintStart o) done needs parameters = .ok (done', needs')) (hneeds : P needs) :
    P needs' := by
  induction parameters generalizing done needs with
  | nil =>
    cases h
    exact hneeds
  | cons p parameters ih =>
    obtain ⟨c, hc, h⟩ := bind_eq_ok.mp h
    have hplace : s!"{hintStart o}{Naming.pascalCase p.name}Param" =
        hintStart o ++ (Naming.pascalCase p.name ++ "Param") := String.append_assoc ..
    rw [hplace] at hc
    exact ih h (hP.append _ _ hneeds (hP.compiled _ _ c hc))

theorem bodyDef_gathered {body : RequestBody} {b : BodyDef} (h : bodyDef r (hintStart o) body = .ok (b, needs)) :
    P needs := by
  obtain ⟨-, type, htype, -⟩ := bodyDef_eq_ok h
  cases htype with
  | content => exact hP.plain _
  | anything => exact hP.plain _
  | compiled _ _ hc => exact hP.compiled _ _ _ hc

theorem responseDef_gathered {d : ResponseDef} (h : responseDef r (hintStart o) o = .ok (d, needs)) : P needs := by
  obtain ⟨-, -, rfl⟩ | ⟨s, c, -, hc, hresult⟩ := responseDef_eq_ok h
  · exact hP.plain _
  · have hread := hresult ▸ resultDef_isReadBy (m := o.method) hc
    cases hread with
    | adapter => exact hP.adapted _ _ c hc
    | model => exact hP.compiled _ _ c hc
    | list => exact hP.compiled _ _ c hc

theorem define_gathered {d : OperationDef} (h : define r o = .ok (d, needs)) : P needs := by
  obtain ⟨declared, n, body, n', hdeclared, hbody, hresponse, -, -, rfl⟩ := define_cases h
  have hdeclared := declaredParams_gathered hP hdeclared (hP.plain _)
  have hresponse := responseDef_gathered hP hresponse
  have hbody : P ((body.map Prod.snd).getD (Needs.ofSymbols [])) := by
    cases hrequest : o.requestBody with
    | none =>
      rw [hrequest] at hbody
      cases hbody
      exact hP.plain _
    | some request =>
      rw [hrequest, Option.mapM_some] at hbody
      obtain ⟨result, hresult, rfl⟩ := map_eq_ok.mp hbody
      exact bodyDef_gathered hP hresult
  exact hP.append _ _ (hP.append _ _ (hP.append _ _ hdeclared hbody) hresponse) (hP.plain _)

end Gathered

theorem define_eq_ok {d : OperationDef} (h : define r o = .ok (d, needs)) :
    d.name = Route.functionName o.method ∧ d.httpMethod = o.method.wireName ∧
      (∃ argument, d.url = Route.urlExpression o.path argument) ∧ needs.Known r := by
  obtain ⟨declared, n, body, n', -, -, -, htakes, -⟩ := define_cases h
  exact ⟨htakes.name, htakes.httpMethod, ⟨_, htakes.url⟩, define_gathered (Needs.gathered_known r o) h⟩

theorem define_parts {f : OperationDef} (h : define r o = .ok (f, needs)) :
    (∃ needs, responseDef r (hintStart o) o = .ok (f.response, needs)) ∧
      ∀ b ∈ f.body, ∃ body needs, o.requestBody = some body ∧ bodyDef r (hintStart o) body = .ok (b, needs) := by
  obtain ⟨declared, n, made, n', -, hmade, hresponse, -, hf, -⟩ := define_cases h
  refine ⟨⟨n', hresponse⟩, fun b hb => ?_⟩
  rw [hf] at hb
  obtain ⟨⟨b', n⟩, rfl, rfl⟩ := Option.map_eq_some_iff.mp hb
  cases hrequest : o.requestBody with
  | none =>
    rw [hrequest] at hmade
    cases hmade
  | some body =>
    rw [hrequest, Option.mapM_some] at hmade
    obtain ⟨result, hresult, hsome⟩ := map_eq_ok.mp hmade
    cases hsome
    exact ⟨body, n, rfl, hresult⟩

end Request

namespace Package

theorem nodeParts_eq_ok {r : Registry} {n : RouteNode} {p : NodeParts} (h : nodeParts r n = .ok p) :
    List.Forall₂ (fun o d => Request.define r o = .ok d) n.operations p.definitions := by
  obtain ⟨definitions, hdefinitions, rfl⟩ := map_eq_ok.mp h
  exact forall₂_of_mapM hdefinitions

theorem get?_of_mem_refs {r : Registry} {n : RouteNode} {p : NodeParts} (h : nodeParts r n = .ok p) {x : String}
    (hx : x ∈ p.refs) : (r.get? x).isSome := by
  rw [NodeParts.refs, List.mem_eraseDups, List.mem_flatMap] at hx
  obtain ⟨⟨d, needs⟩, hd, hx⟩ := hx
  obtain ⟨o, -, ho⟩ := exists_left_of_mem (nodeParts_eq_ok h) hd
  obtain ⟨-, -, -, hknown⟩ := Request.define_eq_ok ho
  exact hknown x hx

end Package

end ClientForge
