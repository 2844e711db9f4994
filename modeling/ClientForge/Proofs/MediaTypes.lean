import ClientForge.Proofs.OperationParts
import ClientForge.Proofs.ReferenceChecks

/-!
The media types that the types of a request function come from. A schema stands for a whole content, and it need not be
that of the media type in which the content is sent.
-/

namespace ClientForge

open Outcome

def Scalar.isJson (k : Scalar) : Bool := (Document.scalar k).text?.any (·.mentions "json")

def Scalar.isForm (k : Scalar) : Bool := (Document.scalar k).text?.any (Request.formContentTypes.contains ·)

def Document.media (content : Document) : List (Scalar × Document) := schemasByContent content.entriesOrNone

namespace Media

variable {content d : Document} {media : List (Scalar × Document)} {e : Scalar × Document} {node : Schema}

def taken (media : List (Scalar × Document)) : Option (Scalar × Document) :=
  (media.find? (·.1.isJson)).or media.head?

theorem taken_eq_head? (h : ∀ e ∈ media, e.1.isJson = false) : taken media = media.head? := by
  rw [taken, List.find?_eq_none.mpr fun e he => Bool.not_eq_true _ ▸ h e he, Option.none_or]

theorem taken_eq_none (h : taken media = none) : media = [] :=
  List.head?_eq_none_iff.mp (Option.or_eq_none_iff.mp h).2

theorem mem_of_taken (h : taken media = some e) : e ∈ media := by
  rcases Option.or_eq_some_iff.mp h with hfound | ⟨-, hfirst⟩
  · exact List.mem_of_find?_eq_some hfound
  · exact List.mem_of_mem_head? hfirst

theorem isJson_of_taken (h : taken media = some e) : e.1.isJson = true ↔ ∃ e ∈ media, e.1.isJson = true := by
  refine ⟨fun hjson => ⟨e, mem_of_taken h, hjson⟩, fun hjson => ?_⟩
  rcases Option.or_eq_some_iff.mp h with hfound | ⟨hnone, -⟩
  · exact List.find?_some (p := fun m : Scalar × Document => m.1.isJson) hfound
  · obtain ⟨e', he', hjson⟩ := hjson
    exact absurd hjson (List.find?_eq_none.mp hnone e' he')

theorem firstJson_eq_ok {found : Option Document} (h : firstJson media = .ok found) :
    found = (media.find? (·.1.isJson)).map (·.2) := by
  induction media with
  | nil => exact (Except.ok.inj h).symm
  | cons e media ih =>
    obtain ⟨k, d⟩ := e
    obtain ⟨mentions, hk, h⟩ := bind_eq_ok.mp h
    have hjson : k.isJson = mentions := by
      cases k <;> cases hk
      rfl
    rw [List.find?_cons, hjson]
    cases mentions with
    | true => exact (pure_eq_ok.mp h).symm
    | false => exact ih h

theorem contentSchema_eq_ok (h : contentSchema content = .ok d) :
    d = ((taken content.media).map (·.2)).getD .null := by
  obtain ⟨entries, hentries, h⟩ := bind_eq_ok.mp h
  obtain ⟨found, hfound, h⟩ := bind_eq_ok.mp h
  rw [← pure_eq_ok.mp h, firstJson_eq_ok hfound, Document.media, Document.entriesOrNone_of_givenEntries hentries,
    taken, Option.map_or]

theorem exists_taken (hcontent : contentSchema content = .ok d) (h : optionalSchema d = .ok (some node)) :
    ∃ e, taken content.media = some e ∧ Schema.ofDocument e.2 = .ok node := by
  have hd := contentSchema_eq_ok hcontent
  unfold optionalSchema at h
  split at h
  · cases h
  · rename_i hnull
    obtain ⟨node', hnode, hsome⟩ := map_eq_ok.mp h
    cases hsome
    cases htaken : taken content.media with
    | none =>
      rw [htaken] at hd
      exact absurd (hd ▸ rfl) hnull
    | some e =>
      rw [hd, htaken] at hnode
      exact ⟨e, rfl, hnode⟩

theorem taken_null (hcontent : contentSchema content = .ok d) (h : optionalSchema d = .ok none)
    (htaken : taken content.media = some e) : e.2 = .null := by
  have hd := contentSchema_eq_ok hcontent
  rw [htaken] at hd
  unfold optionalSchema at h
  split at h
  · rename_i hnull
    unfold Document.isNull at hnull
    split at hnull
    · exact hd.symm
    · cases hnull
  · obtain ⟨node, -, hsome⟩ := map_eq_ok.mp h
    cases hsome

end Media

namespace Request

variable {r : Registry} {hint : String} {d : Document} {media : List (Scalar × Document)} {e : Scalar × Document}
  {body : RequestBody} {b : BodyDef} {needs : Needs}

def bodyType (b : BodyDef) (t : TypeExpr) : TypeExpr := if b.required then t else t.orNone

def IsTypedBy (r : Registry) (hint : String) (e : Scalar × Document) (b : BodyDef) : Prop :=
  ∃ node c, Schema.ofDocument e.2 = .ok node ∧ Schema.compile r node (hint ++ "Body") = .ok c ∧
    b.type = bodyType b c.type

def typeBy (r : Registry) (hint : String) (b : BodyDef) (e : Scalar × Document) : Except Failure TypeExpr := do
  let node ← Schema.ofDocument e.2
  let c ← Schema.compile r node (hint ++ "Body")
  return bodyType b c.type

theorem isTypedBy_iff : IsTypedBy r hint e b ↔ typeBy r hint b e = .ok b.type := by
  constructor
  · rintro ⟨node, c, hnode, hc, htype⟩
    exact bind_eq_ok.mpr ⟨node, hnode, bind_eq_ok.mpr ⟨c, hc, congrArg Except.ok htype.symm⟩⟩
  · intro h
    obtain ⟨node, hnode, h⟩ := bind_eq_ok.mp h
    obtain ⟨c, hc, h⟩ := bind_eq_ok.mp h
    exact ⟨node, c, hnode, hc, (pure_eq_ok.mp h).symm⟩

/-- The type of a body is that of the media type whose schema stands for the content, or any without one. -/
def IsTypedByTaken (r : Registry) (hint : String) (media : List (Scalar × Document)) (b : BodyDef) : Prop :=
  (Media.taken media = none ∧ b.type = bodyType b .any) ∨ ∃ e, Media.taken media = some e ∧ IsTypedBy r hint e b

/-- The type of a body is that of a media type in which it may be sent, or any if none of these has a schema. -/
def FitsSent (r : Registry) (hint : String) (sent : Scalar → Bool) (media : List (Scalar × Document)) (b : BodyDef) :
    Prop :=
  (∃ e ∈ media, sent e.1 = true ∧ IsTypedBy r hint e b) ∨
    (∀ e ∈ media, sent e.1 = false) ∧ b.type = bodyType b .any

theorem bodyDef_type (h : bodyDef r hint body = .ok (b, needs)) (hcontent : b.encoding ≠ .content) :
    b.encoding = encodingOf body.contentTypes ∧
      ((body.schema = none ∧ b.type = bodyType b .any) ∨ ∃ node c, body.schema = some node ∧
        Schema.compile r node (hint ++ "Body") = .ok c ∧ b.type = bodyType b c.type) := by
  obtain ⟨hencoding, type, htype, htypes⟩ := bodyDef_eq_ok h
  refine ⟨hencoding, ?_⟩
  cases htype with
  | content hsent => exact absurd (hencoding.trans hsent) hcontent
  | anything _ hnone => exact .inl ⟨hnone, htypes⟩
  | compiled _ hsome hc => exact .inr ⟨_, _, hsome, hc, htypes⟩

theorem isTypedBy_null (hd : e.2 = .null) (h : b.type = bodyType b .any) : IsTypedBy r hint e b := by
  rw [IsTypedBy, hd]
  exact ⟨_, _, rfl, rfl, h⟩

theorem ofDocument_eq_some (h : RequestBody.ofDocument d = .ok (some body)) :
    ∃ raw items, contentSchema (Document.field d.entriesOrNone "content") = .ok raw ∧
      optionalSchema raw = .ok body.schema ∧ (Document.field d.entriesOrNone "content").givenItems = .ok items ∧
      texts? items = some body.contentTypes := by
  unfold RequestBody.ofDocument at h
  cases hopened : d.opened with
  | map fields =>
    have hfields : d.entriesOrNone = fields := by rw [Document.entriesOrNone, hopened]
    rw [hopened] at h
    rw [hfields]
    obtain ⟨items, hitems, h⟩ := bind_eq_ok.mp h
    obtain ⟨raw, hraw, h⟩ := bind_eq_ok.mp h
    obtain ⟨schema, hschema, h⟩ := bind_eq_ok.mp h
    split at h
    · rename_i htypes
      cases pure_eq_ok.mp h
      exact ⟨raw, items, liftM_eq_ok.mp hraw, hschema, liftM_eq_ok.mp hitems, htypes⟩
    · cases h
  | _ =>
    rw [hopened] at h
    cases h

theorem isTypedByTaken_of_bodyDef (hbody : RequestBody.ofDocument d = .ok (some body))
    (h : bodyDef r hint body = .ok (b, needs)) (hcontent : b.encoding ≠ .content) :
    IsTypedByTaken r hint (Document.field d.entriesOrNone "content").media b := by
  obtain ⟨raw, items, hraw, hschema, -⟩ := ofDocument_eq_some hbody
  obtain ⟨-, ⟨hnone, htype⟩ | ⟨node, c, hsome, hc, htype⟩⟩ := bodyDef_type h hcontent
  · rw [hnone] at hschema
    cases htaken : Media.taken (Document.field d.entriesOrNone "content").media with
    | none => exact .inl ⟨htaken, htype⟩
    | some e => exact .inr ⟨e, htaken, isTypedBy_null (Media.taken_null hraw hschema htaken) htype⟩
  · rw [hsome] at hschema
    obtain ⟨e, htaken, hnode⟩ := Media.exists_taken hraw hschema
    exact .inr ⟨e, htaken, node, c, hnode, hc, htype⟩

theorem exists_contentType {content : Document} {items : List Document} {contentTypes : List String}
    (hitems : content.givenItems = .ok items) (htexts : texts? items = some contentTypes) (he : e ∈ content.media) :
    ∃ text ∈ contentTypes, (Document.scalar e.1).text? = some text := by
  obtain ⟨⟨k, fields⟩, hmapping, hschema⟩ := List.mem_filterMap.mp he
  obtain ⟨⟨k', d⟩, hentry, hfields⟩ := List.mem_filterMap.mp hmapping
  obtain ⟨schema, -, rfl⟩ := Option.map_eq_some_iff.mp hschema
  dsimp only at hfields
  split at hfields
  · cases hfields
    have hkey := Document.mem_of_givenItems hitems hentry
    exact exists_right_of_mem (forall₂_of_mapM_some htexts) hkey
  · cases hfields

theorem not_mentions_of_encodingOf {contentTypes : List String} (h : encodingOf contentTypes = .form) :
    ∀ text ∈ contentTypes, text.mentions "json" = false := by
  unfold encodingOf at h
  split at h
  · cases h
  · rename_i hjson
    simp only [Bool.or_eq_true, List.any_eq_true, not_or, not_exists, not_and, Bool.not_eq_true] at hjson
    exact hjson.2

theorem eq_type_of_head? (hjson : ∀ e ∈ media, e.1.isJson = false) (h : IsTypedByTaken r hint media b)
    (hfirst : media.head? = some e) : typeBy r hint b e = .ok b.type := by
  rw [IsTypedByTaken, Media.taken_eq_head? hjson, hfirst] at h
  obtain ⟨hnone, -⟩ | ⟨e', hsome, htyped⟩ := h
  · cases hnone
  · cases hsome
    exact isTypedBy_iff.mp htyped

theorem eq_any_of_head? (h : IsTypedByTaken r hint media b) (hnone : media.head? = none) :
    b.type = bodyType b .any := by
  obtain ⟨-, htype⟩ | ⟨e, htaken, -⟩ := h
  · exact htype
  · rw [List.head?_eq_none_iff.mp hnone] at htaken
    cases htaken

theorem fitsSent_json_iff (h : IsTypedByTaken r hint media b) :
    FitsSent r hint Scalar.isJson media b ↔ (∃ e ∈ media, e.1.isJson = true) ∨
      ∀ first ∈ media.head?, typeBy r hint b first = .ok (bodyType b .any) := by
  by_cases hjson : ∃ e ∈ media, e.1.isJson = true
  · refine ⟨fun _ => .inl hjson, fun _ => ?_⟩
    obtain ⟨hnone, -⟩ | ⟨e, htaken, htyped⟩ := h
    · rw [Media.taken_eq_none hnone] at hjson
      simp at hjson
    · exact .inl ⟨e, Media.mem_of_taken htaken, (Media.isJson_of_taken htaken).mpr hjson, htyped⟩
  · have hnone : ∀ e ∈ media, e.1.isJson = false := by simpa using hjson
    rw [FitsSent, or_iff_right hjson, or_iff_right (fun ⟨e, he, hjson', _⟩ => hjson ⟨e, he, hjson'⟩),
      and_iff_right hnone]
    cases hfirst : media.head? with
    | none => simp [eq_any_of_head? h hfirst]
    | some first => simp [eq_type_of_head? hnone h hfirst]

theorem fitsSent_form_iff (hjson : ∀ e ∈ media, e.1.isJson = false) (h : IsTypedByTaken r hint media b) :
    FitsSent r hint Scalar.isForm media b ↔ ∀ first ∈ media.head?, first.1.isForm = true ∨
      (∃ e ∈ media, e.1.isForm = true ∧ typeBy r hint b e = typeBy r hint b first) ∨
      (∀ e ∈ media, e.1.isForm = false) ∧ typeBy r hint b first = .ok (bodyType b .any) := by
  cases hfirst : media.head? with
  | none =>
    have hempty := List.head?_eq_none_iff.mp hfirst
    simp [FitsSent, hempty, eq_any_of_head? h hfirst]
  | some first =>
    have htype := eq_type_of_head? hjson h hfirst
    simp only [FitsSent, isTypedBy_iff, Option.mem_some_iff, forall_eq', htype, Except.ok.injEq]
    refine ⟨.inr, fun hcases => hcases.elim (fun hform => ?_) id⟩
    exact .inl ⟨first, List.mem_of_mem_head? hfirst, hform, htype⟩

end Request

def Response.isResult (a : Response) : Bool := a.isSuccess && a.isJson && a.schema.isSome

namespace OperationPlace

def bodyMedia (p : OperationPlace) : List (Scalar × Document) :=
  (Document.field (Document.field p.fields "requestBody").entriesOrNone "content").media

def answers (p : OperationPlace) : List (Scalar × Entries) :=
  (Document.field p.fields "responses").entriesOrNone.mappings

end OperationPlace

namespace Request

variable {r : Registry} {place : OperationPlace} {o : Operation} {f : OperationDef} {needs : Needs} {node : Schema}
  {responses : List Response}

theorem resultSchema?_eq_some (h : resultSchema? responses = some node) :
    ∃ a, responses.find? (·.isResult) = some a ∧ a.schema = some node := by
  induction responses with
  | nil => cases h
  | cons a responses ih =>
    rw [resultSchema?_cons] at h
    rw [List.find?_cons, Response.isResult]
    split at h
    · rename_i hresult
      rw [hresult]
      exact ⟨a, rfl, h⟩
    · rename_i hresult
      rw [eq_false_of_ne_true hresult]
      exact ih h

theorem responseDef_kind {hint : String} {d : ResponseDef} (h : responseDef r hint o = .ok (d, needs))
    (hkind : d.kind ≠ .none) : ∃ node c, resultSchema? o.responses = some node ∧
      Schema.compile r node (hint ++ "Response") = .ok c ∧ d = (resultDef r o.method node c).1 := by
  obtain ⟨-, rfl, -⟩ | ⟨node, c, hnode, hc, hresult⟩ := responseDef_eq_ok h
  · exact absurd rfl hkind
  · exact ⟨node, c, hnode, hc, (congrArg Prod.fst hresult).symm⟩

theorem ofFields_eq_ok {status : Document} {fields : Entries} {a : Response}
    (h : Response.ofFields status fields = .ok a) : ∃ raw, contentSchema (Document.field fields "content") = .ok raw ∧
      optionalSchema raw = .ok a.schema := by
  obtain ⟨status', -, h⟩ := bind_eq_ok.mp h
  obtain ⟨items, -, h⟩ := bind_eq_ok.mp h
  obtain ⟨raw, hraw, h⟩ := bind_eq_ok.mp h
  obtain ⟨schema, hschema, h⟩ := bind_eq_ok.mp h
  split at h
  · cases pure_eq_ok.mp h
    exact ⟨raw, liftM_eq_ok.mp hraw, hschema⟩
  · cases h

theorem exists_answer (hat : Operation.IsAt place o) (h : define r o = .ok (f, needs))
    (hkind : f.response.kind ≠ .none) : ∃ answer a e node c,
      (place.answers.zip o.responses).find? (·.2.isResult) = some (answer, a) ∧
      Response.ofFields (.scalar answer.1) answer.2 = .ok a ∧
      Media.taken (Document.field answer.2 "content").media = some e ∧ Schema.ofDocument e.2 = .ok node ∧
      Schema.compile r node (hintStart o ++ "Response") = .ok c ∧ f.response = (resultDef r o.method node c).1 := by
  obtain ⟨given, hgiven, hresponses⟩ := (Operation.isReadFrom_of_ofEntries hat).responses
  obtain ⟨⟨needs', hresponse⟩, -⟩ := define_parts h
  obtain ⟨node, c, hnode, hc, hf⟩ := responseDef_kind hresponse hkind
  obtain ⟨a, hfirst, hschema⟩ := resultSchema?_eq_some hnode
  have hread := forall₂_of_mapM hresponses
  rw [← Document.entriesOrNone_of_givenEntries hgiven] at hread
  obtain ⟨answer, hfound, ha⟩ := exists_find?_zip hread hfirst
  obtain ⟨raw, hraw, hoptional⟩ := ofFields_eq_ok ha
  rw [hschema] at hoptional
  obtain ⟨e, htaken, he⟩ := Media.exists_taken hraw hoptional
  exact ⟨answer, a, e, node, c, hfound, ha, htaken, he, hc, hf⟩

def IsOfJson (media : List (Scalar × Document)) (node : Schema) : Prop :=
  ∃ m ∈ media, m.1.isJson = true ∧ Schema.ofDocument m.2 = .ok node

theorem isOfJson_iff {media : List (Scalar × Document)} {e : Scalar × Document} (htaken : Media.taken media = some e)
    (hnode : Schema.ofDocument e.2 = .ok node) : IsOfJson media node ↔ ∃ m ∈ media, m.1.isJson = true := by
  constructor
  · rintro ⟨m, hm, hjson, -⟩
    exact ⟨m, hm, hjson⟩
  · intro hjson
    exact ⟨e, Media.mem_of_taken htaken, (Media.isJson_of_taken htaken).mpr hjson, hnode⟩

/-- What is known of the type of a body: the media type it is made from, and which media types make it one of those in
which it is sent. -/
structure BodyIsMade (r : Registry) (hint : String) (media : List (Scalar × Document)) (b : BodyDef) : Prop where
  taken : b.encoding ≠ .content → IsTypedByTaken r hint media b
  json : b.encoding = .json →
    (FitsSent r hint Scalar.isJson media b ↔ (∃ e ∈ media, e.1.isJson = true) ∨
      ∀ first ∈ media.head?, typeBy r hint b first = .ok (bodyType b .any))
  form : b.encoding = .form →
    (FitsSent r hint Scalar.isForm media b ↔ ∀ first ∈ media.head?, first.1.isForm = true ∨
      (∃ e ∈ media, e.1.isForm = true ∧ typeBy r hint b e = typeBy r hint b first) ∨
      (∀ e ∈ media, e.1.isForm = false) ∧ typeBy r hint b first = .ok (bodyType b .any))

theorem bodyIsMade (hat : Operation.IsAt place o) (h : define r o = .ok (f, needs)) {b : BodyDef} (hb : b ∈ f.body) :
    BodyIsMade r (hintStart o) place.bodyMedia b := by
  obtain ⟨body, needs', hrequest, hmade⟩ := (define_parts h).2 b hb
  have hbody := (Operation.isReadFrom_of_ofEntries hat).requestBody
  rw [hrequest] at hbody
  have htaken (hcontent : b.encoding ≠ .content) := isTypedByTaken_of_bodyDef hbody hmade hcontent
  refine ⟨htaken, fun hjson => fitsSent_json_iff (htaken (by simp [hjson])), fun hform => ?_⟩
  refine fitsSent_form_iff (fun e he => ?_) (htaken (by simp [hform]))
  obtain ⟨raw, items, -, -, hitems, htexts⟩ := ofDocument_eq_some hbody
  obtain ⟨text, hmem, htext⟩ := exists_contentType hitems htexts he
  have hencoding := (bodyDef_type hmade (by simp [hform])).1
  rw [Scalar.isJson, htext, Option.any_some]
  exact not_mentions_of_encodingOf (hencoding ▸ hform) text hmem

end Request

namespace Api

open Request

/-- Of each operation the response is typed by JSON just where a media type in JSON has a schema, and the body by what
is sent just where the media type whose schema stands for the content is one of those that are sent, or no schema tells
the two apart. -/
theorem types_sent_iff {version : String} {d : Document} {api : Api} (h : ofDocument version d = .ok api) :
    ∃ resolved, d.resolve [schemaReferenceStart] = .ok resolved ∧
      List.Forall₂ (fun place o => ∀ f needs, define api.schemas o = .ok (f, needs) →
        (f.response.kind ≠ .none → ∃ answer a node c,
          (place.answers.zip o.responses).find? (·.2.isResult) = some (answer, a) ∧
          Response.ofFields (.scalar answer.1) answer.2 = .ok a ∧
          Schema.compile api.schemas node (hintStart o ++ "Response") = .ok c ∧
          f.response = (resultDef api.schemas o.method node c).1 ∧
          (∃ e, Media.taken (Document.field answer.2 "content").media = some e ∧ Schema.ofDocument e.2 = .ok node) ∧
          (IsOfJson (Document.field answer.2 "content").media node ↔
            ∃ m ∈ (Document.field answer.2 "content").media, m.1.isJson = true)) ∧
        ∀ b ∈ f.body, BodyIsMade api.schemas (hintStart o) place.bodyMedia b)
        resolved.operationPlaces api.operations := by
  obtain ⟨resolved, hresolved, hplaces⟩ := exists_places h
  refine ⟨resolved, hresolved, hplaces.imp fun place o hat f needs hf => ⟨fun hkind => ?_, fun b hb => ?_⟩⟩
  · obtain ⟨answer, a, e, node, c, hfound, ha, htaken, hnode, hc, hresponse⟩ := exists_answer hat hf hkind
    exact ⟨answer, a, node, c, hfound, ha, hc, hresponse, ⟨e, htaken, hnode⟩, isOfJson_iff htaken hnode⟩
  · exact bodyIsMade hat hf hb

def exchangeDocument (sent answered : Entries) : Document :=
  .map [(.text "paths", .map [(.text "/pets", .map [(.text "post", .map [
    (.text "requestBody", .map [(.text "content", .map sent)]),
    (.text "responses", .map [(.text "404", .map []), (.text "200", .map [(.text "content", .map answered)])])])])])]

def ofType (type : String) : Document := .map [(.text "schema", .map [(.text "type", .text type)])]

def exchangeTypes (d : Document) : Except Failure (List ((String × Option (Encoding × String)) × Bool)) := do
  let api ← ofDocument "3.0.3" d
  api.operations.mapM fun o => do
    let (f, _) ← define api.schemas o
    return ((f.response.type.text, f.body.map fun b => (b.encoding, b.type.text)), f.response.kind = .none)

theorem exists_exchange {result type : String} {d : Document} {encoding : Encoding}
    (h : exchangeTypes d = .ok [((result, some (encoding, type)), false)]) :
    ∃ api o f needs b, ofDocument "3.0.3" d = .ok api ∧ o ∈ api.operations ∧
      define api.schemas o = .ok (f, needs) ∧ f.response.kind ≠ .none ∧ f.response.type.text = result ∧ b ∈ f.body ∧
      b.encoding = encoding ∧ b.type.text = type := by
  obtain ⟨api, hapi, hmade⟩ := bind_eq_ok.mp h
  obtain ⟨o, ho, hmade⟩ := exists_of_mem_mapM hmade (List.mem_singleton_self _)
  obtain ⟨⟨f, needs⟩, hf, hmade⟩ := bind_eq_ok.mp hmade
  obtain ⟨htexts, hkind⟩ := Prod.mk.inj (pure_eq_ok.mp hmade)
  obtain ⟨hresult, hbody⟩ := Prod.mk.inj htexts
  obtain ⟨b, hb, hbody⟩ := Option.map_eq_some_iff.mp hbody
  obtain ⟨hencoding, htype⟩ := Prod.mk.inj hbody
  exact ⟨api, o, f, needs, b, hapi, ho, hf, of_decide_eq_false hkind, hresult, hb, hencoding, htype⟩

theorem types_sent_both :
    let sent : Entries := [(.text "application/xml", .map []), (.text "multipart/form-data", ofType "boolean")]
    let answered : Entries :=
      [(.text "text/plain", ofType "string"), (.text "application/problem+json", ofType "number")]
    ∃ (api : Api) (o : Operation) (f : OperationDef) (needs : Needs) (b : BodyDef) (node : Schema) (c : Compiled),
      ofDocument "3.0.3" (exchangeDocument sent answered) = .ok api ∧ o ∈ api.operations ∧
      define api.schemas o = .ok (f, needs) ∧ f.response.kind ≠ .none ∧ f.response.type.text = "float" ∧
      f.response = (resultDef api.schemas o.method node c).1 ∧ IsOfJson (Document.map answered).media node ∧
      b ∈ f.body ∧ b.encoding = .form ∧ b.type.text = "Optional[bool]" ∧
      FitsSent api.schemas (hintStart o) Scalar.isForm (Document.map sent).media b := by
  intro sent answered
  have hmade : exchangeTypes (exchangeDocument sent answered) =
      .ok [(("float", some (.form, "Optional[bool]")), false)] := by decide +kernel
  obtain ⟨api, o, f, needs, b, hapi, ho, hf, hkind, hresult, hb, hencoding, htype⟩ := exists_exchange hmade
  obtain ⟨resolved, hresolved, hplaces⟩ := types_sent_iff hapi
  have hself : (exchangeDocument sent answered).resolve [schemaReferenceStart] =
      .ok (exchangeDocument sent answered) := by rfl
  cases hresolved.symm.trans hself
  obtain ⟨place, hplace, htyped⟩ := exists_left_of_mem hplaces ho
  cases List.mem_singleton.mp hplace
  obtain ⟨hresponse, hbodies⟩ := htyped f needs hf
  obtain ⟨answer, a, node, c, hfound, -, -, hfrom, ⟨e, htaken, -⟩, hjson⟩ := hresponse hkind
  have hanswer := (List.of_mem_zip (List.mem_of_find?_eq_some hfound)).1
  refine ⟨api, o, f, needs, b, node, c, hapi, ho, hf, hkind, hresult, hfrom, ?_, hb, hencoding, htype, ?_⟩
  · rcases List.mem_pair.mp hanswer with rfl | rfl
    · cases htaken
    · exact hjson.mpr ⟨_, List.mem_cons_of_mem _ List.mem_cons_self, by decide +kernel⟩
  · refine ((hbodies b hb).form hencoding).mpr ?_
    rintro first ⟨⟩
    exact .inl (by decide +kernel)

theorem types_sent_crossed :
    let sent : Entries := [(.text "application/xml", ofType "string"), (.text "multipart/form-data", ofType "boolean")]
    let answered : Entries := [(.text "application/json", .map []), (.text "text/plain", ofType "string")]
    ∃ (api : Api) (o : Operation) (f : OperationDef) (needs : Needs) (b : BodyDef),
      ofDocument "3.0.3" (exchangeDocument sent answered) = .ok api ∧ o ∈ api.operations ∧
      define api.schemas o = .ok (f, needs) ∧ f.response.kind ≠ .none ∧ f.response.type.text = "str" ∧
      (∀ node, ¬IsOfJson (Document.map answered).media node) ∧
      b ∈ f.body ∧ b.encoding = .form ∧ b.type.text = "Optional[str]" ∧
      ¬FitsSent api.schemas (hintStart o) Scalar.isForm (Document.map sent).media b := by
  intro sent answered
  have hmade : exchangeTypes (exchangeDocument sent answered) =
      .ok [(("str", some (.form, "Optional[str]")), false)] := by decide +kernel
  obtain ⟨api, o, f, needs, b, hapi, ho, hf, hkind, hresult, hb, hencoding, htype⟩ := exists_exchange hmade
  refine ⟨api, o, f, needs, b, hapi, ho, hf, hkind, hresult, ?_, hb, hencoding, htype, ?_⟩
  · rintro node ⟨m, hm, hjson, -⟩
    cases List.mem_singleton.mp hm
    revert hjson
    decide +kernel
  · rintro (⟨e, he, hform, node, c, hnode, hc, htyped⟩ | ⟨hnone, -⟩)
    · rcases List.mem_pair.mp he with rfl | rfl
      · revert hform
        decide +kernel
      · cases hnode
        cases hc
        rw [htyped, bodyType] at htype
        revert htype
        split <;> decide +kernel
    · have hform := hnone _ (List.mem_cons_of_mem _ List.mem_cons_self)
      revert hform
      decide +kernel

end Api

end ClientForge
