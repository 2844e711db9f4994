import ClientForge.Api.Reading
import ClientForge.Proofs.Outcomes

namespace ClientForge

open Outcome

namespace Document

def entriesOrNone (d : Document) : Entries :=
  match d.opened with
  | .map entries => entries
  | _ => []

theorem entriesOrNone_of_entries {d : Document} {entries : Entries} (h : d.entries = .ok entries) :
    d.entriesOrNone = entries := by
  unfold Document.entries at h
  unfold entriesOrNone
  cases hopened : d.opened with
  | map fields =>
    rw [hopened] at h
    exact Except.ok.inj h
  | _ =>
    rw [hopened] at h
    cases h

theorem entriesOrNone_of_not_isGiven {d : Document} (h : ¬d.isGiven) : d.entriesOrNone = [] := by
  unfold entriesOrNone
  cases d <;> simp_all [opened, isGiven]

theorem entriesOrNone_of_givenEntries {d : Document} {entries : Entries} (h : d.givenEntries = .ok entries) :
    d.entriesOrNone = entries := by
  unfold givenEntries at h
  split at h
  · exact entriesOrNone_of_entries h
  · rename_i hgiven
    cases h
    exact entriesOrNone_of_not_isGiven hgiven

theorem mem_of_givenItems {d : Document} {items : List Document} (h : d.givenItems = .ok items) {e : Scalar × Document}
    (he : e ∈ d.entriesOrNone) : .scalar e.1 ∈ items := by
  unfold givenItems at h
  split at h
  · unfold Document.items at h
    unfold entriesOrNone at he
    split at he
    · rename_i hopened
      rw [hopened] at h
      cases h
      exact List.mem_map_of_mem he
    · cases he
  · rename_i hgiven
    rw [entriesOrNone_of_not_isGiven hgiven] at he
    cases he

end Document

structure OperationPlace where
  path : Scalar
  method : Method
  ofPath : Document
  fields : Entries

namespace Operation

variable {path ofPath : Document} {method : Method} {fields : Entries} {o : Operation} {operations : List Operation}

structure IsReadFrom (path : Document) (method : Method) (ofPath : Document) (fields : Entries) (o : Operation) :
    Prop where
  path : path.displayed = .ok o.path
  method : o.method = method
  parameters : ∃ shared own merged, Parameter.mappings ofPath = .ok shared ∧
    Parameter.mappings (Document.field fields "parameters") = .ok own ∧ Parameter.merge shared own = .ok merged ∧
    Parameter.ofList merged = .ok o.parameters
  requestBody : RequestBody.ofDocument (Document.field fields "requestBody") = .ok o.requestBody
  responses : ∃ given, (Document.field fields "responses").givenEntries = .ok given ∧
    Response.ofEntries given = .ok o.responses

theorem isReadFrom_of_ofEntries (h : ofEntries path method ofPath fields = .ok o) :
    IsReadFrom path method ofPath fields o := by
  obtain ⟨own, hown, h⟩ := bind_eq_ok.mp h
  obtain ⟨shared, hshared, h⟩ := bind_eq_ok.mp h
  obtain ⟨merged, hmerged, h⟩ := bind_eq_ok.mp h
  obtain ⟨path', hpath, h⟩ := bind_eq_ok.mp h
  obtain ⟨tags, -, h⟩ := bind_eq_ok.mp h
  obtain ⟨parameters, hparameters, h⟩ := bind_eq_ok.mp h
  obtain ⟨body, hbody, h⟩ := bind_eq_ok.mp h
  obtain ⟨given, hgiven, h⟩ := bind_eq_ok.mp h
  obtain ⟨responses, hresponses, h⟩ := bind_eq_ok.mp h
  split at h
  · cases pure_eq_ok.mp h
    exact ⟨liftM_eq_ok.mp hpath, rfl, ⟨shared, own, merged, liftM_eq_ok.mp hshared, liftM_eq_ok.mp hown,
      liftM_eq_ok.mp hmerged, hparameters⟩, hbody, ⟨given, liftM_eq_ok.mp hgiven, hresponses⟩⟩
  · cases h

def places (paths : Entries) : List OperationPlace :=
  paths.mappings.flatMap fun (path, item) => (item.filterMap fun (k, d) => keyed? k d).map fun (method, fields) =>
    ⟨path, method, Document.field item "parameters", fields⟩

def IsAt (p : OperationPlace) (o : Operation) : Prop := ofEntries (.scalar p.path) p.method p.ofPath p.fields = .ok o

theorem ofPathItem_places {path : Scalar} {item : Entries} (h : ofPathItem (.scalar path) item = .ok operations) :
    List.Forall₂ IsAt ((item.filterMap fun (k, d) => keyed? k d).map fun (method, fields) =>
      (⟨path, method, Document.field item "parameters", fields⟩ : OperationPlace)) operations := by
  rw [List.forall₂_map_left_iff]
  exact forall₂_of_mapM h

theorem ofPaths_places {paths : Entries} (h : ofPaths paths = .ok operations) :
    List.Forall₂ IsAt (places paths) operations := by
  obtain ⟨lists, hlists, h⟩ := bind_eq_ok.mp h
  rw [← pure_eq_ok.mp h, places, List.flatMap_def]
  apply List.rel_flatten
  rw [List.forall₂_map_left_iff]
  exact (forall₂_of_mapM hlists).imp fun _ _ hitem => ofPathItem_places hitem

end Operation

def Document.operationPlaces (d : Document) : List OperationPlace :=
  Operation.places (field d.entriesOrNone "paths").entriesOrNone

theorem Api.exists_places {version : String} {d : Document} {api : Api} (h : ofDocument version d = .ok api) :
    ∃ resolved, d.resolve [schemaReferenceStart] = .ok resolved ∧
      List.Forall₂ Operation.IsAt resolved.operationPlaces api.operations := by
  obtain ⟨resolved, hresolved, h⟩ := bind_eq_ok.mp h
  obtain ⟨entries, hentries, h⟩ := bind_eq_ok.mp h
  obtain ⟨info, -, h⟩ := bind_eq_ok.mp h
  obtain ⟨servers, -, h⟩ := bind_eq_ok.mp h
  obtain ⟨paths, hpaths, h⟩ := bind_eq_ok.mp h
  obtain ⟨operations, hoperations, h⟩ := bind_eq_ok.mp h
  obtain ⟨components, -, h⟩ := bind_eq_ok.mp h
  obtain ⟨schemas, -, h⟩ := bind_eq_ok.mp h
  cases pure_eq_ok.mp h
  refine ⟨resolved, hresolved, ?_⟩
  rw [Document.operationPlaces, Document.entriesOrNone_of_entries (liftM_eq_ok.mp hentries),
    Document.entriesOrNone_of_givenEntries (liftM_eq_ok.mp hpaths)]
  exact Operation.ofPaths_places hoperations

end ClientForge
