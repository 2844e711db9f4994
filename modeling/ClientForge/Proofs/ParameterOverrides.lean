import ClientForge.Proofs.Lists
import ClientForge.Proofs.OperationParts

/-!
The parameters of a path beside those of an operation on it. They are told apart by what stands in the document and not
by what is read from it, and the two ways do not always agree.
-/

namespace ClientForge

open Outcome

theorem ParameterLocation.name_of_ofName? {name : String} {location : ParameterLocation}
    (h : ofName? name = some location) : location.name = name := by
  have hfound := List.find?_some h
  exact of_decide_eq_true hfound

namespace Parameter

variable {α : Type} {e q : Entries} {p : Parameter} {shared own merged : List Entries} {ps : List Parameter}

def IsReadFrom (e : Entries) (p : Parameter) : Prop :=
  ∃ location, locationOf? e = some location ∧ ofEntries location e = .ok p

def isPlaced (e : Entries) : Bool := (locationOf? e).isSome

def identity? (e : Entries) : Option (String × ParameterLocation) :=
  (locationOf? e).map (((Entries.get? e "name").getD (.text "")).display, ·)

def slot? (e : Entries) : Option (List Key × List Key) := (slot e).toOption

/-- A parameter of a path counts for an operation if it has a known place and none of the operation has its mark. -/
def Counts (mark : Entries → Option α) (own : List Entries) (e : Entries) : Prop :=
  isPlaced e = true ∧ ∀ q ∈ own, mark q ≠ mark e

instance [DecidableEq α] (mark : Entries → Option α) (own : List Entries) (e : Entries) :
    Decidable (Counts mark own e) := inferInstanceAs (Decidable (_ ∧ _))

def mergedBy [DecidableEq α] (mark : Entries → Option α) (shared own : List Entries) : List Entries :=
  (shared.filter fun e => Counts mark own e) ++ own.filter isPlaced

theorem ofEntries_name {location : ParameterLocation} (h : ofEntries location e = .ok p) :
    p.name = ((Entries.get? e "name").getD (.text "")).display ∧ p.location = location := by
  obtain ⟨source, -, h⟩ := bind_eq_ok.mp h
  obtain ⟨name, hname, h⟩ := bind_eq_ok.mp h
  obtain ⟨schema, -, h⟩ := bind_eq_ok.mp h
  have hname := liftM_eq_ok.mp hname
  unfold Document.displayed at hname
  split at hname <;> cases hname
  split at h
  · cases h
  · cases pure_eq_ok.mp h
    exact ⟨rfl, rfl⟩

theorem IsReadFrom.identity?_eq (h : IsReadFrom e p) : identity? e = some (p.name, p.location) := by
  obtain ⟨location, hlocation, h⟩ := h
  obtain ⟨hname, rfl⟩ := ofEntries_name h
  rw [identity?, hlocation, hname, Option.map_some]

theorem map_identity? {l : List Entries} (h : List.Forall₂ IsReadFrom l ps) :
    l.map identity? = ps.map fun p => some (p.name, p.location) := by
  rw [← List.forall₂_eq_eq_eq, List.forall₂_map_left_iff, List.forall₂_map_right_iff]
  exact h.imp fun _ _ hread => hread.identity?_eq

theorem ofList_eq_ok {l : List Entries} (h : ofList l = .ok ps) : List.Forall₂ IsReadFrom (l.filter isPlaced) ps := by
  induction l generalizing ps with
  | nil =>
    cases h
    exact .nil
  | cons e l ih =>
    unfold ofList at h
    split at h
    · rename_i hlocation
      rw [List.filter_cons_of_neg (by simp [isPlaced, hlocation])]
      exact ih h
    · rename_i location hlocation
      obtain ⟨p, hp, h⟩ := bind_eq_ok.mp h
      obtain ⟨rest, hrest, h⟩ := bind_eq_ok.mp h
      cases pure_eq_ok.mp h
      rw [List.filter_cons_of_pos (by simp [isPlaced, hlocation])]
      exact .cons ⟨location, hlocation, hp⟩ (ih hrest)

theorem slot?_eq_some {s : List Key × List Key} : slot? e = some s ↔ slot e = .ok s := by
  unfold slot?
  cases slot e <;> simp [Except.toOption]

theorem merge_eq_ok (h : merge shared own = .ok merged) :
    merged = (shared.filter fun e => ∀ q ∈ own, slot? q ≠ slot? e) ++ own := by
  obtain ⟨taken, htaken, h⟩ := bind_eq_ok.mp h
  obtain ⟨kept, hkept, h⟩ := bind_eq_ok.mp h
  have hslots : own.map slot? = taken.map some := by
    rw [← List.forall₂_eq_eq_eq, List.forall₂_map_left_iff, List.forall₂_map_right_iff]
    exact (forall₂_of_mapM htaken).imp fun _ _ hslot => slot?_eq_some.mpr hslot
  rw [← pure_eq_ok.mp h]
  congr 1
  apply filterM_eq_ok (fun e _ b hb => ?_) hkept
  obtain ⟨s, hs, hb⟩ := bind_eq_ok.mp hb
  rw [← pure_eq_ok.mp hb, Bool.eq_iff_iff, decide_eq_true_iff, ← List.forall_mem_map (P := (· ≠ slot? e)), hslots,
    slot?_eq_some.mpr hs]
  simp only [List.forall_mem_map, ne_eq, Option.some.injEq, Bool.not_eq_true', ← Bool.not_eq_true,
    List.contains_iff_mem]
  exact ⟨fun hnot t ht heq => hnot (heq ▸ ht), fun hnot hmem => hnot s hmem rfl⟩

theorem isReadFrom_merged (hmerged : merge shared own = .ok merged) (h : ofList merged = .ok ps) :
    List.Forall₂ IsReadFrom (mergedBy slot? shared own) ps := by
  have hlist : mergedBy slot? shared own = merged.filter isPlaced := by
    rw [merge_eq_ok hmerged, List.filter_append, List.filter_filter, mergedBy]
    congr 1
    refine List.filter_congr fun e _ => ?_
    rw [Bool.eq_iff_iff, decide_eq_true_iff, Bool.and_eq_true, decide_eq_true_iff, Counts]
  rw [hlist]
  exact ofList_eq_ok h

theorem counts_identity?_congr {e' : Entries} (h : identity? e = identity? e') :
    Counts identity? own e ↔ Counts identity? own e' := by
  have hplaced (e : Entries) : isPlaced e = (identity? e).isSome := by rw [identity?, Option.isSome_map, isPlaced]
  rw [Counts, Counts, hplaced, hplaced, h]

theorem counts_iff_counts {β : Type} {mark : Entries → Option α} {mark' : Entries → Option β}
    (he : isPlaced e = true) :
    (Counts mark own e ↔ Counts mark' own e) ↔ ((∃ q ∈ own, mark q = mark e) ↔ ∃ q ∈ own, mark' q = mark' e) := by
  have hcounts {γ : Type} (mark : Entries → Option γ) : Counts mark own e ↔ ¬∃ q ∈ own, mark q = mark e := by
    simp [Counts, he]
  rw [hcounts, hcounts, not_iff_not]

theorem merged_alike_iff (h : List.Forall₂ IsReadFrom (mergedBy slot? shared own) ps) :
    List.Forall₂ IsReadFrom (mergedBy identity? shared own) ps ↔ ∀ e ∈ shared, isPlaced e = true →
      ((∃ q ∈ own, slot? q = slot? e) ↔ ∃ q ∈ own, identity? q = identity? e) := by
  constructor
  · intro h' e he hplaced
    have hmap := (map_identity? h).trans (map_identity? h').symm
    rw [mergedBy, mergedBy, List.map_append, List.map_append] at hmap
    have hsame := filter_eq_of_map (fun a b hab => decide_eq_decide.mpr (counts_identity?_congr hab))
      (List.append_cancel_right hmap)
    have hmem := congrArg (e ∈ ·) hsame
    simp only [List.mem_filter, he, true_and, decide_eq_true_eq, eq_iff_iff] at hmem
    exact (counts_iff_counts hplaced).mp hmem
  · intro halike
    have hsame : mergedBy identity? shared own = mergedBy slot? shared own := by
      rw [mergedBy, mergedBy]
      congr 1
      refine List.filter_congr fun e he => decide_eq_decide.mpr ?_
      by_cases hplaced : isPlaced e = true
      · exact ((counts_iff_counts hplaced).mpr (halike e he hplaced)).symm
      · exact iff_of_false (fun hcounts => hplaced hcounts.1) fun hcounts => hplaced hcounts.1
    rwa [hsame]

def IsStated (e : Entries) : Prop :=
  ∃ name place, Entries.get? e "name" = some (.text name) ∧ Entries.get? e "in" = some (.text place)

theorem IsStated.slot?_eq_iff (he : IsStated e) (hq : IsStated q) (hplaced : isPlaced e = true) :
    slot? q = slot? e ↔ identity? q = identity? e := by
  obtain ⟨name, place, hname, hplace⟩ := he
  obtain ⟨name', place', hname', hplace'⟩ := hq
  obtain ⟨location, hlocation⟩ := Option.isSome_iff_exists.mp hplaced
  have hslot : slot? e = some ([.text name], [.text place]) := by
    rw [slot?_eq_some, slot, hname, hplace]
    rfl
  have hslot' : slot? q = some ([.text name'], [.text place']) := by
    rw [slot?_eq_some, slot, hname', hplace']
    rfl
  have hidentity : identity? e = some (name, location) := by
    rw [identity?, hlocation, hname]
    rfl
  have hidentity' : identity? q = (ParameterLocation.ofName? place').map (name', ·) := by
    rw [identity?, locationOf?, hname', hplace']
    rfl
  rw [locationOf?, hplace] at hlocation
  rw [hslot, hslot', hidentity, hidentity']
  simp only [Option.some.injEq, Prod.mk.injEq, List.cons.injEq, Key.text.injEq, and_true, Option.map_eq_some_iff]
  constructor
  · rintro ⟨rfl, rfl⟩
    exact ⟨location, hlocation, rfl, rfl⟩
  · rintro ⟨_, hlocation', rfl, rfl⟩
    rw [← ParameterLocation.name_of_ofName? hlocation, ← ParameterLocation.name_of_ofName? hlocation']
    exact ⟨rfl, rfl⟩

/-- The parameters of an operation override those of its path: left out are those of the path that are read with the
name and the place of one of the operation. -/
def AreOverridden (shared own : List Entries) (ps : List Parameter) : Prop :=
  List.Forall₂ IsReadFrom (mergedBy identity? shared own) ps

theorem areOverridden_of_isStated (h : List.Forall₂ IsReadFrom (mergedBy slot? shared own) ps)
    (hstated : ∀ e ∈ shared ++ own, IsStated e) : AreOverridden shared own ps := by
  refine (merged_alike_iff h).mpr fun e he hplaced => exists_congr fun q => and_congr_right fun hq => ?_
  exact (hstated e (List.mem_append_left _ he)).slot?_eq_iff (hstated q (List.mem_append_right _ hq)) hplaced

end Parameter

namespace Api

open Parameter

/-- In each operation, the parameters of the path are overridden by name and place as these are read if and only if what
stands in the document tells just the same ones apart, and so wherever all names and places are stated as texts. -/
theorem parameters_overridden_iff {version : String} {d : Document} {api : Api}
    (h : ofDocument version d = .ok api) :
    ∃ resolved, d.resolve [schemaReferenceStart] = .ok resolved ∧
      List.Forall₂ (fun place o => ∃ shared own, mappings place.ofPath = .ok shared ∧
        mappings (Document.field place.fields "parameters") = .ok own ∧
        List.Forall₂ IsReadFrom (mergedBy slot? shared own) o.parameters ∧
        (AreOverridden shared own o.parameters ↔ ∀ e ∈ shared, isPlaced e = true →
          ((∃ q ∈ own, slot? q = slot? e) ↔ ∃ q ∈ own, identity? q = identity? e)) ∧
        ((∀ e ∈ shared ++ own, IsStated e) → AreOverridden shared own o.parameters))
        resolved.operationPlaces api.operations := by
  obtain ⟨resolved, hresolved, hplaces⟩ := exists_places h
  refine ⟨resolved, hresolved, hplaces.imp fun place o hat => ?_⟩
  obtain ⟨shared, own, merged, hshared, hown, hmerged, hread⟩ := (Operation.isReadFrom_of_ofEntries hat).parameters
  have hlist := isReadFrom_merged hmerged hread
  exact ⟨shared, own, hshared, hown, hlist, merged_alike_iff hlist, areOverridden_of_isStated hlist⟩

def limitAndId : List Entries :=
  [[(.text "name", .text "limit"), (.text "in", .text "query")],
    [(.text "name", .text "id"), (.text "in", .text "path")]]

def limitedPlace (own : Entries) : OperationPlace :=
  ⟨.text "/pets/\x7bid\x7d", .get, .list (limitAndId.map .map), [(.text "parameters", .list [.map own])]⟩

def limitedDocument (own : Entries) : Document :=
  .map [(.text "paths", .map [((limitedPlace own).path, .map [(.text "parameters", (limitedPlace own).ofPath),
    (.text "get", .map (limitedPlace own).fields)])])]

theorem parameters_overridden_limit :
    let own : Entries := [(.text "in", .text "query"), (.text "required", .bool true), (.text "name", .text "limit")]
    ∃ api : Api, ofDocument "3.0.3" (limitedDocument own) = .ok api ∧
      (api.operations.map fun o => o.parameters.map fun p => (p.name, p.location, p.required)) =
        [[("id", .path, true), ("limit", .query, true)]] ∧
      ∀ o ∈ api.operations, AreOverridden limitAndId [own] o.parameters := by
  intro own
  have hok : (fun api => api.operations.map fun o => o.parameters.map fun p => (p.name, p.location, p.required)) <$>
      ofDocument "3.0.3" (limitedDocument own) = .ok [[("id", .path, true), ("limit", .query, true)]] := by
    decide +kernel
  obtain ⟨api, hapi, hnames⟩ := map_eq_ok.mp hok
  obtain ⟨resolved, hresolved, hplaces⟩ := parameters_overridden_iff hapi
  have hself : (limitedDocument own).resolve [schemaReferenceStart] = .ok (limitedDocument own) := by rfl
  cases hresolved.symm.trans hself
  refine ⟨api, hapi, hnames, fun o ho => ?_⟩
  obtain ⟨place, hplace, shared, own', hshared, hown, -, -, hstated⟩ := exists_left_of_mem hplaces ho
  cases List.mem_singleton.mp hplace
  have hofPath : mappings (limitedPlace own).ofPath = .ok limitAndId := rfl
  have hfields : mappings (Document.field (limitedPlace own).fields "parameters") = .ok [own] := rfl
  cases hshared.symm.trans hofPath
  cases hown.symm.trans hfields
  apply hstated
  simp only [limitAndId, List.forall_mem_append, List.forall_mem_cons]
  exact ⟨⟨⟨_, _, rfl, rfl⟩, ⟨_, _, rfl, rfl⟩, by simp⟩, ⟨_, _, rfl, rfl⟩, by simp⟩

theorem parameters_doubled :
    let own : Entries := [(.text "name", .text "limit")]
    ∃ (api : Api) (o : Operation), ofDocument "3.0.3" (limitedDocument own) = .ok api ∧ o ∈ api.operations ∧
      Operation.IsAt (limitedPlace own) o ∧
      (o.parameters.map fun p => (p.name, p.location)) = [("limit", .query), ("id", .path), ("limit", .query)] ∧
      ¬AreOverridden limitAndId [own] o.parameters := by
  intro own
  let names : List (String × ParameterLocation) := [("limit", .query), ("id", .path), ("limit", .query)]
  have hok : (fun api => api.operations.map fun o => o.parameters.map fun p => (p.name, p.location)) <$>
      ofDocument "3.0.3" (limitedDocument own) = .ok [names] := by decide +kernel
  obtain ⟨api, hapi, hnames⟩ := map_eq_ok.mp hok
  obtain ⟨o, ho, hparameters⟩ := List.mem_map.mp (hnames ▸ List.mem_singleton_self names)
  obtain ⟨resolved, hresolved, hplaces⟩ := exists_places hapi
  have hself : (limitedDocument own).resolve [schemaReferenceStart] = .ok (limitedDocument own) := by rfl
  cases hresolved.symm.trans hself
  obtain ⟨place, hplace, hat⟩ := exists_left_of_mem hplaces ho
  cases List.mem_singleton.mp hplace
  refine ⟨api, o, hapi, ho, hat, hparameters, fun hoverridden => ?_⟩
  -- Two of the mappings are left to read from, and three parameters were read.
  have hlength := hoverridden.length_eq
  rw [← List.length_map (f := fun p : Parameter => (p.name, p.location)), hparameters] at hlength
  revert hlength
  decide

end Api

end ClientForge
