import ClientForge.Proofs.Lists
import ClientForge.Proofs.FieldNames
import ClientForge.Proofs.Placeholders
import ClientForge.Proofs.Requests

/-!
The arguments of a request function: one for each parameter of its operation and one for each placeholder that no
parameter is declared for, all of different names.
-/

namespace ClientForge

open Naming Outcome

structure Naming.IsArgument (s : String) : Prop where
  isIdentifier : IsIdentifier s
  notKeyword : s ∉ keywords
  notFixed : s ∉ ["body", "headers"]

theorem Naming.isArgument_of_mark {s : String} (h : IsIdentifier s) (hmark : '_' ∈ s.toList) : IsArgument s := by
  have hfixed : ∀ s ∈ keywords ++ ["body", "headers"], '_' ∉ s.toList := by decide
  have hnot : s ∉ keywords ++ ["body", "headers"] := fun hs => hfixed s hs hmark
  rw [List.mem_append, not_or] at hnot
  exact ⟨h, hnot.1, hnot.2⟩

namespace Request

variable {r : Registry} {reserved used : List String} {wireName : String} {location : ParameterLocation}

theorem parameterName_notMem (reserved used : List String) (wireName : String) (location : ParameterLocation) :
    parameterName reserved used wireName location ∉ used := by
  unfold parameterName
  extract_lets name chosen
  split
  · exact unique_notMem _ _ _
  · rename_i hfree
    exact fun hmem => hfree (List.contains_iff_mem.mpr hmem)

theorem parameterName_isArgument (hfixed : ["body", "headers"] ⊆ reserved) :
    IsArgument (parameterName reserved used wireName location) := by
  have hname : IsArgument (if reserved.contains (identifier wireName) then identifier wireName ++ "_"
      else identifier wireName) := by
    have hidentifier := identifier_isIdentifier wireName
    split
    · exact isArgument_of_mark (hidentifier.append (List.all_eq_true.mp (by decide))) (by simp)
    · rename_i hfree
      exact ⟨hidentifier, identifier_notMem_keywords wireName,
        fun hmem => hfree (List.contains_iff_mem.mpr (hfixed hmem))⟩
  have hlocation : ∀ c ∈ ("_" ++ location.name).toList, isWordChar c = true :=
    List.all_eq_true.mp (by cases location <;> decide)
  unfold parameterName
  extract_lets name chosen
  change IsArgument chosen at hname
  clear_value chosen
  split
  · have hlong : s!"{chosen}_{location.name}" = chosen ++ ("_" ++ location.name) := String.append_assoc ..
    rw [hlong]
    apply isArgument_of_mark (unique_isIdentifier (hname.isIdentifier.append hlocation) used)
    rcases unique_eq (chosen ++ ("_" ++ location.name)) used "_" with heq | ⟨k, heq⟩
    · simp [heq]
    · simp [heq, numbered]
  · exact hname

end Request

namespace ParamDef

def KeptByNext (r : Registry) (P : List ParamDef → Prop) : Prop := ∀ params p, P params →
  p.name = Request.parameterName (Request.reservedNames r) (params.map (·.name)) p.wireName p.location →
    P (params ++ [p])

structure AreArguments (params : List ParamDef) : Prop where
  distinct : (params.map (·.name)).Nodup
  names : ∀ p ∈ params, IsArgument p.name

theorem AreArguments.keptByNext (r : Registry) : KeptByNext r AreArguments := by
  intro params p h hp
  constructor
  · have hfree : p.name ∉ params.map (·.name) := hp ▸ Request.parameterName_notMem _ _ _ _
    rw [List.map_append, List.map_singleton]
    exact List.nodup_append_comm.mp (List.nodup_cons.mpr ⟨hfree, h.distinct⟩)
  · have hbody : ["body", "headers"] ⊆ Request.bodyNames := by decide
    have hfixed : ["body", "headers"] ⊆ Request.reservedNames r := fun x hx =>
      List.mem_append_left _ (List.mem_append_left _ (hbody hx))
    refine List.forall_mem_append.mpr ⟨h.names, List.forall_mem_singleton.mpr ?_⟩
    rw [hp]
    exact Request.parameterName_isArgument hfixed

structure StandsFor (r : Registry) (p : Parameter) (q : ParamDef) : Prop where
  wireName : q.wireName = p.name
  location : q.location = p.location
  required : q.required = (p.required || p.location = .path)
  type : ∃ hint c, Schema.compile r p.schema hint = .ok c ∧ q.type = if q.required then c.type else c.type.orNone

structure IsPlaceholder (q : ParamDef) : Prop where
  type : q.type = .named "str"
  required : q.required = true
  location : q.location = .path

end ParamDef

namespace Operation

def parametersAt (o : Operation) (location : ParameterLocation) : List Parameter :=
  o.parameters.filter (·.location = location)

def undeclared (o : Operation) : List String :=
  (Route.placeholders o.path).eraseDups.filter fun name => name ∉ (o.parametersAt .path).map (·.name)

theorem mem_undeclared_iff {o : Operation} {name : String} : name ∈ o.undeclared ↔
    Route.HasPlaceholder o.path name ∧ name ∉ (o.parametersAt .path).map (·.name) := by
  rw [undeclared, List.mem_filter, List.mem_eraseDups, Route.mem_placeholders_iff, decide_eq_true_eq]

end Operation

namespace OperationDef

def argumentNames (d : OperationDef) : List String :=
  (d.pathParams ++ d.queryParams ++ d.headerParams ++ d.cookieParams).map (·.name) ++ ["body", "headers"]

/-- The arguments of a function are all that its operation needs, and no two of them have the same name. -/
structure Serves (r : Registry) (o : Operation) (d : OperationDef) : Prop where
  distinct : d.argumentNames.Nodup
  names : ∀ x ∈ d.argumentNames, IsIdentifier x ∧ x ∉ Naming.keywords
  query : List.Forall₂ (ParamDef.StandsFor r) (o.parametersAt .query) d.queryParams
  header : List.Forall₂ (ParamDef.StandsFor r) (o.parametersAt .header) d.headerParams
  cookie : List.Forall₂ (ParamDef.StandsFor r) (o.parametersAt .cookie) d.cookieParams
  path : ∃ declared added, d.pathParams.Perm (declared ++ added) ∧
    List.Forall₂ (ParamDef.StandsFor r) (o.parametersAt .path) declared ∧ (added.map (·.wireName)).Nodup ∧
    (∀ name, name ∈ added.map (·.wireName) ↔
      Route.HasPlaceholder o.path name ∧ name ∉ (o.parametersAt .path).map (·.name)) ∧
    ∀ q ∈ added, q.IsPlaceholder

/-- The arguments of a function are made for the declared parameters first and for the other placeholders then, and
are given out to their places. -/
structure IsMadeWith (r : Registry) (o : Operation) (d : OperationDef) (declared added : List ParamDef) : Prop where
  standFor : List.Forall₂ (ParamDef.StandsFor r) (Request.inOrder o.parameters) declared
  wireNames : added.map (·.wireName) = o.undeclared
  placeholders : ∀ q ∈ added, q.IsPlaceholder
  path : d.pathParams = Request.inPathOrder o.path ((declared ++ added).filter (·.location = .path))
  query : d.queryParams = (declared ++ added).filter (·.location = .query)
  header : d.headerParams = (declared ++ added).filter (·.location = .header)
  cookie : d.cookieParams = (declared ++ added).filter (·.location = .cookie)

end OperationDef

namespace Request

open ParamDef

variable {r : Registry} {o : Operation} {d : OperationDef} {needs needs' : Needs} {hint : String}
  {done done' : List ParamDef} {parameters : List Parameter} {P : List ParamDef → Prop}

theorem declaredParams_standFor (hP : KeptByNext r P)
    (h : declaredParams r hint done needs parameters = .ok (done', needs')) (hdone : P done) :
    P done' ∧ ∃ params, done' = done ++ params ∧ List.Forall₂ (StandsFor r) parameters params := by
  induction parameters generalizing done needs with
  | nil =>
    cases h
    exact ⟨hdone, [], (List.append_nil _).symm, .nil⟩
  | cons p parameters ih =>
    obtain ⟨c, hc, h⟩ := bind_eq_ok.mp h
    let q := paramDef (parameterName (reservedNames r) (done.map (·.name)) p.name p.location) p c.type
    have hq : P (done ++ [q]) := hP done q hdone rfl
    obtain ⟨hdone', params, hparams, hstand⟩ := ih h hq
    refine ⟨hdone', q :: params, ?_, .cons ⟨rfl, rfl, rfl, _, c, hc, rfl⟩ hstand⟩
    rw [hparams, List.append_assoc, List.singleton_append]

theorem withPlaceholders_added (hP : KeptByNext r P) (declared placeholders : List String) (hdone : P done) :
    P (placeholders.foldl (addPlaceholder r declared) done) ∧
      ∃ added, placeholders.foldl (addPlaceholder r declared) done = done ++ added ∧
        added.map (·.wireName) = placeholders.filter (· ∉ declared) ∧ ∀ q ∈ added, q.IsPlaceholder := by
  induction placeholders generalizing done with
  | nil => exact ⟨hdone, [], (List.append_nil _).symm, rfl, List.forall_mem_nil _⟩
  | cons placeholder placeholders ih =>
    rw [List.foldl_cons, addPlaceholder]
    split
    · rename_i hdeclared
      rw [List.filter_cons_of_neg (by simpa using hdeclared)]
      exact ih hdone
    · rename_i hdeclared
      let q : ParamDef :=
        ⟨parameterName (reservedNames r) (done.map (·.name)) placeholder .path, placeholder, .path, .named "str", true⟩
      have hq : P (done ++ [q]) := hP done q hdone rfl
      obtain ⟨hall, added, hadded, hnames, hplain⟩ := ih hq
      refine ⟨hall, q :: added, ?_, ?_, List.forall_mem_cons.mpr ⟨⟨rfl, rfl, rfl⟩, hplain⟩⟩
      · rw [hadded, List.append_assoc, List.singleton_append]
      · rw [List.filter_cons_of_pos (by simpa using hdeclared), List.map_cons, hnames]

theorem filter_inOrder (parameters : List Parameter) (location : ParameterLocation) :
    (inOrder parameters).filter (·.location = location) = parameters.filter (·.location = location) := by
  rw [inOrder, List.filter_append, List.filter_filter, List.filter_filter]
  by_cases hpath : location = .path
  · subst hpath
    simp
  · have hnone : parameters.filter (fun p => p.location = location && p.location = .path) = [] := by
      rw [List.filter_eq_nil_iff]
      intro p _ hp
      simp only [Bool.and_eq_true, decide_eq_true_eq] at hp
      exact hpath (hp.1.symm.trans hp.2)
    rw [hnone, List.nil_append]
    apply List.filter_congr
    intro p _
    by_cases hp : p.location = location <;> simp [hp, hpath]

theorem perm_located (params : List ParamDef) :
    (params.filter (·.location = .path) ++ params.filter (·.location = .query) ++
      params.filter (·.location = .header) ++ params.filter (·.location = .cookie)).Perm params := by
  induction params with
  | nil => exact .nil
  | cons p params ih =>
    have hmiddle (before after : List ParamDef) (h : (before ++ after).Perm params) :
        (before ++ p :: after).Perm (p :: params) := List.perm_middle.trans (h.cons p)
    cases hlocation : p.location with
    | path => simpa [hlocation] using ih
    | query =>
      simpa [hlocation] using hmiddle (params.filter (·.location = .path)) _ (by simpa using ih)
    | header =>
      simpa [hlocation] using
        hmiddle (params.filter (·.location = .path) ++ params.filter (·.location = .query)) _ (by simpa using ih)
    | cookie =>
      simpa [hlocation] using hmiddle (params.filter (·.location = .path) ++ params.filter (·.location = .query) ++
        params.filter (·.location = .header)) _ (by simpa using ih)

theorem filter_placeholders {added : List ParamDef} (h : ∀ q ∈ added, q.IsPlaceholder) (location : ParameterLocation) :
    added.filter (·.location = location) = if location = .path then added else [] := by
  split
  · rename_i hpath
    exact List.filter_eq_self.mpr fun q hq => decide_eq_true ((h q hq).location.trans hpath.symm)
  · rename_i hpath
    rw [List.filter_eq_nil_iff]
    exact fun q hq heq => hpath ((of_decide_eq_true heq).symm.trans (h q hq).location)

theorem standFor_located {declared : List ParamDef} (h : List.Forall₂ (StandsFor r) (inOrder o.parameters) declared)
    (location : ParameterLocation) :
    List.Forall₂ (StandsFor r) (o.parametersAt location) (declared.filter (·.location = location)) := by
  rw [Operation.parametersAt, ← filter_inOrder]
  refine List.rel_filter (fun p q hpq => ?_) h
  simp only [decide_eq_true_eq, hpq.location]

theorem wireNames_of_standFor {params : List ParamDef} (h : List.Forall₂ (StandsFor r) parameters params) :
    params.map (·.wireName) = parameters.map (·.name) := by
  induction h with
  | nil => rfl
  | cons hp _ ih => rw [List.map_cons, List.map_cons, hp.wireName, ih]

theorem define_named (hP : KeptByNext r P) (hnil : P []) (h : define r o = .ok (d, needs)) :
    ∃ declared added, P (declared ++ added) ∧ d.IsMadeWith r o declared added := by
  obtain ⟨declared, n, body, n', hdeclared, -, -, htakes, -⟩ := define_cases h
  obtain ⟨hnamed, params, hparams, hstand⟩ := declaredParams_standFor hP hdeclared hnil
  obtain rfl : declared = params := hparams
  obtain ⟨hnamed, added, hadded, hnames, hplain⟩ := withPlaceholders_added hP
    ((declared.filter (·.location = .path)).map (·.wireName)) (Route.placeholders o.path).eraseDups hnamed
  change P (withPlaceholders r o.path declared) at hnamed
  change withPlaceholders r o.path declared = declared ++ added at hadded
  rw [hadded] at hnamed htakes
  rw [wireNames_of_standFor (standFor_located hstand .path)] at hnames
  exact ⟨declared, added, hnamed, hstand, hnames, hplain, htakes.path, htakes.query, htakes.header, htakes.cookie⟩

theorem define_arguments (h : define r o = .ok (d, needs)) :
    ∃ declared added, AreArguments (declared ++ added) ∧ d.IsMadeWith r o declared added :=
  define_named (AreArguments.keptByNext r) ⟨List.nodup_nil, List.forall_mem_nil _⟩ h

/-- A request function has arguments for all parameters and placeholders, under names that can be told apart. -/
theorem define_serves (h : define r o = .ok (d, needs)) : d.Serves r o := by
  obtain ⟨declared, added, harguments, hstand, hnames, hplain, hpath, hquery, hheader, hcookie⟩ := define_arguments h
  have hlocated := standFor_located hstand
  have hother := filter_placeholders hplain
  have hsorted : d.pathParams.Perm ((declared ++ added).filter (·.location = .path)) := by
    rw [hpath]
    exact List.mergeSort_perm _ _
  have hperm : (d.pathParams ++ d.queryParams ++ d.headerParams ++ d.cookieParams).Perm (declared ++ added) := by
    rw [hquery, hheader, hcookie]
    exact (((hsorted.append_right _).append_right _).append_right _).trans (perm_located _)
  rw [List.filter_append, hother, if_neg (by decide), List.append_nil] at hquery hheader hcookie
  rw [List.filter_append, hother, if_pos rfl] at hsorted
  refine ⟨?_, ?_, hquery ▸ hlocated .query, hheader ▸ hlocated .header, hcookie ▸ hlocated .cookie,
    _, added, hsorted, hlocated .path, ?_, ?_, hplain⟩
  · rw [OperationDef.argumentNames, List.nodup_append]
    refine ⟨(hperm.map _).nodup_iff.mpr harguments.distinct, by decide, fun x hx y hy heq => ?_⟩
    obtain ⟨p, hp, rfl⟩ := List.mem_map.mp hx
    exact (harguments.names p (hperm.mem_iff.mp hp)).notFixed (heq ▸ hy)
  · rw [OperationDef.argumentNames, List.forall_mem_append, List.forall_mem_map]
    refine ⟨fun p hp => ?_, by decide⟩
    have hp := harguments.names p (hperm.mem_iff.mp hp)
    exact ⟨hp.isIdentifier, hp.notKeyword⟩
  · rw [hnames]
    exact (nodup_eraseDups _).filter _
  · intro name
    rw [hnames]
    exact Operation.mem_undeclared_iff

theorem define_serves_repeated : ∃ (document : Document) (r : Registry) (o : Operation) (d : OperationDef)
    (needs : Needs), Registry.ofDocument document = .ok r ∧ define r o = .ok (d, needs) ∧ d.Serves r o ∧
      (d.pathParams.map (·.wireName)).Perm ["id", "tag"] ∧ (∃ q ∈ d.pathParams, q.wireName = "tag" ∧ q.IsPlaceholder) ∧
      d.keywordParams.map (·.name) = ["id_query", "id_query_2", "Pet_", "headers_", "class_"] := by
  let r : Registry := ⟨[⟨"Pet", "Pet", "pet", .object Registry.plainMarks [] [] none⟩]⟩
  let parameter (name : String) (location : ParameterLocation) : Parameter :=
    ⟨name, location, location = .path, none, false, .primitive Registry.plainMarks .string none⟩
  let o : Operation := { Operation.bare .get "/pets/{id}/tags/{tag}/{tag}" none with
    parameters := [parameter "id" .query, parameter "id" .query, parameter "headers" .header, parameter "id" .path,
      parameter "Pet" .query, parameter "class" .cookie] }
  have hd : Registry.ofDocument (.map [(.text "Pet", Registry.objectOf [])]) = .ok r := rfl
  have hok : (fun result => result.1.keywordParams.map (·.name)) <$> define r o =
      .ok ["id_query", "id_query_2", "Pet_", "headers_", "class_"] := by decide +kernel
  obtain ⟨⟨d, needs⟩, h, hnames⟩ := map_eq_ok.mp hok
  obtain ⟨declared, added, hperm, hstand, hnodup, hmem, hplain⟩ := (define_serves h).path
  have hundeclared : o.undeclared = ["tag"] := by decide +kernel
  have hadded : (added.map (·.wireName)).Perm ["tag"] := by
    rw [List.perm_ext_iff_of_nodup hnodup (List.nodup_singleton _), ← hundeclared]
    exact fun name => (hmem name).trans Operation.mem_undeclared_iff.symm
  have hdeclared : declared.map (·.wireName) = ["id"] := wireNames_of_standFor hstand
  have hwire : (d.pathParams.map (·.wireName)).Perm ["id", "tag"] := by
    refine (hperm.map _).trans ?_
    rw [List.map_append, hdeclared]
    exact hadded.cons "id"
  obtain ⟨q, hq, hname⟩ := List.mem_map.mp (hadded.mem_iff.mpr (List.mem_singleton_self "tag"))
  have htag : q ∈ d.pathParams := hperm.mem_iff.mpr (List.mem_append_right _ hq)
  exact ⟨_, r, o, d, needs, hd, h, define_serves h, hwire, ⟨q, htag, hname, hplain q hq⟩, hnames⟩

end Request

end ClientForge
