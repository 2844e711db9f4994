import ClientForge.Proofs.RequestNames
import ClientForge.Proofs.Signatures

/-!
Arguments that hide what the body of their function reads. Names of arguments are kept apart from most of what a body
reads, but not from all of it.
-/

namespace ClientForge

open Naming Outcome

/-- How an argument comes by another name than the identifier of its parameter: that is the name of something else, or
of another argument. -/
inductive ParamDef.IsRenamed (p : ParamDef) : Prop
  | marked (h : p.name = identifier p.wireName ++ "_")
  | placed {stem : String} {taken : List String}
    (hstem : stem = identifier p.wireName ∨ stem = identifier p.wireName ++ "_")
    (h : p.name = unique (stem ++ ("_" ++ p.location.name)) taken "_")

namespace OperationDef

def bodyNames (d : OperationDef) : List String :=
  ["url", "params", "request_headers", "request_cookies", "response", "key", "value", "item", "httpx", "sdk_config",
    "to_jsonable_python", "str"] ++ d.response.model.toList ++ d.response.adapter.toList

variable {d : OperationDef} {url : List Token} {x : String}

theorem mem_bodyNames (h : x ∈ d.bodyNames) : x ∈ Request.bodyNames ∨ d.response.model = some x ∨
    x ∈ "str" :: d.response.adapter.toList := by
  have hfixed : ∀ x ∈ ["url", "params", "request_headers", "request_cookies", "response", "key", "value", "item",
      "httpx", "sdk_config", "to_jsonable_python", "str"], x ∈ Request.bodyNames ∨ x = "str" := by decide
  rcases List.mem_append.mp h with h | h
  · rcases List.mem_append.mp h with h | h
    · rcases hfixed x h with h | rfl
      · exact .inl h
      · exact .inr (.inr List.mem_cons_self)
    · exact .inr (.inl (by simpa using h))
  · exact .inr (.inr (List.mem_cons_of_mem _ h))

theorem name_mem_argumentNames {p : ParamDef} (hp : p ∈ d.pathParams ++ d.keywordParams) :
    p.name ∈ d.argumentNames := by
  refine List.mem_append_left _ (List.mem_map_of_mem ?_)
  rwa [keywordParams, ← List.append_assoc, ← List.append_assoc] at hp

theorem mem_argumentNames {s : Slot} (hs : s ∈ d.positional ++ d.keywords) : s.name ∈ d.argumentNames := by
  simp only [positional, keywords, List.mem_append, List.mem_map, Option.mem_toList, Option.map_eq_some_iff,
    List.mem_singleton] at hs
  rcases hs with ⟨p, hp, rfl⟩ | (⟨p, hp, rfl⟩ | ⟨b, -, rfl⟩) | rfl
  · exact name_mem_argumentNames (List.mem_append_left _ hp)
  · exact name_mem_argumentNames (List.mem_append_right _ hp)
  · exact List.mem_append_right _ (by simp)
  · exact List.mem_append_right _ (by simp)

theorem mem_bodyNames_of_reads (hurl : ∀ x ∈ Token.readsAll true .within url, ∃ p ∈ d.pathParams, x = p.name)
    (hx : x ∈ Token.names (d.bodyTokens url)) : x ∈ d.argumentNames ∨ x ∈ d.bodyNames ∨ x = "dict" := by
  have hname : Token.isName x = true := Token.isName_of_mem_readsAll _ hx
  rw [bodyTokens, Token.names_append (d.isWhole_stepTokens url), List.mem_append] at hx
  rcases hx with hx | hx
  · rcases names_stepTokens hurl hx with hlocal | hfixed | ⟨rfl, -⟩
    · cases hlocal with
      | slot hs => exact .inl (mem_argumentNames hs)
      | _ => exact .inr (.inl (by simp [bodyNames]))
    · simp only [List.mem_cons, List.not_mem_nil, or_false] at hfixed
      rcases hfixed with rfl | rfl | rfl | rfl
      · exact .inr (.inr rfl)
      all_goals exact .inr (.inl (by simp [bodyNames]))
    · exact .inr (.inl (by simp [bodyNames]))
  · rcases names_lastTokens hx with rfl | hx
    · exact .inr (.inl (by simp [bodyNames]))
    · have hnone : Token.isName "None" = false := by decide
      cases hx with
      | model =>
        cases hmodel : d.response.model with
        | none => simp [hmodel, hnone] at hname
        | some m => exact .inr (.inl (by simp [bodyNames, hmodel]))
      | adapter =>
        cases hadapter : d.response.adapter with
        | none => simp [hadapter, hnone] at hname
        | some a => exact .inr (.inl (by simp [bodyNames, hadapter]))

end OperationDef

namespace Operation

def wireNames (o : Operation) : List String := o.parameters.map (·.name) ++ o.undeclared

end Operation

namespace Request

variable {r : Registry} {o : Operation} {d : OperationDef} {needs : Needs} {p : ParamDef} {used : List String}
  {x : String}

structure AreNamed (r : Registry) (params : List ParamDef) : Prop where
  names : ∀ p ∈ params, p.name = identifier p.wireName ∧ p.name ∉ reservedNames r ∨ p.IsRenamed
  kept : ∀ p ∈ params, identifier p.wireName ∉ reservedNames r → identifier p.wireName ∈ params.map (·.name)

theorem parameterName_cases {reserved : List String}
    (hp : p.name = parameterName reserved used p.wireName p.location) :
    (p.name = identifier p.wireName ∧ p.name ∉ reserved ∨ p.IsRenamed) ∧
      (identifier p.wireName ∉ reserved → p.name = identifier p.wireName ∨ identifier p.wireName ∈ used) := by
  have hlong (stem : String) : s!"{stem}_{p.location.name}" = stem ++ ("_" ++ p.location.name) := String.append_assoc ..
  unfold parameterName at hp
  by_cases hreserved : identifier p.wireName ∈ reserved
  · simp only [List.contains_iff_mem, hreserved, if_true, hlong] at hp
    refine ⟨.inr ?_, fun h => absurd hreserved h⟩
    split at hp
    · exact .placed (.inr rfl) hp
    · exact .marked hp
  · simp only [List.contains_iff_mem, hreserved, if_false, hlong] at hp
    split at hp
    · rename_i hused
      exact ⟨.inr (.placed (.inl rfl) hp), fun _ => .inr hused⟩
    · exact ⟨.inl ⟨hp, hp ▸ hreserved⟩, fun _ => .inl hp⟩

theorem AreNamed.keptByNext (r : Registry) : ParamDef.KeptByNext r (AreNamed r) := by
  intro params p h hp
  obtain ⟨hname, hkept⟩ := parameterName_cases hp
  refine ⟨List.forall_mem_append.mpr ⟨h.names, List.forall_mem_singleton.mpr hname⟩, ?_⟩
  rw [List.map_append]
  refine List.forall_mem_append.mpr ⟨fun q hq hfree => List.mem_append_left _ (h.kept q hq hfree),
    List.forall_mem_singleton.mpr fun hfree => ?_⟩
  rcases hkept hfree with hsame | hused
  · exact List.mem_append_right _ (by simp [hsame])
  · exact List.mem_append_left _ hused

theorem ends_of_isRenamed (h : p.IsRenamed) : (∃ c, p.name.toList.getLast? = some c ∧ c.isAlpha = false) ∨
    ("_" ++ p.location.name).toList <:+ p.name.toList := by
  cases h with
  | marked h => exact .inl ⟨'_', by simp [h], rfl⟩
  | @placed stem taken _ h =>
    rcases unique_eq (stem ++ ("_" ++ p.location.name)) taken "_" with heq | ⟨k, heq⟩
    · rw [h, heq]
      exact .inr ⟨stem.toList, String.toList_append.symm⟩
    · obtain ⟨c, hlast⟩ := Option.ne_none_iff_exists'.mp (mt List.getLast?_eq_none_iff.mp (toString_ne_nil k))
      refine .inl ⟨c, by rw [h, heq, numbered, String.toList_append, List.getLast?_append, hlast, Option.some_or], ?_⟩
      exact isAlpha_eq_false_of_isDigit (isDigit_of_mem_toString (List.mem_of_getLast? hlast))

/-- Names in bodies that no argument is kept apart from. -/
def unguarded : List String := "str" :: Method.all.map adapterName

theorem mem_unguarded {d : ResponseDef} (hadapter : ∀ a ∈ d.adapter, a = adapterName o.method)
    (hx : x ∈ "str" :: d.adapter.toList) : x ∈ unguarded := by
  rcases List.mem_cons.mp hx with rfl | hx
  · exact List.mem_cons_self
  · rw [hadapter x (Option.mem_toList.mp hx)]
    exact List.mem_cons_of_mem _ (List.mem_map_of_mem (by cases o.method <;> decide))

theorem notMem_reservedNames (hx : x ∈ unguarded) (hclass : x ∉ r.symbols) : x ∉ reservedNames r := by
  have hfixed : ∀ x ∈ unguarded, x ∉ bodyNames ∧ x ∉ Library.symbols := by decide +kernel
  simp only [reservedNames, List.mem_append, not_or]
  exact ⟨⟨(hfixed x hx).1, hclass⟩, (hfixed x hx).2⟩

theorem ne_of_isRenamed (h : p.IsRenamed) (hx : x ∈ bodyNames ++ unguarded) : p.name ≠ x := by
  have hfixed : ∀ x ∈ bodyNames ++ unguarded, x.toList.getLast?.all Char.isAlpha = true ∧
      ¬("_" ++ p.location.name).toList <:+ x.toList := by
    cases p.location <;> decide +kernel
  rintro rfl
  obtain ⟨halpha, hsuffix⟩ := hfixed _ hx
  rcases ends_of_isRenamed h with ⟨c, hlast, hc⟩ | hplace
  · rw [hlast, Option.all_some, hc] at halpha
    cases halpha
  · exact hsuffix hplace

theorem responseDef_names {hint : String} {d : ResponseDef} (h : responseDef r hint o = .ok (d, needs)) :
    (∀ a ∈ d.adapter, a = adapterName o.method) ∧ ∀ m ∈ d.model, m ∈ r.symbols := by
  obtain ⟨-, rfl, -⟩ | ⟨s, c, -, hc, hresult⟩ := responseDef_eq_ok h
  · exact ⟨by simp [ResponseDef.nothing], by simp [ResponseDef.nothing]⟩
  · have hread := hresult ▸ resultDef_isReadBy (m := o.method) hc
    cases hread with
    | adapter => exact ⟨by simp, by simp⟩
    | model he => exact ⟨by simp, fun m hm => Option.some.inj hm ▸ List.mem_map_of_mem he⟩
    | list he => exact ⟨by simp, fun m hm => Option.some.inj hm ▸ List.mem_map_of_mem he⟩

theorem define_response (h : define r o = .ok (d, needs)) :
    (∀ a ∈ d.response.adapter, a = adapterName o.method) ∧ ∀ m ∈ d.response.model, m ∈ r.symbols := by
  obtain ⟨⟨needs', hresponse⟩, -⟩ := define_parts h
  exact responseDef_names hresponse

theorem perm_arguments {declared added : List ParamDef} (h : d.IsMadeWith r o declared added) :
    (d.pathParams ++ d.keywordParams).Perm (declared ++ added) := by
  have hpath : d.pathParams.Perm ((declared ++ added).filter (·.location = .path)) := by
    rw [h.path]
    exact List.mergeSort_perm _ _
  rw [OperationDef.keywordParams, h.query, h.header, h.cookie, ← List.append_assoc, ← List.append_assoc]
  exact (((hpath.append_right _).append_right _).append_right _).trans (perm_located _)

theorem mem_wireNames {declared added : List ParamDef} (h : d.IsMadeWith r o declared added) {name : String} :
    name ∈ o.wireNames ↔ ∃ p ∈ declared ++ added, p.wireName = name := by
  have horder : name ∈ (inOrder o.parameters).map (·.name) ↔ name ∈ o.parameters.map (·.name) := by
    have hmem (q : Parameter) : q ∈ inOrder o.parameters ↔ q ∈ o.parameters := by
      simp [inOrder, ← and_or_left, em]
    simp only [List.mem_map, hmem]
  rw [Operation.wireNames, List.mem_append, ← horder, ← wireNames_of_standFor h.standFor, ← h.wireNames,
    ← List.mem_append, ← List.map_append, List.mem_map]

theorem define_body {document : Document} (hd : Registry.ofDocument document = .ok r)
    (h : define r o = .ok (d, needs)) : ∃ tokens, CodeReader.tokens? (joinLines d.bodyLines) = some tokens ∧
      ∀ x ∈ Token.names tokens, x ∈ d.argumentNames ∨ x ∈ d.bodyNames ∨ x = "dict" := by
  obtain ⟨url, hreads, hurl⟩ := define_url h
  obtain ⟨hadapter, hmodel⟩ := define_response h
  have hnone : IsWord "None" := by decide
  have hparams : ∀ p ∈ d.keywordParams, IsWord p.name := fun p hp =>
    ((define_serves h).names p.name (OperationDef.name_mem_argumentNames (List.mem_append_right _ hp))).1.isWord
  have hmodelWord : IsWord (d.response.model.getD "None") := by
    cases hm : d.response.model with
    | none => exact hnone
    | some m =>
      obtain ⟨e, he, rfl⟩ := List.mem_map.mp (hmodel m hm)
      exact (Registry.symbols_areIdentifiers hd e he).isWord
  have hadapterWord : IsWord (d.response.adapter.getD "None") := by
    cases ha : d.response.adapter with
    | none => exact hnone
    | some a =>
      rw [Option.getD_some, hadapter a ha]
      cases o.method <;> decide
  exact ⟨d.bodyTokens url, tokens?_of_reads (OperationDef.reads_body hparams hmodelWord hadapterWord hreads),
    fun x hx => OperationDef.mem_bodyNames_of_reads hurl hx⟩

theorem captures_iff (h : define r o = .ok (d, needs)) (x : String) :
    (x ∈ d.bodyNames ∧ ∃ p ∈ d.pathParams ++ d.keywordParams, p.name = x) ↔
      (x ∈ "str" :: d.response.adapter.toList ∧ x ∉ r.symbols ∧ ∃ name ∈ o.wireNames, identifier name = x) ∨
        d.response.model = some x ∧ ∃ p ∈ d.pathParams ++ d.keywordParams, p.IsRenamed ∧ p.name = x := by
  obtain ⟨declared, added, hnamed, hmade⟩ := define_named (AreNamed.keptByNext r) ⟨by simp, by simp⟩ h
  obtain ⟨hadapter, hmodel⟩ := define_response h
  have hunguarded (hx : x ∈ "str" :: d.response.adapter.toList) : x ∈ unguarded := mem_unguarded hadapter hx
  have hmem {p : ParamDef} := (perm_arguments hmade).mem_iff (a := p)
  constructor
  · rintro ⟨hbody, p, hp, rfl⟩
    rcases hnamed.names p (hmem.mp hp) with ⟨hname, hfree⟩ | hrenamed
    · simp only [reservedNames, List.mem_append, not_or] at hfree
      refine .inl ⟨?_, hfree.1.2, p.wireName, (mem_wireNames hmade).mpr ⟨p, hmem.mp hp, rfl⟩, hname.symm⟩
      rcases OperationDef.mem_bodyNames hbody with hfixed | hclass | hx
      · exact absurd hfixed hfree.1.1
      · exact absurd (hmodel _ hclass) hfree.1.2
      · exact hx
    · -- What ends like a renamed argument is at most the class of the response.
      refine .inr ⟨?_, p, hp, hrenamed, rfl⟩
      rcases OperationDef.mem_bodyNames hbody with hfixed | hclass | hx
      · exact absurd rfl (ne_of_isRenamed hrenamed (List.mem_append_left _ hfixed))
      · exact hclass
      · exact absurd rfl (ne_of_isRenamed hrenamed (List.mem_append_right _ (hunguarded hx)))
  · rintro (⟨hx, hclass, name, hname, rfl⟩ | ⟨hclass, p, hp, -, rfl⟩)
    · obtain ⟨p, hp, rfl⟩ := (mem_wireNames hmade).mp hname
      -- The argument for the parameter has this name, or it is renamed because another one has.
      have hfree := notMem_reservedNames (hunguarded hx) hclass
      obtain ⟨q, hq, hqname⟩ := List.mem_map.mp (hnamed.kept p hp hfree)
      refine ⟨?_, q, hmem.mpr hq, hqname⟩
      rcases List.mem_cons.mp hx with hstr | hx
      · rw [hstr]
        simp [OperationDef.bodyNames]
      · exact List.mem_append_right _ hx
    · refine ⟨List.mem_append_left _ (List.mem_append_right _ ?_), p, hp, rfl⟩
      simp [hclass]

/-- The names that the body of a function reads are those of its arguments and those of the list. One of the list is
that of an argument if and only if it is `str` or that of the function's checker, not that of a class, and the
identifier of a parameter, or it is that of the class of the response and given to an argument in place of its
identifier. -/
theorem define_captures_iff (h : define r o = .ok (d, needs)) :
    (∀ document, Registry.ofDocument document = .ok r → ∃ tokens,
      CodeReader.tokens? (joinLines d.bodyLines) = some tokens ∧
        ∀ x ∈ Token.names tokens, x ∈ d.argumentNames ∨ x ∈ d.bodyNames ∨ x = "dict") ∧
    ∀ x, (x ∈ d.bodyNames ∧ ∃ p ∈ d.pathParams ++ d.keywordParams, p.name = x) ↔
      (x ∈ "str" :: d.response.adapter.toList ∧ x ∉ r.symbols ∧ ∃ name ∈ o.wireNames, identifier name = x) ∨
        d.response.model = some x ∧ ∃ p ∈ d.pathParams ++ d.keywordParams, p.IsRenamed ∧ p.name = x :=
  ⟨fun _ hd => define_body hd h, captures_iff h⟩

theorem define_captures_class : ∃ (document : Document) (r : Registry) (o : Operation) (d : OperationDef)
    (needs : Needs), Registry.ofDocument document = .ok r ∧ define r o = .ok (d, needs) ∧
      d.keywordParams.map (·.name) = ["Pet_"] ∧ d.response.model = some "Pet_" ∧
      (("Pet_" ∈ d.bodyNames ∧ ∃ p ∈ d.pathParams ++ d.keywordParams, p.name = "Pet_") ↔
        ("Pet_" ∈ "str" :: d.response.adapter.toList ∧ "Pet_" ∉ r.symbols ∧
          ∃ name ∈ o.wireNames, identifier name = "Pet_") ∨
          d.response.model = some "Pet_" ∧ ∃ p ∈ d.pathParams ++ d.keywordParams, p.IsRenamed ∧ p.name = "Pet_") := by
  let r : Registry := ⟨[⟨"Pet", "Pet", "pet", .object Registry.plainMarks [] [] none⟩,
    ⟨"Pet_", "Pet_", "pet_", .object Registry.plainMarks [] [] none⟩]⟩
  let o : Operation := { Operation.bare .get "/pets" none with
    parameters := [⟨"Pet", .query, false, none, false, .primitive Registry.plainMarks .string none⟩]
    responses := [⟨"200", none, ["application/json"], some (.ref Registry.plainMarks "Pet_")⟩] }
  have hd : Registry.ofDocument (.map [(.text "Pet", Registry.objectOf []), (.text "Pet_", Registry.objectOf [])]) =
      .ok r := rfl
  have hok : (fun result => (result.1.keywordParams.map (·.name), result.1.response.model)) <$> define r o =
      .ok (["Pet_"], some "Pet_") := by decide +kernel
  obtain ⟨⟨d, needs⟩, h, hnames⟩ := map_eq_ok.mp hok
  obtain ⟨hparams, hmodel⟩ := Prod.mk.inj hnames
  exact ⟨_, r, o, d, needs, hd, h, hparams, hmodel, (define_captures_iff h).2 "Pet_"⟩

theorem define_captures_str : ∃ (document : Document) (r : Registry) (o : Operation) (d : OperationDef)
    (needs : Needs), Registry.ofDocument document = .ok r ∧ define r o = .ok (d, needs) ∧
      ∃ p ∈ d.pathParams ++ d.keywordParams, p.name ∈ d.bodyNames := by
  let o : Operation := { Operation.bare .get "/pets" none with
    parameters := [⟨"str", .header, true, none, false, .primitive Registry.plainMarks .string none⟩] }
  have hok : (fun result => result.1.keywordParams.map (·.name)) <$> define .empty o = .ok ["str"] := by decide +kernel
  obtain ⟨⟨d, needs⟩, h, hnames⟩ := map_eq_ok.mp hok
  obtain ⟨p, hp, hname⟩ := List.mem_map.mp (hnames ▸ List.mem_singleton_self "str")
  refine ⟨.map [], .empty, o, d, needs, rfl, h, p, List.mem_append_right _ hp, ?_⟩
  rw [hname]
  exact List.mem_append_left _ (List.mem_append_left _ (by decide))

end Request

end ClientForge
