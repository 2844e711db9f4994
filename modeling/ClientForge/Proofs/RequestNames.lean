import ClientForge.Proofs.FunctionNames
import ClientForge.Proofs.ReferenceChecks
import ClientForge.Proofs.Signatures
import ClientForge.Proofs.TypeNames

namespace ClientForge

open Naming Outcome

theorem OperationDef.Takes.mem_params {d : OperationDef} {o : Operation} {params : List ParamDef} {p : ParamDef}
    (h : d.Takes o params) (hp : p ∈ d.pathParams ++ d.keywordParams) : p ∈ params := by
  rw [keywordParams, h.path, h.query, h.header, h.cookie] at hp
  simp only [List.mem_append, Request.inPathOrder, List.mem_mergeSort] at hp
  rcases hp with hp | (hp | hp) | hp <;> exact List.mem_of_mem_filter hp

namespace Needs

variable {r : Registry} {a b n : Needs} {x : String}

def Provides (r : Registry) (n : Needs) : String → Prop := AtHand r n.symbols n.refs n.classes

theorem Provides.append_left (h : a.Provides r x) (b : Needs) : (a ++ b).Provides r x :=
  AtHand.mono h (List.subset_append_left _ _) (List.subset_append_left _ _) (List.subset_append_left _ _)

theorem Provides.append_right (h : b.Provides r x) (a : Needs) : (a ++ b).Provides r x :=
  AtHand.mono h (List.subset_append_right _ _) (List.subset_append_right _ _) (List.subset_append_right _ _)

structure Complete (r : Registry) (n : Needs) : Prop where
  symbols : n.symbols ⊆ Library.symbols
  classes : ∀ k ∈ n.classes, k.IsReadable
  class_names : ∀ k ∈ n.classes, ∀ x ∈ k.names, n.Provides r x
  adapter : ∀ a ∈ n.adapter, IsWord a.name ∧ a.type.IsReadable ∧ "TypeAdapter" ∈ n.symbols ∧
    ∀ x ∈ a.type.names, n.Provides r x

theorem complete_ofSymbols {symbols : List String} (h : symbols ⊆ Library.symbols) : (ofSymbols symbols).Complete r :=
  ⟨h, by simp [ofSymbols], by simp [ofSymbols], by simp [ofSymbols]⟩

theorem complete_ofCompiled {c : Compiled} (h : c.Complete r) : (ofCompiled c).Complete r :=
  ⟨h.symbols, h.classes, h.class_names, by simp [ofCompiled]⟩

theorem provides_ofCompiled {c : Compiled} (h : c.Provides r x) : (ofCompiled c).Provides r x := h

theorem Complete.append (ha : a.Complete r) (hb : b.Complete r) : (a ++ b).Complete r where
  symbols := List.append_subset.mpr ⟨ha.symbols, hb.symbols⟩
  classes := List.forall_mem_append.mpr ⟨ha.classes, hb.classes⟩
  class_names := List.forall_mem_append.mpr
    ⟨fun k hk x hx => (ha.class_names k hk x hx).append_left b,
      fun k hk x hx => (hb.class_names k hk x hx).append_right a⟩
  adapter d hd := by
    rcases Option.or_eq_some_iff.mp hd with hd | ⟨-, hd⟩
    · obtain ⟨hname, htype, hsymbol, hnames⟩ := hb.adapter d hd
      exact ⟨hname, htype, List.mem_append_right _ hsymbol, fun x hx => (hnames x hx).append_right a⟩
    · obtain ⟨hname, htype, hsymbol, hnames⟩ := ha.adapter d hd
      exact ⟨hname, htype, List.mem_append_left _ hsymbol, fun x hx => (hnames x hx).append_left b⟩

end Needs

namespace Request

variable {r : Registry} {n n' : Needs} {x : String}

section Parameters

structure Declares (r : Registry) (n : Needs) (p : ParamDef) : Prop where
  name : IsWord p.name
  type : p.type.IsReadable
  names : ∀ x ∈ p.type.names, n.Provides r x

theorem parameterName_isWord (reserved used : List String) (wireName : String) (location : ParameterLocation) :
    IsWord (parameterName reserved used wireName location) := by
  have hlocation : ∀ c ∈ ("_" ++ location.name).toList, isWordChar c = true :=
    List.all_eq_true.mp (by cases location <;> decide)
  have hname : IsWord (if reserved.contains (identifier wireName) then identifier wireName ++ "_"
      else identifier wireName) := by
    split
    · exact (identifier_isWord wireName).append (List.all_eq_true.mp (by decide))
    · exact identifier_isWord wireName
  unfold parameterName
  extract_lets name chosen
  change IsWord chosen at hname
  clear_value chosen
  split
  · have hlong : s!"{chosen}_{location.name}" = chosen ++ ("_" ++ location.name) := String.append_assoc ..
    exact unique_isWord (hlong ▸ hname.append hlocation) _
  · exact hname

theorem provides_orNone {type : TypeExpr} (hoptional : "Optional" ∈ n.symbols) (h : ∀ x ∈ type.names, n.Provides r x) :
    ∀ x ∈ type.orNone.names, n.Provides r x := by
  intro x hx
  rcases TypeExpr.names_orNone hx with hx | ⟨rfl, -⟩
  · exact h x hx
  · exact .symbol hoptional

theorem declares_paramDef {name : String} (hname : IsWord name) (p : Parameter) {type : TypeExpr}
    (htype : type.IsReadable) (hoptional : "Optional" ∈ n.symbols) (hnames : ∀ x ∈ type.names, n.Provides r x) :
    Declares r n (paramDef name p type) := by
  refine ⟨hname, ?_, ?_⟩
  · change (if p.required || p.location = .path then type else type.orNone).IsReadable
    split
    · exact htype
    · exact TypeExpr.isReadable_orNone htype
  · change ∀ x ∈ (if p.required || p.location = .path then type else type.orNone).names, n.Provides r x
    split
    · exact hnames
    · exact provides_orNone hoptional hnames

variable (hr : ∀ e ∈ r.entries, IsWord e.symbol)

include hr

theorem declaredParams_complete {hint : String} (hhint : IsWord hint) {parameters : List Parameter}
    (hplain : ∀ p ∈ parameters, p.schema.IsPlain) {done done' : List ParamDef} (hdone : ∀ p ∈ done, Declares r n p)
    (hn : n.Complete r) (hoptional : "Optional" ∈ n.symbols)
    (h : declaredParams r hint done n parameters = .ok (done', n')) :
    (∀ p ∈ done', Declares r n' p) ∧ n'.Complete r ∧ "Optional" ∈ n'.symbols := by
  induction parameters generalizing done n with
  | nil =>
    cases h
    exact ⟨hdone, hn, hoptional⟩
  | cons p parameters ih =>
    obtain ⟨hp, hparameters⟩ := List.forall_mem_cons.mp hplain
    obtain ⟨c, hc, h⟩ := bind_eq_ok.mp h
    have hword : IsWord s!"{hint}{pascalCase p.name}Param" :=
      (hhint.append (pascalCase_isWord p.name).2).append (by decide : IsWord "Param").2
    have hcomplete : c.Complete r := Schema.compileAt_complete hr p.schema hp hword hc
    have hneeds := hn.append (Needs.complete_ofCompiled hcomplete)
    have hoptional' : "Optional" ∈ (n ++ Needs.ofCompiled c).symbols := List.mem_append_left _ hoptional
    refine ih hparameters (List.forall_mem_append.mpr ⟨fun q hq => ?_, ?_⟩) hneeds hoptional' h
    · obtain ⟨hname, htype, hnames⟩ := hdone q hq
      exact ⟨hname, htype, fun x hx => (hnames x hx).append_left _⟩
    · rw [List.forall_mem_singleton]
      apply declares_paramDef (parameterName_isWord ..) p hcomplete.type hoptional'
      exact fun x hx => (Needs.provides_ofCompiled (hcomplete.type_names x hx)).append_right n

omit hr in
theorem declares_withPlaceholders (path : String) {done : List ParamDef} (hdone : ∀ p ∈ done, Declares r n p) :
    ∀ p ∈ withPlaceholders r path done, Declares r n p := by
  have hfold (declared placeholders : List String) (done : List ParamDef) (hdone : ∀ p ∈ done, Declares r n p) :
      ∀ p ∈ placeholders.foldl (addPlaceholder r declared) done, Declares r n p := by
    induction placeholders generalizing done with
    | nil => exact hdone
    | cons placeholder placeholders ih =>
      apply ih
      unfold addPlaceholder
      split
      · exact hdone
      · refine List.forall_mem_append.mpr ⟨hdone, List.forall_mem_singleton.mpr ⟨parameterName_isWord .., ?_, ?_⟩⟩
        · exact (by decide : IsWord "str")
        · intro x hx
          rw [List.mem_singleton.mp hx]
          exact .builtin (by decide)
  exact hfold _ _ done hdone

omit hr in
theorem exists_placeholder (r : Registry) {path : String} (done : List ParamDef) {name : String}
    (hname : name ∈ Route.placeholders path) :
    ∃ p ∈ withPlaceholders r path done, p.location = .path ∧ p.wireName = name := by
  have hkept (declared placeholders : List String) (done : List ParamDef) :
      done ⊆ placeholders.foldl (addPlaceholder r declared) done := by
    induction placeholders generalizing done with
    | nil => exact List.Subset.refl _
    | cons placeholder placeholders ih =>
      refine List.Subset.trans ?_ (ih _)
      unfold addPlaceholder
      split
      · exact List.Subset.refl _
      · exact List.subset_append_left _ _
  have hadded (declared placeholders : List String) (done : List ParamDef) (hname : name ∈ placeholders)
      (hdeclared : declared.contains name = false) :
      ∃ p ∈ placeholders.foldl (addPlaceholder r declared) done, p.location = .path ∧ p.wireName = name := by
    induction placeholders generalizing done with
    | nil => cases hname
    | cons placeholder placeholders ih =>
      rcases List.mem_cons.mp hname with rfl | hname
      · refine ⟨⟨parameterName (reservedNames r) (done.map (·.name)) name .path, name, .path, .named "str", true⟩,
          hkept declared placeholders _ ?_, rfl, rfl⟩
        rw [addPlaceholder, if_neg (by simpa using hdeclared)]
        exact List.mem_append_right _ (List.mem_singleton_self _)
      · exact ih _ hname
  cases hdeclared : ((done.filter (·.location = .path)).map (·.wireName)).contains name with
  | true =>
    obtain ⟨p, hp, hwire⟩ := List.mem_map.mp (List.contains_iff_mem.mp hdeclared)
    obtain ⟨hp, hlocation⟩ := List.mem_filter.mp hp
    exact ⟨p, hkept _ _ _ hp, by simpa using hlocation, hwire⟩
  | false => exact hadded _ _ done (List.mem_eraseDups.mpr hname) hdeclared

omit hr in
theorem exists_argument {params : List ParamDef} {name : String} (h : ∃ p ∈ params, p.wireName = name) :
    ∃ p ∈ params, p.wireName = name ∧ argumentFor params name = p.name := by
  obtain ⟨p, hp, hwire⟩ := h
  cases hfind : params.reverse.find? (·.wireName == name) with
  | none => simpa [hwire] using List.find?_eq_none.mp hfind p (List.mem_reverse.mpr hp)
  | some q =>
    refine ⟨q, List.mem_reverse.mp (List.mem_of_find?_eq_some hfind), by simpa using List.find?_some hfind, ?_⟩
    rw [argumentFor, hfind, Option.map_some, Option.getD_some]

end Parameters

section Parts

variable (hr : ∀ e ∈ r.entries, IsWord e.symbol) {o : Operation}

include hr

theorem bodyDef_complete {hint : String} (hhint : IsWord hint) {body : RequestBody}
    (hplain : ∀ s ∈ body.schema, s.IsPlain) {b : BodyDef} (h : bodyDef r hint body = .ok (b, n)) :
    n.Complete r ∧ b.type.IsReadable ∧ ∀ x ∈ b.type.names, x = "Optional" ∨ n.Provides r x := by
  have horNone (type : TypeExpr) (n : Needs) (htype : type.IsReadable) (hnames : ∀ x ∈ type.names, n.Provides r x)
      (required : Bool) : (if required then type else type.orNone).IsReadable ∧
        ∀ x ∈ (if required then type else type.orNone).names, x = "Optional" ∨ n.Provides r x := by
    split
    · exact ⟨htype, fun x hx => .inr (hnames x hx)⟩
    · refine ⟨TypeExpr.isReadable_orNone htype, fun x hx => ?_⟩
      rcases TypeExpr.names_orNone hx with hx | ⟨rfl, -⟩
      · exact .inr (hnames x hx)
      · exact .inl rfl
  obtain ⟨-, type, htype, heq⟩ := bodyDef_eq_ok h
  rw [heq]
  cases htype with
  | content =>
    have hbytes : TypeExpr.IsReadable (.named "bytes") := (by decide : IsWord "bytes")
    refine ⟨Needs.complete_ofSymbols (by simp), horNone _ _ hbytes (fun x hx => ?_) _⟩
    rw [List.mem_singleton.mp hx]
    exact .builtin (by decide)
  | anything =>
    refine ⟨Needs.complete_ofSymbols (by decide), horNone .any _ (by decide : IsWord "Any") (fun x hx => ?_) _⟩
    exact .symbol hx
  | @compiled s c _ hschema hc =>
    have hcomplete : c.Complete r :=
      Schema.compileAt_complete hr s (hplain s hschema) (hhint.append (by decide : IsWord "Body").2) hc
    exact ⟨Needs.complete_ofCompiled hcomplete, horNone _ (.ofCompiled c) hcomplete.type hcomplete.type_names _⟩

structure Answers (r : Registry) (n : Needs) (d : ResponseDef) : Prop where
  type : d.type.IsReadable
  names : ∀ x ∈ d.type.names, Token.isName x = true → n.Provides r x
  model : IsWord (d.model.getD "None")
  adapter : IsWord (d.adapter.getD "None")
  makes : ∀ x, OperationDef.Makes d x → n.Provides r x ∨ ∃ a ∈ n.adapter, a.name = x

omit hr in
theorem Answers.append_right {b : Needs} {d : ResponseDef} (h : Answers r b d) (a : Needs) : Answers r (a ++ b) d where
  type := h.type
  names x hx hname := (h.names x hx hname).append_right a
  model := h.model
  adapter := h.adapter
  makes x hx := (h.makes x hx).imp (·.append_right a)
    fun ⟨d, hd, hname⟩ => ⟨d, Option.or_eq_some_iff.mpr (.inl hd), hname⟩

omit hr in
theorem Answers.append_symbols {d : ResponseDef} (h : Answers r n d) (symbols : List String) :
    Answers r (n ++ .ofSymbols symbols) d where
  type := h.type
  names x hx hname := (h.names x hx hname).append_left _
  model := h.model
  adapter := h.adapter
  makes x hx := (h.makes x hx).imp (·.append_left _) id

omit hr in
theorem adapterName_isWord (m : Method) : IsWord (adapterName m) := by
  cases m <;> decide +kernel

omit hr in
theorem answers_model {c : Compiled} (h : c.Complete r) {kind : ResponseKind} (hkind : kind ≠ .adapter)
    {symbol : String} (hword : IsWord symbol) (hsymbol : symbol ∈ c.type.names) :
    Answers r (.ofCompiled c) ⟨kind, c.type, some symbol, none⟩ where
  type := h.type
  names x hx _ := h.type_names x hx
  model := hword
  adapter := (by decide : IsWord "None")
  makes x hx := by
    cases hx with
    | model => exact .inl (h.type_names _ hsymbol)
    | adapter h => exact absurd h hkind

omit hr in
theorem complete_adapted {c : Compiled} (h : c.Complete r) (m : Method) : (adaptedNeeds m c).Complete r where
  symbols := by
    have hadapter : ["TypeAdapter"] ⊆ Library.symbols := by decide
    exact List.append_subset.mpr ⟨h.symbols, hadapter⟩
  classes := List.forall_mem_append.mpr ⟨h.classes, by simp⟩
  class_names := List.forall_mem_append.mpr
    ⟨fun k hk x hx => (Needs.provides_ofCompiled (h.class_names k hk x hx)).append_left _, by simp⟩
  adapter a ha := by
    cases ha
    exact ⟨adapterName_isWord _, h.type, List.mem_append_right _ (List.mem_singleton_self _),
      fun x hx => (Needs.provides_ofCompiled (h.type_names x hx)).append_left _⟩

omit hr in
theorem answers_adapted {c : Compiled} (h : c.Complete r) (m : Method) :
    Answers r (adaptedNeeds m c) ⟨.adapter, c.type, none, some (adapterName m)⟩ where
  type := h.type
  names x hx _ := (Needs.provides_ofCompiled (h.type_names x hx)).append_left _
  model := (by decide : IsWord "None")
  adapter := adapterName_isWord m
  makes x hx := by
    cases hx with
    | model h => rcases h with h | h <;> cases h
    | adapter => exact .inr ⟨_, rfl, rfl⟩

theorem isReadBy_complete {c : Compiled} (h : c.Complete r) {m : Method} {d : ResponseDef}
    (hread : IsReadBy r m c (d, n)) : n.Complete r ∧ Answers r n d := by
  cases hread with
  | adapter => exact ⟨complete_adapted h m, answers_adapted h m⟩
  | @model e he htype =>
    have hname : e.symbol ∈ c.type.names := htype ▸ List.mem_singleton_self _
    exact ⟨Needs.complete_ofCompiled h, answers_model h (by decide) (hr e he) hname⟩
  | @list e he htype =>
    have hname : e.symbol ∈ c.type.names := htype ▸ List.mem_cons_of_mem _ (List.mem_singleton_self _)
    exact ⟨Needs.complete_ofCompiled h, answers_model h (by decide) (hr e he) hname⟩

theorem responseDef_complete {hint : String} (hhint : IsWord hint)
    (hplain : ∀ a ∈ o.responses, ∀ s ∈ a.schema, s.IsPlain) {d : ResponseDef}
    (h : responseDef r hint o = .ok (d, n)) : n.Complete r ∧ Answers r n d := by
  obtain ⟨-, rfl, rfl⟩ | ⟨s, c, hschema, hc, hresult⟩ := responseDef_eq_ok h
  · have hnone : ∀ x ∈ ResponseDef.nothing.type.names, Token.isName x = false := by decide
    refine ⟨Needs.complete_ofSymbols (by simp), (by decide : IsWord "None"), fun x hx hname => ?_, by decide, by decide,
      fun x hx => ?_⟩
    · rw [hnone x hx] at hname
      cases hname
    · cases hx with
      | model h => rcases h with h | h <;> cases h
      | adapter h => cases h
  · obtain ⟨a, ha, hschema⟩ := List.exists_of_findSome?_eq_some hschema
    have hplain : s.IsPlain := hplain a (List.mem_of_mem_filter ha) s hschema
    have hcomplete : c.Complete r :=
      Schema.compileAt_complete hr s hplain (hhint.append (by decide : IsWord "Response").2) hc
    exact isReadBy_complete hr hcomplete (hresult ▸ resultDef_isReadBy hc)

omit hr in
theorem declares_slots {d : OperationDef} (hoptional : "Optional" ∈ n.symbols)
    (hparams : ∀ p ∈ d.pathParams ++ d.keywordParams, Declares r n p)
    (hbody : ∀ b ∈ d.body, b.type.IsReadable ∧ ∀ x ∈ b.type.names, n.Provides r x) :
    ∀ s ∈ d.positional ++ d.keywords, (IsWord s.name ∧ s.type.IsReadable) ∧ ∀ x ∈ s.type.names, n.Provides r x := by
  obtain ⟨hpath, hkeyword⟩ := List.forall_mem_append.mp hparams
  simp only [OperationDef.positional, OperationDef.keywords, List.forall_mem_append, List.forall_mem_map]
  refine ⟨fun p hp => ⟨⟨(hpath p hp).name, (hpath p hp).type⟩, (hpath p hp).names⟩,
    ⟨fun p hp => ⟨⟨(hkeyword p hp).name, (hkeyword p hp).type⟩, (hkeyword p hp).names⟩, fun s hs => ?_⟩, ?_⟩
  · obtain ⟨b, hb, rfl⟩ := Option.map_eq_some_iff.mp (Option.mem_toList.mp hs)
    exact ⟨⟨(by decide : IsWord "body"), (hbody b hb).1⟩, (hbody b hb).2⟩
  · rw [List.forall_mem_singleton]
    refine ⟨⟨(by decide : IsWord "headers"), (by decide : IsWord "str")⟩, fun x hx => ?_⟩
    have hx : x ∈ ["Optional", "dict", "str", "str"] := hx
    simp only [List.mem_cons, List.not_mem_nil, or_false, or_self] at hx
    rcases hx with rfl | rfl | rfl
    · exact .symbol hoptional
    · exact .builtin (by decide)
    · exact .builtin (by decide)

omit hr in
theorem plain_parts (h : ∀ s ∈ o.schemas, s.IsPlain) : (∀ p ∈ inOrder o.parameters, p.schema.IsPlain) ∧
    (∀ b ∈ o.requestBody, ∀ s ∈ b.schema, s.IsPlain) ∧ ∀ a ∈ o.responses, ∀ s ∈ a.schema, s.IsPlain := by
  rw [Operation.schemas, List.forall_mem_append, List.forall_mem_append, List.forall_mem_map] at h
  obtain ⟨⟨hparameters, hbody⟩, hresponses⟩ := h
  refine ⟨fun p hp => hparameters p ?_, fun b hb s hs => hbody s ?_, fun a ha s hs => hresponses s ?_⟩
  · rcases List.mem_append.mp hp with hp | hp <;> exact List.mem_of_mem_filter hp
  · exact Option.mem_toList.mpr (Option.mem_bind_iff.mpr ⟨b, hb, hs⟩)
  · exact List.mem_filterMap.mpr ⟨a, ha, hs⟩

structure Served (r : Registry) (n : Needs) (d : OperationDef) : Prop where
  needs : n.Complete r
  name : IsWord d.name
  slots : ∀ s ∈ d.positional ++ d.keywords, (IsWord s.name ∧ s.type.IsReadable) ∧ ∀ x ∈ s.type.names, n.Provides r x
  answers : Answers r n d.response
  converts : d.Converts → "to_jsonable_python" ∈ n.symbols
  url : ∃ tokens, Reads d.url tokens ∧
    ∀ x ∈ Token.readsAll true .within tokens, ∃ p ∈ d.pathParams, x = p.name

omit hr in
theorem exists_pathArgument (r : Registry) (path : String) (declared : List ParamDef) :
    ∀ name ∈ Route.placeholders path, ∃ p ∈ (withPlaceholders r path declared).filter (·.location = .path),
      argumentFor ((withPlaceholders r path declared).filter (·.location = .path)) name = p.name := by
  intro name hname
  obtain ⟨p, hp, hlocation, hwire⟩ := exists_placeholder r declared hname
  have hp : p ∈ (withPlaceholders r path declared).filter (·.location = .path) :=
    List.mem_filter.mpr ⟨hp, by simpa using hlocation⟩
  obtain ⟨q, hq, -, hargument⟩ := exists_argument ⟨p, hp, hwire⟩
  exact ⟨q, hq, hargument⟩

omit hr in
theorem define_url {d : OperationDef} (h : define r o = .ok (d, n)) : ∃ tokens, Reads d.url tokens ∧
    ∀ x ∈ Token.readsAll true .within tokens, ∃ p ∈ d.pathParams, x = p.name := by
  have hnames := (define_serves h).names
  obtain ⟨declared, n₁, body, n₂, -, -, -, htakes, -⟩ := define_cases h
  have hargument : ∀ name ∈ Route.placeholders o.path, ∃ p ∈ d.pathParams,
      argumentFor ((withPlaceholders r o.path declared).filter (·.location = .path)) name = p.name := by
    intro name hname
    obtain ⟨p, hp, hargument⟩ := exists_pathArgument r o.path declared name hname
    exact ⟨p, htakes.path ▸ List.mem_mergeSort.mpr hp, hargument⟩
  rw [htakes.url]
  refine ⟨_, Route.reads_urlExpression fun name hname c hc => ?_, fun x hx => ?_⟩
  · obtain ⟨p, hp, hargument⟩ := hargument name hname
    rw [hargument] at hc
    refine (hnames p.name (List.mem_append_left _ (List.mem_map_of_mem ?_))).1.isWord.2 c hc
    exact List.mem_append_left _ (List.mem_append_left _ (List.mem_append_left _ hp))
  · obtain ⟨name, hname, rfl⟩ := Route.names_urlTokens hx
    exact hargument name hname

theorem optionalBody_complete {hint : String} (hhint : IsWord hint) {request : Option RequestBody}
    (hplain : ∀ b ∈ request, ∀ s ∈ b.schema, s.IsPlain) {body : Option (BodyDef × Needs)}
    (h : request.mapM (bodyDef r hint) = .ok body) : ((body.map Prod.snd).getD (Needs.ofSymbols [])).Complete r ∧
      ∀ b ∈ body.map Prod.fst, b.type.IsReadable ∧
        ∀ x ∈ b.type.names, x = "Optional" ∨ ((body.map Prod.snd).getD (Needs.ofSymbols [])).Provides r x := by
  cases request with
  | none =>
    cases h
    exact ⟨Needs.complete_ofSymbols (by simp), by simp⟩
  | some request =>
    rw [Option.mapM_some] at h
    obtain ⟨⟨b, n⟩, hresult, rfl⟩ := map_eq_ok.mp h
    obtain ⟨hcomplete, htype, hnames⟩ := bodyDef_complete hr hhint (hplain request rfl) hresult
    refine ⟨hcomplete, ?_⟩
    rintro b' ⟨⟩
    exact ⟨htype, hnames⟩

omit hr in
theorem conversions_subset (params : List ParamDef) (body : Option (BodyDef × Needs)) :
    conversions params body ⊆ Library.symbols := by
  have hknown : "to_jsonable_python" ∈ Library.symbols := by decide
  unfold conversions
  split <;> simp [hknown]

omit hr in
theorem mem_conversions {params : List ParamDef} {body : Option (BodyDef × Needs)} {d : OperationDef}
    (hquery : d.queryParams = params.filter (·.location = .query)) (hbody : d.body = body.map Prod.fst)
    (h : d.Converts) : "to_jsonable_python" ∈ conversions params body := by
  unfold conversions
  rw [if_pos]
  · exact List.mem_singleton_self _
  · rcases h with h | ⟨b, hb, hencoding⟩
    · rw [hquery] at h
      simp [h]
    · rw [hbody] at hb
      obtain ⟨result, rfl, rfl⟩ := Option.map_eq_some_iff.mp hb
      refine Bool.or_eq_true_iff.mpr (.inr ?_)
      rw [Option.any_some]
      simpa using hencoding

theorem define_served (hplain : ∀ s ∈ o.schemas, s.IsPlain) {d : OperationDef} (h : define r o = .ok (d, n)) :
    Served r n d := by
  have hurl := define_url h
  have hhint : IsWord (hintStart o) := pascalCase_isWord _
  obtain ⟨hparameters, hrequest, hresponses⟩ := plain_parts hplain
  obtain ⟨declared, needs₁, body, needs₂, hdeclared, hbody, hresponse, htakes, hmade, rfl⟩ := define_cases h
  have hstart : Needs.start.Complete r := Needs.complete_ofSymbols (by decide)
  obtain ⟨hparams, hneeds₁, hoptional⟩ :=
    declaredParams_complete hr hhint hparameters (by simp) hstart (by decide) hdeclared
  obtain ⟨hneeds₂, hanswers⟩ := responseDef_complete hr hhint hresponses hresponse
  obtain ⟨hbodyNeeds, hbodyType⟩ := optionalBody_complete hr hhint hrequest hbody
  have hparams := declares_withPlaceholders o.path hparams
  let params := withPlaceholders r o.path declared
  let needsBody := (body.map Prod.snd).getD (Needs.ofSymbols [])
  let n := needs₁ ++ needsBody ++ needs₂ ++ Needs.ofSymbols (conversions params body)
  have hoptional : "Optional" ∈ n.symbols :=
    List.mem_append_left _ (List.mem_append_left _ (List.mem_append_left _ hoptional))
  have hdeclares : ∀ p ∈ params, Declares r n p := fun p hp => ⟨(hparams p hp).name, (hparams p hp).type,
    fun x hx => ((((hparams p hp).names x hx).append_left _).append_left _).append_left _⟩
  have hcomplete : n.Complete r :=
    ((hneeds₁.append hbodyNeeds).append hneeds₂).append (Needs.complete_ofSymbols (conversions_subset params body))
  have hslots : ∀ p ∈ d.pathParams ++ d.keywordParams, Declares r n p := fun p hp => hdeclares p (htakes.mem_params hp)
  refine ⟨hcomplete, htakes.name ▸ identifier_isWord _, declares_slots hoptional hslots ?_,
    (hanswers.append_right _).append_symbols _,
    fun h => List.mem_append_right _ (mem_conversions htakes.query hmade h), hurl⟩
  intro b hb
  rw [hmade] at hb
  refine ⟨(hbodyType b hb).1, fun x hx => ?_⟩
  rcases (hbodyType b hb).2 x hx with rfl | hx
  · exact .symbol hoptional
  · exact ((hx.append_right _).append_left _).append_left _

end Parts

namespace Served

variable {d : OperationDef}

theorem isReadable (h : Served r n d) : d.IsReadable :=
  ⟨⟨h.name, fun s hs => (h.slots s hs).1, h.answers.type⟩, h.answers.model, h.answers.adapter⟩

theorem provides_of_mentions (h : Served r n d) (hx : d.Mentions x) (hname : Token.isName x = true) :
    x ∈ [d.name, "httpx", "sdk_config"] ∨ (∃ a ∈ n.adapter, a.name = x) ∨ n.Provides r x := by
  cases hx with
  | name => exact .inl List.mem_cons_self
  | slot hs hx => exact .inr (.inr ((h.slots _ hs).2 x hx))
  | result hx => exact .inr (.inr (h.answers.names x hx hname))
  | fixed hx =>
    simp only [List.mem_cons, List.not_mem_nil, or_false] at hx
    rcases hx with rfl | rfl | rfl | rfl
    · exact .inr (.inr (.builtin (by decide)))
    · exact .inr (.inr (.builtin (by decide)))
    · exact .inl (by simp)
    · exact .inl (by simp)
  | conversion hconverts => exact .inr (.inr (.symbol (h.converts hconverts)))
  | maker hx => exact .inr (h.answers.makes x hx).symm

theorem functionNames (h : Served r n d) : ∃ tokens, CodeReader.tokens? d.text = some tokens ∧
    ∀ x ∈ Token.functionNames tokens,
      x ∈ [d.name, "httpx", "sdk_config"] ∨ (∃ a ∈ n.adapter, a.name = x) ∨ n.Provides r x := by
  obtain ⟨url, hreads, hurl⟩ := h.url
  refine ⟨d.tokens url, tokens?_of_reads (OperationDef.reads_text h.isReadable hreads), fun x hx => ?_⟩
  exact h.provides_of_mentions (OperationDef.mentions_of_mem_functionNames hurl hx)
    (Token.isName_of_mem_functionNames hx)

end Served

end Request

end ClientForge
