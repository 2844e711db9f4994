import ClientForge.Proofs.Descriptions
import ClientForge.Proofs.RootChains
import ClientForge.Proofs.TypeNames

/-!
The class of a named schema: the only one of its name, when it takes any value at all, and when it takes none for a
value because the schema says so.
-/

namespace ClientForge

open Naming Outcome Registry

namespace Registry

/-- The classes of a named schema end with its own. No other class, also none of a schema without a name, is called like
a named schema or by a name that is kept free. -/
theorem classes_apart (r : Registry) :
    (∀ name e c, r.get? name = some e → e.compile r = .ok c → c.type.text = e.symbol ∧
      ∃ before own, c.models = before ++ [own] ∧ own.name = e.symbol ∧
        ∀ k ∈ before, k.name ≠ e.symbol ∧ k.name ∉ r.symbols ∧ k.name ∉ reservedSymbols) ∧
    ∀ s hint c, Schema.compile r s hint = .ok c → ∀ k ∈ c.models, k.name ∉ r.symbols ∧ k.name ∉ reservedSymbols := by
  have hfree {k : ClassDef} (hk : k.name ∉ r.taken) : k.name ∉ r.symbols ∧ k.name ∉ reservedSymbols :=
    ⟨fun h => hk (List.mem_append_left _ h), fun h => hk (List.mem_append_right _ h)⟩
  constructor
  · intro name e c he hc
    have hmem := (mem_of_get? he).1
    obtain ⟨before, own, hmodels, hown, hbefore⟩ := NamedSchema.compile_last hmem hc
    refine ⟨?_, before, own, hmodels, hown, fun k hk => ⟨fun hname => ?_, hfree (hbefore k hk)⟩⟩
    · obtain ⟨c', -, ⟨-, rfl⟩ | ⟨-, doc, -, ⟨-, rfl⟩ | ⟨-, rfl⟩⟩⟩ := NamedSchema.compile_eq_ok hc <;> rfl
    · exact hbefore k hk (hname ▸ symbol_mem_taken hmem)
  · intro s hint c hc k hk
    exact hfree ((Schema.compileAt_sound s hc).fresh_of_inner k hk)

theorem classes_apart_inner : ∃ (d : Document) (r : Registry) (e : NamedSchema) (c c' : Compiled),
    ofDocument d = .ok r ∧ r.get? "Pet" = some e ∧ e.compile r = .ok c ∧
      (∃ before own, c.models = before ++ [own] ∧ own.name = e.symbol ∧
        ∀ k ∈ before, k.name ≠ e.symbol ∧ k.name ∉ r.symbols ∧ k.name ∉ reservedSymbols) ∧
      c.models.map (·.name) = ["PetTagModel", "Pet"] ∧
      Schema.compile r (.object plainMarks [] [] none) "Pet" = .ok c' ∧
      (∀ k ∈ c'.models, k.name ∉ r.symbols ∧ k.name ∉ reservedSymbols) ∧ c'.models.map (·.name) = ["PetModel"] := by
  let bare : Schema := .object plainMarks [] [] none
  let pet : NamedSchema := ⟨"Pet", "Pet", "pet", .object plainMarks [("tag", bare)] [] none⟩
  let r : Registry := ⟨[pet, ⟨"PetTag", "PetTag", "pettag", bare⟩]⟩
  have hd : ofDocument (.map [(.text "Pet", objectOf [(.text "tag", objectOf [])]),
      (.text "PetTag", objectOf [])]) = .ok r := rfl
  obtain ⟨c, hc⟩ := exists_of_isOk (x := pet.compile r) (by decide +kernel)
  obtain ⟨c', hc'⟩ := exists_of_isOk (x := bare.compile r "Pet") (by decide +kernel)
  have hnames : (pet.compile r).map (fun c => c.models.map (·.name)) = .ok ["PetTagModel", "Pet"] := by decide +kernel
  have hnames' : (bare.compile r "Pet").map (fun c => c.models.map (·.name)) = .ok ["PetModel"] := by decide +kernel
  rw [hc] at hnames
  rw [hc'] at hnames'
  obtain ⟨hnamed, hinner⟩ := classes_apart r
  exact ⟨_, r, pet, c, c', hd, rfl, hc, (hnamed "Pet" pet c rfl hc).2, Except.ok.inj hnames, hc',
    hinner bare "Pet" c' hc', Except.ok.inj hnames'⟩

end Registry

namespace Schema

variable {r : Registry} {e : NamedSchema} {s : Schema} {hint : String} {c : Compiled}

/-- A schema that says nothing of its values, or comes to such schemas. -/
def SaysNothing : Schema → Prop := ReducesTo True (·.isBlank = true)

def IsReferenceTo (r : Registry) (e : NamedSchema) : Schema → Prop
  | .ref m name => m.nullable = false ∧ r.get? name = some e
  | _ => False

/-- A schema that comes to a reference to the named schema. It is nowhere nullable. -/
def RefersBack (r : Registry) (e : NamedSchema) : Schema → Prop := ReducesTo False (IsReferenceTo r e)

theorem saysNothing_iff (hr : r.Plain) : s.SaysNothing ↔ s.ComesDownTo r "Any" := by
  constructor
  · intro h
    exact h.imp (fun _ => rfl) fun s hs => .blank hs rfl
  · intro h
    refine h.imp (fun _ => trivial) fun s hs => ?_
    cases hs with
    | ref _ he hx =>
      have hreserved : "Any" ∈ reservedSymbols := by decide
      exact absurd (hx ▸ hreserved) (hr.unreserved _ (mem_of_get? he).1)
    | @primitive m type format _ hx =>
      have hmem := primitiveTypeName_mem type format
      rw [hx] at hmem
      exact absurd hmem (by decide)
    | blank hs _ => exact hs

theorem RefersBack.comesDownTo (h : s.RefersBack r e) : s.ComesDownTo r e.symbol := by
  refine h.imp False.elim fun s hs => ?_
  cases s with
  | ref m name => exact .ref (fun hnull => absurd (hs.1.symm.trans hnull) Bool.false_ne_true) hs.2 rfl
  | _ => cases hs

theorem refersBack_iff (hr : r.Plain) (he : e ∈ r.entries) (hplain : e.symbol ∉ ["str", "float", "bool", "bytes"]) :
    s.RefersBack r e ↔ s.ComesDownTo r e.symbol := by
  have hreserved {x : String} (hx : x ∈ reservedSymbols) : e.symbol ≠ x := fun heq => hr.unreserved e he (heq ▸ hx)
  refine ⟨RefersBack.comesDownTo, fun h => h.imp (hreserved (by decide)) fun s hs => ?_⟩
  cases hs with
  | ref hnull he' hx =>
    obtain rfl := List.inj_on_of_nodup_map hr.symbols (mem_of_get? he').1 he hx
    exact ⟨Bool.eq_false_iff.mpr fun h => hreserved (by decide) (hnull h), he'⟩
  | @primitive m type format _ hname =>
    have hmem := primitiveTypeName_mem type format
    have hlibrary : ["datetime", "date", "EmailStr", "AnyUrl", "UUID"] ⊆ reservedSymbols := by decide
    rw [hname] at hmem
    exact absurd rfl (hreserved (hlibrary ((List.mem_append.mp hmem).resolve_left hplain)))
  | blank _ hx => exact absurd hx (hreserved (by decide))

theorem ComesDownTo.isObject_eq_false {x : String} (h : s.ComesDownTo r x) : s.isObject = false := by
  cases h with
  | base h =>
    cases h with
    | blank hs _ => cases s <;> first | rfl | cases hs
    | _ => rfl
  | _ => rfl

theorem HasDoc.exists_classDoc (h : s.HasDoc) : ∃ doc, classDoc s.marks.description = .ok doc := by
  obtain ⟨doc, hdoc⟩ := h
  rw [hdoc]
  cases doc <;> exact ⟨_, rfl⟩

end Schema

namespace NamedSchema

variable {r : Registry} {e : NamedSchema} {d : Document}

theorem isObject_or_hasDoc (hd : ofDocument d = .ok r) (he : e ∈ r.entries) :
    e.schema.isObject = true ∨ e.schema.HasDoc :=
  forall_entries (P := fun e => e.schema.isObject = true ∨ e.schema.HasDoc) hd
    (fun _ _ _ _ _ h => Schema.ofDocument_hasDoc h) e he

theorem exists_compiled {x : String} (hd : ofDocument d = .ok r) (he : e ∈ r.entries)
    (h : e.schema.ComesDownTo r x) : ∃ c, e.compile r = .ok c := by
  obtain ⟨c, hc⟩ := h.exists_type e.symbol true
  obtain ⟨doc, hdoc⟩ := ((isObject_or_hasDoc hd he).resolve_left (by simp [h.isObject_eq_false])).exists_classDoc
  rw [compile, hc, hdoc]
  dsimp only [bind, Except.bind]
  split
  · exact ⟨_, rfl⟩
  · split <;> exact ⟨_, rfl⟩

theorem wraps_any_iff (hd : ofDocument d = .ok r) (he : e ∈ r.entries) :
    e.Wraps r .any ↔ e.schema.ComesDownTo r "Any" ∨ e.schema.ComesDownTo r e.symbol := by
  have hr := plain_of_ofDocument hd
  have hreserved : "Any" ∈ reservedSymbols := by decide
  have hsymbol : e.symbol ≠ "Any" := fun heq => hr.unreserved e he (heq ▸ hreserved)
  constructor
  · intro h
    obtain ⟨c, hc, hnames, htype⟩ := h.exists_type hr
    -- Either the type gave way because it was the name of the class, or it is any value by itself.
    split at htype
    · rename_i htext
      have hword := (symbols_areIdentifiers hd e he).isWord
      exact .inr (Schema.comesDownTo_of_type hword hc hnames (TypeExpr.eq_named_of_text hword htext))
    · have hnames := Schema.names_ne_of_compileAt hc (List.mem_append_right _ hreserved) fun _ => hsymbol
      exact .inl (Schema.comesDownTo_of_type (by decide) hc hnames htype.symm)
  · intro h
    have hcomes {x : String} (h : e.schema.ComesDownTo r x) : e.Wraps r (if x = e.symbol then .any else .named x) := by
      obtain ⟨c, hc⟩ := exists_compiled hd he h
      obtain ⟨c', hc', -⟩ := compile_cases hc
      obtain ⟨htype, hmodels, -⟩ := h.type_eq hc'
      have hwraps := wraps_of_compile hc hc' (by simp [hmodels])
      rwa [htype] at hwraps
    rcases h with h | h
    · have hwraps := hcomes h
      rwa [if_neg hsymbol.symm] at hwraps
    · have hwraps := hcomes h
      rwa [if_pos rfl] at hwraps

/-- The class of a named schema takes any value just where the schema says nothing or comes to a reference to itself,
or where plain types stand for it that its class is called like. -/
theorem takesAnything_iff (hd : ofDocument d = .ok r) (he : e ∈ r.entries) :
    e.Wraps r .any ↔ e.schema.SaysNothing ∨ e.schema.RefersBack r e ∨
      e.symbol ∈ ["str", "float", "bool", "bytes"] ∧ e.schema.StandsFor r e := by
  have hr := plain_of_ofDocument hd
  rw [wraps_any_iff hd he, ← Schema.saysNothing_iff hr, Schema.standsFor_iff hr he]
  apply or_congr_right
  by_cases hplain : e.symbol ∈ ["str", "float", "bool", "bytes"]
  · rw [and_iff_right hplain]
    exact (or_iff_right_of_imp Schema.RefersBack.comesDownTo).symm
  · rw [Schema.refersBack_iff hr he hplain, or_iff_left fun h => hplain h.1]

theorem takesAnything_collapsed : ∃ (d : Document) (r : Registry) (e : NamedSchema), ofDocument d = .ok r ∧
    e ∈ r.entries ∧ e.schema.RefersBack r e ∧ e.Wraps r .any := by
  let node : NamedSchema := ⟨"Node", "Node", "node", .allOf plainMarks
    [.union plainMarks .oneOf [.ref plainMarks "Node", .ref plainMarks "Node"], .untyped plainMarks]⟩
  let r : Registry := ⟨[node]⟩
  have hd : ofDocument (.map [(.text "Node", intersectionOf
      [.map [(.text "oneOf", .list [referenceTo "Node", referenceTo "Node"])], .map []])]) = .ok r := rfl
  have hback : node.schema.RefersBack r node := by
    refine .allOf nofun rfl (.union nofun (by decide) fun s hs => ?_)
    rcases List.mem_pair.mp hs with rfl | rfl <;> exact .base ⟨rfl, rfl⟩
  exact ⟨_, r, node, hd, List.mem_singleton_self _,
    hback, (takesAnything_iff hd (List.mem_singleton_self _)).mpr (.inr (.inl hback))⟩

theorem takesAnything_misled : ∃ (d : Document) (r : Registry) (e : NamedSchema), ofDocument d = .ok r ∧
    e ∈ r.entries ∧ ¬e.schema.SaysNothing ∧ ¬e.schema.RefersBack r e ∧ e.Wraps r .any := by
  let text : NamedSchema := ⟨"str", "str", "str", .primitive plainMarks .string none⟩
  have hd : ofDocument (.map [(.text "str", .map [(.text "type", .text "string")])]) = .ok ⟨[text]⟩ := rfl
  refine ⟨_, _, text, hd, List.mem_singleton_self _, nofun, nofun, ?_⟩
  exact (wraps_any_iff hd (List.mem_singleton_self _)).mpr (.inr (.base (.primitive nofun rfl)))

end NamedSchema

def AllowsNone (text : String) : Prop := text = "Any" ∨ "Optional[".toList <+: text.toList

theorem TypeExpr.takesNone_iff (t : TypeExpr) : t.takesNone = true ↔ AllowsNone t.text := by
  have hbegins {text : String} (h : AllowsNone text) : text.toList.take 3 ∈ ["Any".toList, "Opt".toList] := by
    rcases h with rfl | ⟨rest, hrest⟩
    · decide
    · rw [← hrest]
      exact List.mem_cons_of_mem _ (List.mem_singleton_self _)
  cases t with
  | named name => simp [takesNone, AllowsNone, text]
  | optional inner => simp [takesNone, AllowsNone, text]
  | _ =>
    refine iff_of_false Bool.false_ne_true fun h => ?_
    have hmem := hbegins h
    revert hmem
    simp [text]

namespace Schema

variable {r : Registry} {s : Schema} {hint : String} {top : Bool} {c : Compiled}

inductive MakesClass (r : Registry) : Schema → Prop
  | object {m : Marks} {properties : List (String × Schema)} {required : List String} {additional : Option Schema} :
    MakesClass r (.object m properties required additional)
  | models {m : Marks} {members : List Schema} (hseveral : 1 < (constraining members).length)
    (hmodels : (constraining members).all r.isModel = true) : MakesClass r (.allOf m members)
  | allOf {m : Marks} {members : List Schema} {s : Schema} (hmembers : constraining members = [s])
    (h : MakesClass r s) : MakesClass r (.allOf m members)
  | union {m : Marks} {kind : UnionKind} {s : Schema} (h : MakesClass r s) : MakesClass r (.union m kind [s])

theorem exists_markNullable (h : compileAt r s hint top = .ok c) : ∃ c', c = markNullable s.nullable c' := by
  cases compiles h <;> exact ⟨_, rfl⟩

theorem takesNone_markNullable (c : Compiled) : (markNullable true c).type.takesNone = true := by
  rw [markNullable, if_pos rfl, Compiled.orNone]
  split
  · assumption
  · rfl

theorem takesNone_of_compileAt (h : compileAt r s hint top = .ok c) (hnull : s.nullable = true) :
    c.type.takesNone = true := by
  obtain ⟨c', rfl⟩ := exists_markNullable h
  rw [hnull]
  exact takesNone_markNullable c'

theorem models_of_makesClass (h : s.MakesClass r) (hc : compileAt r s hint true = .ok c) :
    ∃ k ∈ c.models, k.name = hint := by
  induction h generalizing c with
  | object =>
    obtain ⟨before, k, hmodels, hk, -⟩ := compileAt_object_classes hc
    exact ⟨k, by simp [hmodels], hk⟩
  | models hseveral hmodels =>
    obtain ⟨parts, doc, -, rfl⟩ := compileAt_inherits hc hseveral hmodels
    rw [models_markNullable]
    exact ⟨_, List.mem_append_right _ (List.mem_singleton_self _), rfl⟩
  | allOf hmembers _ ih =>
    obtain ⟨c', hc', rfl⟩ := compileAt_allOf_single hc hmembers
    rw [models_markNullable]
    exact ih hc'
  | union _ ih =>
    obtain ⟨c', hc', rfl⟩ := compileAt_union_single hc
    rw [models_markNullable]
    exact ih hc'

theorem makesClass_of_models {k : ClassDef} (hc : compileAt r s hint top = .ok c) (hhint : hint ∈ r.taken)
    (hk : k ∈ c.models) (hname : k.name = hint) : s.MakesClass r := by
  -- No class made for a place inside of the schema has a name that is taken.
  have hinner {s : Schema} {hint' : String} {c : Compiled} (hc : compileAt r s hint' false = .ok c) : k ∉ c.models :=
    fun hk => (compileAt_sound s hc).fresh_of_inner k hk (hname ▸ hhint)
  have hmembers {hint word : String} {members : List Schema} {parts : List Compiled}
      (hparts : MakesParts r hint word members parts) : k ∉ parts.flatMap (·.models) := by
    intro hk
    obtain ⟨p, hp, hk⟩ := List.mem_flatMap.mp hk
    obtain ⟨s, -, i, hp⟩ := hparts.exists_member hp
    exact hinner hp hk
  have h := compiles hc
  clear hc hhint hname
  induction h with
  | object doc _ _ _ _ => exact .object
  | array hc _ _ =>
    rw [models_markNullable] at hk
    exact (hinner hc hk).elim
  | allOf hsingle _ _ ih =>
    rw [models_markNullable] at hk
    exact .allOf hsingle (ih hk)
  | union _ _ ih =>
    rw [models_markNullable] at hk
    exact .union (ih hk)
  | inherits doc hseveral hmodels _ _ _ => exact .models hseveral hmodels
  | checked _ _ hparts _ _ =>
    rw [models_markNullable, Compiled.combine, List.append_nil] at hk
    exact absurd hk (hmembers hparts)
  | any parts _ hparts _ _ =>
    rw [models_markNullable, models_combineAny] at hk
    exact absurd hk (hmembers hparts)
  | _ =>
    rw [models_markNullable] at hk
    cases hk

end Schema

namespace NamedSchema

variable {r : Registry} {e : NamedSchema} {d : Document}

theorem wraps_optional_iff (hd : ofDocument d = .ok r) (he : e ∈ r.entries) (hnull : e.schema.nullable = true) :
    (∃ t, e.Wraps r t ∧ AllowsNone t.text) ↔ (e.compile r).isOk = true ∧ ¬e.schema.MakesClass r := by
  have hr := plain_of_ofDocument hd
  constructor
  · rintro ⟨t, hwraps, -⟩
    obtain ⟨c, hc, hnames, -⟩ := hwraps.exists_type hr
    refine ⟨?_, fun hmakes => ?_⟩
    · obtain ⟨c', -, -, hc', -⟩ := hwraps
      rw [hc']
      rfl
    · obtain ⟨k, hk, hname⟩ := Schema.models_of_makesClass hmakes hc
      exact hnames k hk hname
  · rintro ⟨hok, hmakes⟩
    obtain ⟨c, hc⟩ := exists_of_isOk hok
    obtain ⟨c', hc', -⟩ := compile_cases hc
    have hnames : ∀ k ∈ c'.models, k.name ≠ e.symbol := fun k hk hname =>
      hmakes (Schema.makesClass_of_models hc' (symbol_mem_taken he) hk hname)
    refine ⟨_, wraps_of_compile hc hc' hnames, ?_⟩
    split
    · exact .inl rfl
    · exact (TypeExpr.takesNone_iff _).mp (Schema.takesNone_of_compileAt hc' hnull)

theorem compile_ref_allowsNone_iff (hd : ofDocument d = .ok r) (he : e ∈ r.entries) (m : Marks) (hint : String) :
    (∃ c, (Schema.ref m e.name).compile r hint = .ok c ∧ AllowsNone c.type.text) ↔ m.nullable = true := by
  have hr := plain_of_ofDocument hd
  have href : (Schema.ref m e.name).compile r hint =
      .ok (Schema.markNullable m.nullable ⟨.named e.symbol, [e.name], [], [], []⟩) := by
    rw [Schema.compile, Schema.compileAt, Schema.compileRef, hr.get?_name he]
    rfl
  rw [href]
  constructor
  · rintro ⟨c, hc, hnone⟩
    obtain rfl := Except.ok.inj hc
    by_contra hnull
    rw [Bool.eq_false_iff.mpr hnull, Schema.markNullable_false] at hnone
    have hany := TypeExpr.eq_any_of_takesNone (symbols_areIdentifiers hd e he).isWord
      ((TypeExpr.takesNone_iff _).mpr hnone)
    exact hr.unreserved e he (hany ▸ by decide)
  · intro hnull
    refine ⟨_, rfl, (TypeExpr.takesNone_iff _).mp ?_⟩
    rw [hnull]
    exact Schema.takesNone_markNullable _

/-- That a named schema takes none for a value is said by the references that say so themselves, or by the class around
its type. It is lost where the schema has a class of its own. -/
theorem nullable_kept_iff (hd : ofDocument d = .ok r) (he : e ∈ r.entries) (hnull : e.schema.nullable = true)
    (m : Marks) (hint : String) :
    (∃ c, (Schema.ref m e.name).compile r hint = .ok c ∧ AllowsNone c.type.text) ∨
        (∃ t, e.Wraps r t ∧ AllowsNone t.text) ↔
      m.nullable = true ∨ (e.compile r).isOk = true ∧ ¬e.schema.MakesClass r := by
  rw [compile_ref_allowsNone_iff hd he, wraps_optional_iff hd he hnull]

theorem nullable_kept_collapsed : ∃ (d : Document) (r : Registry) (e : NamedSchema), ofDocument d = .ok r ∧
    e ∈ r.entries ∧ e.schema.nullable = true ∧
      ((∃ c, (Schema.ref plainMarks e.name).compile r "Owner" = .ok c ∧ AllowsNone c.type.text) ∨
        ∃ t, e.Wraps r t ∧ AllowsNone t.text) := by
  let number : NamedSchema := ⟨"Number", "Number", "number", .allOf ⟨true, .absent⟩
    [.union plainMarks .oneOf [.primitive plainMarks .string none, .primitive plainMarks .number none],
      .untyped plainMarks]⟩
  let r : Registry := ⟨[number]⟩
  have hd : ofDocument (.map [(.text "Number", .map [(.text "nullable", .bool true), (.text "allOf", .list
      [.map [(.text "oneOf", .list [.map [(.text "type", .text "string")], .map [(.text "type", .text "number")]])],
        .map []])])]) = .ok r := rfl
  have hok : (number.compile r).isOk = true := by decide +kernel
  have hmakes : ¬number.schema.MakesClass r := by
    intro h
    cases h with
    | models hseveral _ => exact absurd hseveral (by decide)
    | allOf hmembers h =>
      obtain rfl := List.singleton_inj.mp hmembers
      cases h
  exact ⟨_, r, number, hd, List.mem_singleton_self _, rfl,
    (nullable_kept_iff hd (List.mem_singleton_self _) rfl plainMarks "Owner").mpr (.inr ⟨hok, hmakes⟩)⟩

theorem nullable_lost : ∃ (d : Document) (r : Registry) (e : NamedSchema), ofDocument d = .ok r ∧ e ∈ r.entries ∧
    e.schema.nullable = true ∧
      ¬((∃ c, (Schema.ref plainMarks e.name).compile r "Owner" = .ok c ∧ AllowsNone c.type.text) ∨
        ∃ t, e.Wraps r t ∧ AllowsNone t.text) := by
  let pet : NamedSchema := ⟨"Pet", "Pet", "pet", .object ⟨true, .absent⟩ [] [] none⟩
  have hd : ofDocument (.map [(.text "Pet", .map [(.text "type", .text "object"), (.text "properties", .map []),
      (.text "nullable", .bool true)])]) = .ok ⟨[pet]⟩ := rfl
  refine ⟨_, _, pet, hd, List.mem_singleton_self _, rfl, ?_⟩
  rw [compile_ref_allowsNone_iff hd (List.mem_singleton_self _), wraps_optional_iff hd (List.mem_singleton_self _) rfl]
  rintro (hnull | ⟨-, hmakes⟩)
  · cases hnull
  · exact hmakes .object

end NamedSchema

end ClientForge
