import ClientForge.Proofs.FieldNames
import ClientForge.Proofs.TypeWords

/-!
Fields that hide types: in a class, the name of a field stands for its value from there on, also where a type has that
name. Such names are avoided, but before what is put behind a name to tell it from others.
-/

namespace ClientForge

open Naming Outcome

/-- What a name in a type stands for: a built-in type, a library name, the class of a named schema, or a class made
for a place, which `P` says something about. -/
inductive StandsForType (r : Registry) (P : String → Prop) (x : String) : Prop
  | builtin (h : x ∈ builtins)
  | library (h : x ∈ reservedSymbols)
  | schema (h : x ∈ r.symbols)
  | place (h : P x)

theorem StandsForType.imp {r : Registry} {P Q : String → Prop} {x : String} (h : StandsForType r P x)
    (hPQ : P x → Q x) : StandsForType r Q x := by
  cases h with
  | builtin h => exact .builtin h
  | library h => exact .library h
  | schema h => exact .schema h
  | place h => exact .place (hPQ h)

namespace ClassDef

def types (k : ClassDef) : List TypeExpr := k.fields.map (·.type) ++ k.extra.toList

structure IsPlaced (r : Registry) (k : ClassDef) : Prop where
  fields : ∀ f ∈ k.fields, ∃ required before property type, f = Schema.fieldOf r required before property type
  types : ∀ t ∈ k.types, ∀ x ∈ t.names, StandsForType r (Inside · k.name) x

end ClassDef

namespace Compiled

variable {r : Registry} {place start x : String} {c : Compiled} {symbols : List String}

structure IsPlaced (r : Registry) (place : String) (c : Compiled) : Prop where
  type : ∀ x ∈ c.type.names, StandsForType r (Extends · place) x
  classes : ∀ k ∈ c.models, k.IsPlaced r

theorem IsPlaced.mono (h : c.IsPlaced r place) (hplace : Extends place start) : c.IsPlaced r start where
  type x hx := (h.type x hx).imp fun hx => hx.trans hplace
  classes := h.classes

theorem isPlaced_plain (h : x ∈ builtins ++ reservedSymbols) : (plain (.named x) symbols).IsPlaced r place where
  type y hy := by
    rw [List.mem_singleton.mp hy]
    exact (List.mem_append.mp h).elim .builtin .library
  classes k hk := by cases hk

theorem isPlaced_anything : anything.IsPlaced r place := isPlaced_plain (by decide)

theorem IsPlaced.list (h : c.IsPlaced r place) : IsPlaced r place { c with type := .list c.type } where
  type x hx := by
    rcases List.mem_cons.mp hx with rfl | hx
    · exact .builtin (by decide)
    · exact h.type x hx
  classes := h.classes

theorem standsForType_orNone {P : String → Prop} {t : TypeExpr} (h : ∀ x ∈ t.names, StandsForType r P x) :
    ∀ x ∈ t.orNone.names, StandsForType r P x := by
  intro x hx
  rcases TypeExpr.names_orNone hx with hx | ⟨rfl, -⟩
  · exact h x hx
  · exact .library (by decide)

theorem IsPlaced.markNullable (h : c.IsPlaced r place) (nullable : Bool) :
    (Schema.markNullable nullable c).IsPlaced r place where
  type := by
    have htype : c.orNone.type = c.type.orNone := by
      unfold Compiled.orNone TypeExpr.orNone
      split <;> rfl
    unfold Schema.markNullable
    split
    · rw [htype]
      exact standsForType_orNone h.type
    · exact h.type
  classes := by
    rw [Schema.models_markNullable]
    exact h.classes

theorem isPlaced_combine {type : TypeExpr} {parts : List Compiled} {models : List ClassDef}
    {runtimeRefs : List String} (htype : ∀ x ∈ type.names, StandsForType r (Extends · place) x)
    (hparts : ∀ p ∈ parts, ∀ k ∈ p.models, k.IsPlaced r) (hmodels : ∀ k ∈ models, k.IsPlaced r) :
    (combine type parts symbols models runtimeRefs).IsPlaced r place where
  type := htype
  classes k hk := by
    rcases List.mem_append.mp hk with hk | hk
    · obtain ⟨p, hp, hk⟩ := List.mem_flatMap.mp hk
      exact hparts p hp k hk
    · exact hmodels k hk

end Compiled

namespace Schema

variable {r : Registry} {s : Schema} {hint name : String} {top : Bool} {c : Compiled} {k : ClassDef}
  {members : List Schema} {parts : List Compiled}

theorem isPlaced_inherits {bases : List String} {doc : Option String} (hparts : ∀ p ∈ parts, p.IsPlaced r hint) :
    Compiled.IsPlaced r hint (.combine (.named (className r hint top)) parts []
      [⟨className r hint top, bases, doc, [], [], none⟩] []) := by
  refine Compiled.isPlaced_combine (fun x hx => ?_) (fun p hp => (hparts p hp).classes) ?_
  · rw [List.mem_singleton.mp hx]
    exact .place (extends_className r hint top)
  · rw [List.forall_mem_singleton]
    exact ⟨List.forall_mem_nil _, List.forall_mem_nil _⟩

theorem isPlaced_checked {first : Compiled} {others : List Compiled} {runtimeRefs : List String}
    (hparts : ∀ p ∈ first :: others, p.IsPlaced r hint) :
    Compiled.IsPlaced r hint (.combine (.checked first.type (others.map (·.type))) (first :: others)
      ["Annotated", "BeforeValidator", "TypeAdapter"] [] runtimeRefs) := by
  refine Compiled.isPlaced_combine (fun x hx => ?_) (fun p hp => (hparts p hp).classes) (List.forall_mem_nil _)
  rw [TypeExpr.names, List.mem_append, List.mem_append] at hx
  rcases hx with (hx | hx) | hx
  · have hlibrary : ["Annotated", "BeforeValidator", "TypeAdapter"] ⊆ reservedSymbols := by decide
    exact .library (hlibrary hx)
  · exact (hparts first List.mem_cons_self).type x hx
  · obtain ⟨t, ht, hx⟩ := TypeExpr.mem_allNames.mp hx
    obtain ⟨p, hp, rfl⟩ := List.mem_map.mp ht
    exact (hparts p (List.mem_cons_of_mem _ hp)).type x hx

theorem isPlaced_combineAny (hparts : ∀ p ∈ parts, p.IsPlaced r hint) : (combineAny parts).IsPlaced r hint := by
  have hmember {t : TypeExpr} (ht : t ∈ TypeExpr.distinct (parts.map (·.type))) :
      ∀ x ∈ t.names, StandsForType r (Extends · hint) x := by
    obtain ⟨p, hp, rfl⟩ := List.mem_map.mp (TypeExpr.mem_of_mem_distinct ht)
    exact (hparts p hp).type
  have hclasses := fun p hp => (hparts p hp).classes
  unfold combineAny
  split
  · rename_i t hdistinct
    exact Compiled.isPlaced_combine (hmember (hdistinct ▸ List.mem_cons_self)) hclasses (List.forall_mem_nil _)
  · refine Compiled.isPlaced_combine (fun x hx => ?_) hclasses (List.forall_mem_nil _)
    rw [TypeExpr.names] at hx
    rcases List.mem_cons.mp hx with rfl | hx
    · exact .library (by decide)
    · obtain ⟨t, ht, hx⟩ := TypeExpr.mem_allNames.mp hx
      exact hmember ht x hx

theorem isPlaced_parts {word : String} (hword : IsRaised word) (hparts : MakesParts r hint word members parts)
    (ih : ∀ s ∈ members, ∀ hint c, compileAt r s hint false = .ok c → c.IsPlaced r hint) :
    ∀ p ∈ parts, p.IsPlaced r hint := by
  intro p hp
  obtain ⟨s, hs, k, hc⟩ := hparts.exists_member hp
  have hinside : Inside (hint ++ word ++ toString k) hint := by
    rw [String.append_assoc]
    exact inside_append hint (hword.append (toString k))
  exact (ih s hs _ p hc).mono hinside.extends

theorem inside_of_extends {x place : String} (hx : Extends x place) (hplace : Inside place name) : Inside x name := by
  obtain ⟨rest, hx, -⟩ := hx
  obtain ⟨word, rfl, hword⟩ := hplace
  have heq : x = name ++ (word ++ .ofList rest) := by
    apply String.toList_injective
    simp [hx]
  exact heq ▸ inside_append name (hword.append _)

theorem isPlaced_object {properties : List (String × Schema)} {required : List String} {additional : Option Schema}
    {draft : ClassDraft} {extra : Option Compiled}
    (hdraft : compileProperties r required (className r hint top) .start properties = .ok draft)
    (hextra : compileAdditional r (className r hint top ++ "Value") additional = .ok extra)
    (ih : ∀ s ∈ properties.map (·.2) ++ additional.toList, ∀ hint c, compileAt r s hint false = .ok c →
      c.IsPlaced r hint) (doc : Option String) (isOpen : Bool) :
    (draft.finish (className r hint top) doc isOpen extra).IsPlaced r hint := by
  -- The types of fields name classes made for places inside of this class, and so from `hint` on.
  have hparts := (object_parts hdraft hextra).2
  obtain ⟨fields, hfields, hmade, -⟩ := compileProperties_fields hdraft
  obtain rfl : draft.fields = fields := hfields
  have hinside {c : Compiled} {place : String} (hc : c.IsPlaced r place)
      (hplace : Inside place (className r hint top)) :
      ∀ x ∈ c.type.names, StandsForType r (Inside · (className r hint top)) x :=
    fun x hx => (hc.type x hx).imp fun hx => inside_of_extends hx hplace
  refine Compiled.isPlaced_combine (fun x hx => ?_) (fun p hp => ?_) ?_
  · rw [List.mem_singleton.mp hx]
    exact .place (extends_className r hint top)
  · obtain ⟨s, hs, place, -, hc⟩ := hparts p hp
    exact (ih s hs place p hc).classes
  · rw [List.forall_mem_singleton]
    refine ⟨fun f hf => ?_, fun t ht => ?_⟩
    · obtain ⟨p, -, before, place, c, -, -, rfl⟩ := exists_left_of_mem hmade hf
      exact ⟨required, before, p.1, c.type, rfl⟩
    · rcases List.mem_append.mp ht with ht | ht
      · obtain ⟨f, hf, rfl⟩ := List.mem_map.mp ht
        obtain ⟨p, hp, before, place, c, hplace, hc, rfl⟩ := exists_left_of_mem hmade hf
        have hnames := hinside (ih _ (List.mem_append_left _ (List.mem_map_of_mem hp)) place c hc) hplace
        change ∀ x ∈ (if required.contains p.1 then c.type else c.type.orNone).names, _
        split
        · exact hnames
        · exact Compiled.standsForType_orNone hnames
      · obtain ⟨p, rfl, rfl⟩ := Option.map_eq_some_iff.mp (Option.mem_toList.mp ht)
        obtain ⟨s, hs, hc⟩ := compileAdditional_eq_some hextra
        have hplaced := ih s (List.mem_append_right _ (by simp [hs])) _ p hc
        intro x hx
        simp only [TypeExpr.names, List.mem_cons] at hx
        rcases hx with rfl | rfl | hx
        · exact .builtin (by decide)
        · exact .builtin (by decide)
        · exact hinside hplaced (inside_append _ (by decide)) x hx

theorem compileAt_isPlaced (s : Schema) (h : compileAt r s hint top = .ok c) : c.IsPlaced r hint := by
  replace h := compiles h
  induction h with
  | ref he =>
    refine Compiled.IsPlaced.markNullable ⟨fun x hx => ?_, List.forall_mem_nil _⟩ _
    rw [List.mem_singleton.mp hx]
    exact .schema (List.mem_map_of_mem (Registry.mem_of_get? he).1)
  | object doc hdraft hextra _ ih => exact (isPlaced_object hdraft hextra ih doc _).markNullable _
  | array _ _ ih => exact (ih.mono (inside_append _ (by decide)).extends).list.markNullable _
  | literal =>
    refine Compiled.IsPlaced.markNullable ⟨fun x hx => ?_, List.forall_mem_nil _⟩ _
    rw [List.mem_singleton.mp hx]
    exact .library (by decide)
  | primitive =>
    have hknown : ["str", "float", "bool", "bytes"] ++ ["datetime", "date", "EmailStr", "AnyUrl", "UUID"] ⊆
        builtins ++ reservedSymbols := by decide
    exact (Compiled.isPlaced_plain (hknown (primitiveTypeName_mem _ _))).markNullable _
  | blank _ => exact Compiled.isPlaced_anything.markNullable _
  | allOf _ _ _ ih => exact ih.markNullable _
  | union _ _ ih => exact ih.markNullable _
  | inherits doc _ _ hparts _ ih =>
    have hplaced := isPlaced_parts (by decide) hparts fun s hs => ih s (constraining_subset hs)
    exact (isPlaced_inherits hplaced).markNullable _
  | checked _ _ hparts _ ih =>
    have hplaced := isPlaced_parts (by decide) hparts fun s hs => ih s (constraining_subset hs)
    exact (isPlaced_checked hplaced).markNullable _
  | any parts _ hparts _ ih => exact (isPlaced_combineAny (isPlaced_parts (by decide) hparts ih)).markNullable _

end Schema

namespace Naming

variable {name property : String}

theorem guardKeyword_eq_of_notMem {s : List Char} (h : '_' ∉ guardKeyword s) : guardKeyword s = s := by
  unfold guardKeyword at h ⊢
  split at h
  · simp at h
  · rw [if_neg ‹_›]

theorem guardDigit_eq_of_notMem {s : List Char} (h : '_' ∉ guardDigit s) : guardDigit s = s := by
  cases s with
  | nil => simp [guardDigit] at h
  | cons c rest =>
    rw [guardDigit] at h ⊢
    split at h
    · simp at h
    · rw [if_neg ‹_›]

theorem identifier_eq_of_notMem (h : '_' ∉ (identifier name).toList) : identifier name = name := by
  rw [identifier, String.toList_ofList, identifierChars] at h
  rw [identifier, identifierChars]
  have hkeyword := guardKeyword_eq_of_notMem h
  rw [hkeyword] at h ⊢
  have hdigit := guardDigit_eq_of_notMem h
  rw [hdigit] at h ⊢
  have hmap : name.toList.map (fun c => if isWordChar c then c else '_') = name.toList.map id := by
    apply List.map_congr_left
    intro c hc
    by_contra hne
    have hmark : (if isWordChar c then c else '_') = '_' := if_neg fun hword => hne (if_pos hword)
    exact h (List.mem_map.mpr ⟨c, hc, hmark⟩)
  rw [hmap, List.map_id, String.ofList_toList]

theorem fieldName_eq_of_notMem (h : '_' ∉ (fieldName property).toList) : fieldName property = property := by
  unfold fieldName at h ⊢
  extract_lets name name' at h
  extract_lets
  have hfree : ¬(decide (name' ∈ modelAttributes) || decide (name' ∈ reservedSymbols)) = true := by
    intro hmem
    rw [if_pos hmem] at h
    simp at h
  rw [if_neg hfree] at h ⊢
  have hmark : ¬name.toList.head? = some '_' := by
    intro hhead
    simp [name', if_pos hhead] at h
  have hname : name' = name := if_neg hmark
  rw [hname] at h ⊢
  exact identifier_eq_of_notMem h

end Naming

namespace Registry

variable {r : Registry} {property : String} {taken : List String}

theorem unique_fieldStem_eq (h : '_' ∉ (unique (r.fieldStem property) taken "_").toList) :
    unique (r.fieldStem property) taken "_" = property := by
  rcases unique_eq (r.fieldStem property) taken "_" with heq | ⟨k, heq⟩
  · rw [heq] at h ⊢
    unfold fieldStem at h ⊢
    split at h
    · simp at h
    · rw [if_neg ‹_›]
      exact fieldName_eq_of_notMem h
  · rw [heq, numbered] at h
    simp at h

theorem notMem_of_unique_fieldStem (h : unique (r.fieldStem property) taken "_" = property) : property ∉ r.symbols := by
  intro hsymbol
  have hname : fieldName property = property := by
    have hfield := (r.fieldStem_isFieldName property).unique taken
    rw [h] at hfield
    exact hfield.fieldName_eq
  have hstem : r.fieldStem property = property ++ "_" := by simp [fieldStem, hname, hsymbol]
  rw [hstem] at h
  have hlength : property.length < (unique (property ++ "_") taken "_").length := by
    rcases unique_eq (property ++ "_") taken "_" with heq | ⟨k, heq⟩
    · rw [heq, String.length_append]
      exact Nat.lt_succ_self _
    · rw [heq, numbered, String.length_append, String.length_append, String.length_append]
      have hmark : "_".length = 1 := rfl
      omega
  rw [h] at hlength
  exact lt_irrefl _ hlength

end Registry

/-- How a field comes by the name of a type: its property has the name of a built-in type, or is given that of the
class of a named schema, or the name is such as classes made for places inside of its own have. -/
inductive FieldDef.TakesName (r : Registry) (k : ClassDef) (f : FieldDef) : Prop
  | builtin (hdata : f.dataName = none) (hname : f.name ∈ ["str", "float", "bool", "bytes", "list"])
  | schema (hdata : f.dataName ≠ none) (hname : f.name ∈ r.symbols)
  | place (hname : Inside f.name k.name)

namespace Schema

variable {r : Registry} {s : Schema} {hint : String} {c : Compiled} {k : ClassDef} {f : FieldDef} {t : TypeExpr}

theorem dataName_fieldOf (required : List String) (before : List FieldDef) (property : String) (type : TypeExpr) :
    (fieldOf r required before property type).dataName = none ↔
      (fieldOf r required before property type).name = property := by
  unfold fieldOf
  extract_lets name name' name'' isRequired
  dsimp only
  split <;> simp [*]

theorem takesName_of_mem (hk : k.IsPlaced r) (hf : f ∈ k.fields) (ht : t ∈ k.types) (h : f.name ∈ t.names) :
    f.TakesName r k := by
  obtain ⟨required, before, property, type, hmade⟩ := hk.fields f hf
  have hname : f.name = unique (r.fieldStem property) (before.map (·.name)) "_" := by
    rw [hmade]
    rfl
  have hdata : f.dataName = none ↔ f.name = property := by
    rw [hmade]
    exact dataName_fieldOf required before property type
  have hfield : IsFieldName f.name := hname ▸ (r.fieldStem_isFieldName property).unique _
  cases hk.types t ht f.name h with
  | builtin hbuiltin =>
    -- No built-in name has a mark in it, as every name has that was changed.
    have hmark : ∀ x ∈ builtins, '_' ∉ x.toList := by decide
    have hkept : f.name = property := by
      rw [hname]
      exact Registry.unique_fieldStem_eq (hname ▸ hmark f.name hbuiltin)
    have hdict : f.name ≠ "dict" := fun hdict => hfield.notAttribute (hdict ▸ by decide)
    refine .builtin (hdata.mpr hkept) ?_
    have hsplit : builtins = ["str", "float", "bool", "bytes", "list"] ++ ["dict"] := rfl
    rw [hsplit] at hbuiltin
    exact (List.mem_append.mp hbuiltin).resolve_right fun hdict' => hdict (List.mem_singleton.mp hdict')
  | library hreserved => exact absurd hreserved hfield.notReserved
  | schema hsymbol =>
    refine .schema (fun hnone => ?_) hsymbol
    have hkept := hdata.mp hnone
    rw [hkept] at hsymbol hname
    exact Registry.notMem_of_unique_fieldStem hname.symm hsymbol
  | place hplace => exact .place hplace

/-- A field of a class hides a type there in one of three ways only. So none is called like a word in the types just
where none of the fields that come by the name of a type is called like one in these types, and none like a word that
names no type. -/
theorem types_apart_iff (h : compile r s hint = .ok c) (hk : k ∈ c.models) :
    (∀ f ∈ k.fields, ∀ t ∈ k.types, f.name ∈ t.names → f.TakesName r k) ∧
    ((∀ f ∈ k.fields, ∀ t ∈ k.types, f.name ∉ t.names ++ t.asides) ↔
      ∀ f ∈ k.fields, ∀ t ∈ k.types, (f.TakesName r k → f.name ∉ t.names) ∧ f.name ∉ t.asides) := by
  have htakes : ∀ f ∈ k.fields, ∀ t ∈ k.types, f.name ∈ t.names → f.TakesName r k :=
    fun f hf t ht => takesName_of_mem ((compileAt_isPlaced s h).classes k hk) hf ht
  refine ⟨htakes, forall₂_congr fun f hf => forall₂_congr fun t ht => ?_⟩
  rw [List.mem_append, not_or]
  apply and_congr_left'
  exact ⟨fun hnot _ => hnot, fun hnot hmem => hnot (htakes f hf t ht hmem) hmem⟩

theorem types_apart_marked : ∃ (d : Document) (r : Registry) (properties : List (String × Schema)) (c : Compiled)
    (k : ClassDef), Registry.ofDocument d = .ok r ∧
      compile r (.object Registry.plainMarks properties [] none) "Owner" = .ok c ∧ k ∈ c.models ∧
      k.fields.map (·.name) = ["Pet_", "dog", "str"] ∧
      ∀ f ∈ k.fields, ∀ t ∈ k.types, f.name ∉ t.names ++ t.asides := by
  let r : Registry := ⟨[⟨"Pet", "Pet", "pet", .object Registry.plainMarks [] [] none⟩]⟩
  let pet : Schema := .ref Registry.plainMarks "Pet"
  let properties := [("Pet", pet), ("dog", pet), ("str", .primitive Registry.plainMarks .number none)]
  have hd : Registry.ofDocument (.map [(.text "Pet", Registry.objectOf [])]) = .ok r := rfl
  have hok : (fun c => c.models.map fun k => (k.fields.map (·.name),
      decide (∀ f ∈ k.fields, ∀ t ∈ k.types, f.name ∉ t.names ∧ f.name ∉ t.asides))) <$>
        compile r (.object Registry.plainMarks properties [] none) "Owner" =
          .ok [(["Pet_", "dog", "str"], true)] := by decide +kernel
  obtain ⟨c, hc, hclasses⟩ := map_eq_ok.mp hok
  obtain ⟨k, hmodels, hk⟩ := List.map_eq_singleton_iff.mp hclasses
  obtain ⟨hnames, hapart⟩ := Prod.mk.inj hk
  have hapart := of_decide_eq_true hapart
  have hmem : k ∈ c.models := hmodels ▸ List.mem_singleton_self k
  refine ⟨_, r, properties, c, k, hd, hc, hmem, hnames, (types_apart_iff hc hmem).2.mpr fun f hf t ht => ?_⟩
  exact ⟨fun _ => (hapart f hf t ht).1, (hapart f hf t ht).2⟩

example : (compile ⟨[⟨"Pet", "Pet", "pet", .anything⟩, ⟨"Pet_", "Pet_", "pet_", .anything⟩]⟩
    (.object Registry.plainMarks [("Pet", .ref Registry.plainMarks "Pet_")] [] none) "Owner").map
      (fun c => c.models.map fun k => k.fields.map fun f => (f.name, f.type.text)) =
        .ok [[("Pet_", "Optional[Pet_]")]] := by decide +kernel

example : (compile .empty (.object Registry.plainMarks [("OwnerPet", .anything),
    ("pet", .object Registry.plainMarks [] [] none)] [] none) "Owner").map
      (fun c => c.models.map fun k => (k.name, k.fields.map fun f => (f.name, f.type.text))) =
        .ok [("OwnerPet", []), ("Owner", [("OwnerPet", "Any"), ("pet", "Optional[OwnerPet]")])] := by decide +kernel

theorem type_hidden : ∃ (r : Registry) (properties : List (String × Schema)) (c : Compiled) (k : ClassDef),
    Registry.ofDocument (.map []) = .ok r ∧ compile r (.object Registry.plainMarks properties [] none) "Model" = .ok c ∧
      k ∈ c.models ∧ ∃ f ∈ k.fields, ∃ t ∈ k.types, f.name ∈ t.names := by
  let properties : List (String × Schema) := [("str", .primitive Registry.plainMarks .string none)]
  have hok : (fun c => c.models.map fun k => k.fields.map fun f => (f.name, f.type.names)) <$>
      compile .empty (.object Registry.plainMarks properties [] none) "Model" =
        .ok [[("str", ["Optional", "str"])]] := by decide +kernel
  obtain ⟨c, hc, hclasses⟩ := map_eq_ok.mp hok
  obtain ⟨k, hmodels, hk⟩ := List.map_eq_singleton_iff.mp hclasses
  obtain ⟨f, hfields, hf⟩ := List.map_eq_singleton_iff.mp hk
  obtain ⟨hname, htype⟩ := Prod.mk.inj hf
  refine ⟨_, properties, c, k, rfl, hc, by simp [hmodels], f, by simp [hfields], f.type, ?_, by simp [hname, htype]⟩
  simp [ClassDef.types, hfields]

end Schema

end ClientForge
