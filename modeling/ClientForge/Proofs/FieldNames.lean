import ClientForge.Proofs.NamedClasses

/-!
The fields of the class for an object: one for each property, under names that fields can have and that are told apart.
A property may still be given the name of another one, and then data under that name is meant for two fields.
-/

namespace ClientForge

open Naming Outcome

namespace Naming

variable {s : String}

theorem identifier_notMem_keywords (name : String) : identifier name ∉ keywords := by
  have hlast : ∀ s ∈ keywords, s.toList.getLast? ≠ some '_' := by decide
  unfold identifier identifierChars guardKeyword
  split
  · intro h
    exact hlast _ h (by simp)
  · assumption

structure IsFieldName (s : String) : Prop where
  isWord : IsWord s
  head : ∀ c ∈ s.toList.head?, c.isAlpha = true
  notKeyword : s ∉ keywords
  notAttribute : s ∉ modelAttributes
  notReserved : s ∉ reservedSymbols

theorem isAlpha_eq_false_of_isDigit {c : Char} (h : c.isDigit = true) : c.isAlpha = false := by
  rw [isDigit_iff] at h
  change (c.isUpper || c.isLower) = false
  rw [Bool.or_eq_false_iff, ← Bool.not_eq_true, ← Bool.not_eq_true, isUpper_iff, isLower_iff]
  omega

theorem isAlpha_getLast?_fixed : ∀ s ∈ keywords ++ modelAttributes ++ reservedSymbols, ∀ c ∈ s.toList.getLast?,
    c.isAlpha = true := by
  have hall : (keywords ++ modelAttributes ++ reservedSymbols).all
      (fun s => s.toList.getLast?.all Char.isAlpha) = true := by decide +kernel
  intro s hs c hc
  have hlast := List.all_eq_true.mp hall s hs
  rwa [Option.mem_def.mp hc] at hlast

theorem notMem_fixed {c : Char} (hlast : s.toList.getLast? = some c) (hc : c.isAlpha = false) :
    s ∉ keywords ∧ s ∉ modelAttributes ∧ s ∉ reservedSymbols := by
  have hnot : s ∉ keywords ++ modelAttributes ++ reservedSymbols := fun hs =>
    Bool.false_ne_true (hc.symm.trans (isAlpha_getLast?_fixed s hs c hlast))
  simpa only [List.mem_append, not_or, and_assoc] using hnot

theorem isFieldName_append (hword : IsWord s) (hhead : ∀ c ∈ s.toList.head?, c.isAlpha = true) {t : String}
    (ht : ∀ c ∈ t.toList, isWordChar c = true) {c : Char} (hlast : t.toList.getLast? = some c)
    (hc : c.isAlpha = false) : IsFieldName (s ++ t) := by
  have hne : s.toList ≠ [] := by simpa using hword.1
  have hlast : (s ++ t).toList.getLast? = some c := by simp [hlast]
  obtain ⟨hkeyword, hattribute, hreserved⟩ := notMem_fixed hlast hc
  refine ⟨hword.append ht, ?_, hkeyword, hattribute, hreserved⟩
  rw [String.toList_append, List.head?_append_of_ne_nil _ hne]
  exact hhead

theorem isFieldName_mark (hword : IsWord s) (hhead : ∀ c ∈ s.toList.head?, c.isAlpha = true) : IsFieldName (s ++ "_") :=
  isFieldName_append hword hhead (List.all_eq_true.mp (by decide)) rfl rfl

theorem IsFieldName.unique (hs : IsFieldName s) (taken : List String) : IsFieldName (unique s taken "_") := by
  rcases unique_eq s taken "_" with heq | ⟨k, heq⟩
  · rwa [heq]
  · rw [heq]
    obtain ⟨c, hlast⟩ := Option.ne_none_iff_exists'.mp (mt List.getLast?_eq_none_iff.mp (toString_ne_nil k))
    have hmark := isFieldName_mark hs.isWord hs.head
    exact isFieldName_append hmark.isWord hmark.head (fun c hc => isWordChar_of_mem_toString hc) hlast
      (isAlpha_eq_false_of_isDigit (isDigit_of_mem_toString (List.mem_of_getLast? hlast)))

theorem isAlpha_of_head {c : Char} (hword : isWordChar c = true) (hdigit : c.isDigit = false) (hmark : c ≠ '_') :
    c.isAlpha = true := by
  simpa [isWordChar, Char.isAlphanum, hdigit, hmark] using hword

theorem fieldName_isFieldName (property : String) : IsFieldName (fieldName property) := by
  have hfield : ∀ s ∈ keywords, ¬"field_".toList <+: s.toList := by decide
  have hidentifier := identifier_isIdentifier property
  unfold fieldName
  extract_lets name name'
  have hname' : IsWord name' ∧ (∀ c ∈ name'.toList.head?, c.isAlpha = true) ∧ name' ∉ keywords := by
    unfold name'
    split
    · refine ⟨IsWord.append (by decide) fun c hc => ?_, by simp, fun hmem => hfield _ hmem (by simp)⟩
      rw [dropUnderscores, String.toList_ofList] at hc
      exact hidentifier.isWord.2 c (List.dropWhile_subset _ hc)
    · rename_i hmark
      refine ⟨hidentifier.isWord, fun c hc => ?_, identifier_notMem_keywords property⟩
      exact isAlpha_of_head (hidentifier.isWord.2 c (List.mem_of_mem_head? hc)) (hidentifier.head c hc)
        fun hc' => hmark (hc' ▸ hc)
  clear_value name'
  obtain ⟨hword, hhead, hkeyword⟩ := hname'
  split
  · exact isFieldName_mark hword hhead
  · rename_i hfree
    simp only [Bool.or_eq_true, decide_eq_true_eq, not_or] at hfree
    exact ⟨hword, hhead, hkeyword, hfree.1, hfree.2⟩

theorem IsIdentifier.identifier_eq (hs : IsIdentifier s) (hkeyword : s ∉ keywords) : identifier s = s := by
  have hmap : s.toList.map (fun c => if isWordChar c then c else '_') = s.toList :=
    (List.map_congr_left fun c hc => if_pos (hs.isWord.2 c hc)).trans (List.map_id' _)
  have hdigit : guardDigit s.toList = s.toList := by
    cases hchars : s.toList with
    | nil => exact absurd (String.toList_eq_nil_iff.mp hchars) hs.isWord.1
    | cons c rest => rw [guardDigit, hs.head c (by simp [hchars]), if_neg Bool.false_ne_true]
  rw [identifier, identifierChars, hmap, hdigit, guardKeyword, String.ofList_toList, if_neg hkeyword,
    String.ofList_toList]

theorem IsFieldName.isIdentifier (hs : IsFieldName s) : IsIdentifier s := by
  refine ⟨hs.isWord, fun c hc => ?_⟩
  by_contra h
  have halpha := hs.head c hc
  rw [isAlpha_eq_false_of_isDigit (by simpa using h)] at halpha
  cases halpha

theorem IsFieldName.fieldName_eq (hs : IsFieldName s) : fieldName s = s := by
  have hhead : s.toList.head? ≠ some '_' := fun h => Bool.false_ne_true (hs.head '_' h)
  simp [fieldName, hs.isIdentifier.identifier_eq hs.notKeyword, hhead, hs.notAttribute, hs.notReserved]

end Naming

namespace Registry

variable {r : Registry} {property : String} {before names : List String}

/-- What a field for a property is called where no other field is called so. -/
def fieldStem (r : Registry) (property : String) : String :=
  if r.symbols.contains (fieldName property) then fieldName property ++ "_" else fieldName property

def fieldNames (r : Registry) (before : List String) : List String → List String
  | [] => []
  | property :: rest =>
    let name := unique (r.fieldStem property) before "_"
    name :: fieldNames r (before ++ [name]) rest

def fieldNameAfter (r : Registry) (before : List String) (property : String) : String :=
  unique (r.fieldStem property) (r.fieldNames [] before) "_"

theorem fieldNameAfter_notMem (r : Registry) (before : List String) (property : String) :
    r.fieldNameAfter before property ∉ r.fieldNames [] before :=
  unique_notMem _ _ _

theorem fieldStem_isFieldName (r : Registry) (property : String) : IsFieldName (r.fieldStem property) := by
  have h := fieldName_isFieldName property
  unfold fieldStem
  split
  · exact isFieldName_mark h.isWord h.head
  · exact h

theorem fieldNames_areFieldNames (r : Registry) (before names : List String) :
    ∀ x ∈ r.fieldNames before names, IsFieldName x := by
  induction names generalizing before with
  | nil => exact List.forall_mem_nil _
  | cons property names ih => exact List.forall_mem_cons.mpr ⟨(r.fieldStem_isFieldName property).unique before, ih _⟩

theorem nodup_fieldNames (names : List String) (h : before.Nodup) : (before ++ r.fieldNames before names).Nodup := by
  induction names generalizing before with
  | nil => simpa [fieldNames] using h
  | cons property names ih =>
    have hfree := unique_notMem (r.fieldStem property) before "_"
    have hnodup : (before ++ [unique (r.fieldStem property) before "_"]).Nodup :=
      List.nodup_append_comm.mp (List.nodup_cons.mpr ⟨hfree, h⟩)
    rw [fieldNames, ← List.singleton_append, ← List.append_assoc]
    exact ih hnodup

theorem length_fieldNames (r : Registry) (before names : List String) :
    (r.fieldNames before names).length = names.length := by
  induction names generalizing before with
  | nil => rfl
  | cons property names ih => rw [fieldNames, List.length_cons, ih, List.length_cons]

theorem fieldNames_append (r : Registry) (before names more : List String) : r.fieldNames before (names ++ more) =
    r.fieldNames before names ++ r.fieldNames (before ++ r.fieldNames before names) more := by
  induction names generalizing before with
  | nil => simp [fieldNames]
  | cons property names ih => simp [fieldNames, ih]

theorem mem_fieldNames (before : List String) {x : String} (hx : IsFieldName x) (hsymbol : x ∉ r.symbols)
    (hmem : x ∈ names) : x ∈ before ++ r.fieldNames before names := by
  induction names generalizing before with
  | nil => cases hmem
  | cons property names ih =>
    rw [fieldNames, ← List.singleton_append, ← List.append_assoc]
    rcases List.mem_cons.mp hmem with rfl | hmem
    · -- At its turn such a property keeps its name, unless a field has it by then.
      have hstem : r.fieldStem x = x := by simp [fieldStem, hx.fieldName_eq, hsymbol]
      apply List.mem_append_left
      rw [hstem, unique]
      split
      · exact List.mem_append_left _ ‹x ∈ before›
      · exact List.mem_append_right _ (List.mem_singleton_self x)
    · exact ih _ hmem

/-- A property gets the name of one behind it, or of one before it that had to give way to the class of a schema. -/
def NamesMeet (r : Registry) (names : List String) : Prop :=
  ∃ before property after, names = before ++ property :: after ∧
    (r.fieldNameAfter before property ∈ after ∨
      r.fieldNameAfter before property ∈ before ∧ r.fieldNameAfter before property ∈ r.symbols)

theorem namesMeet_iff : r.NamesMeet names ↔ ∃ before property after, names = before ++ property :: after ∧
    r.fieldNameAfter before property ∈ before ++ after := by
  constructor
  · rintro ⟨before, property, after, hsplit, hmeet⟩
    exact ⟨before, property, after, hsplit, List.mem_append.mpr (hmeet.symm.imp_left And.left)⟩
  · rintro ⟨before, property, after, hsplit, hmeet⟩
    refine ⟨before, property, after, hsplit, (List.mem_append.mp hmeet).symm.imp_right fun hmem => ⟨hmem, ?_⟩⟩
    -- A property before this one that could have kept its name would have kept it from this one.
    by_contra hsymbol
    have hword : IsFieldName (r.fieldNameAfter before property) := (r.fieldStem_isFieldName property).unique _
    exact r.fieldNameAfter_notMem before property (mem_fieldNames [] hword hsymbol hmem)

end Registry

namespace FieldDef

def wireName (f : FieldDef) : String := f.dataName.getD f.name

/-- A field stands for a property: it is called so in the data, and it may be left out unless that is required. -/
structure Represents (required : List String) (property : String) (f : FieldDef) : Prop where
  wireName : f.wireName = property
  default : f.default = if property ∈ required then none else some "None"
  allowsNone : property ∉ required → AllowsNone f.type.text

end FieldDef

namespace Schema

variable {r : Registry} {required : List String} {hint : String} {top : Bool} {m : Marks}
  {properties : List (String × Schema)} {additional : Option Schema} {c : Compiled} {k : ClassDef}

theorem represents_fieldOf (r : Registry) (required : List String) (before : List FieldDef) (property : String)
    (type : TypeExpr) : (fieldOf r required before property type).Represents required property where
  wireName := by
    unfold fieldOf FieldDef.wireName
    extract_lets name name' name'' isRequired
    dsimp only
    split
    · assumption
    · rfl
  default := by simp [fieldOf]
  allowsNone h := by
    rw [← TypeExpr.takesNone_iff]
    simpa [fieldOf, h] using type.takesNone_orNone

def MakesField (r : Registry) (required : List String) (name : String) (p : String × Schema) (f : FieldDef) : Prop :=
  ∃ before hint c, Inside hint name ∧ compileAt r p.2 hint false = .ok c ∧ f = fieldOf r required before p.1 c.type

theorem MakesField.represents {name : String} {p : String × Schema} {f : FieldDef}
    (h : MakesField r required name p f) : f.Represents required p.1 := by
  obtain ⟨before, hint, c, -, -, rfl⟩ := h
  exact represents_fieldOf r required before p.1 c.type

theorem wireNames_eq {name : String} {fields : List FieldDef}
    (h : List.Forall₂ (MakesField r required name) properties fields) :
    fields.map (·.wireName) = properties.map (·.1) := by
  induction h with
  | nil => rfl
  | cons hf _ ih => rw [List.map_cons, List.map_cons, hf.represents.wireName, ih]

theorem compileProperties_fields {name : String} {draft draft' : ClassDraft}
    (h : compileProperties r required name draft properties = .ok draft') :
    ∃ fields, draft'.fields = draft.fields ++ fields ∧ List.Forall₂ (MakesField r required name) properties fields ∧
      fields.map (·.name) = r.fieldNames (draft.fields.map (·.name)) (properties.map (·.1)) := by
  induction properties generalizing draft with
  | nil =>
    rw [compileProperties] at h
    cases h
    exact ⟨[], (List.append_nil _).symm, .nil, rfl⟩
  | cons p properties ih =>
    obtain ⟨c, hc, h⟩ := compileProperties_cons h
    obtain ⟨fields, hfields, hmade, hnames⟩ := ih h
    let f := fieldOf r required draft.fields p.1 c.type
    refine ⟨f :: fields, ?_, .cons ⟨_, _, c, inside_hint draft name p.1, hc, rfl⟩ hmade, ?_⟩
    · rw [hfields, ClassDraft.add, List.append_assoc, List.singleton_append]
    · rw [List.map_cons, hnames, ClassDraft.add, List.map_append]
      rfl

theorem compileAt_object_fields (h : compileAt r (.object m properties required additional) hint top = .ok c) :
    ∃ before k, c.models = before ++ [k] ∧
      List.Forall₂ (MakesField r required (className r hint top)) properties k.fields ∧
      k.fields.map (·.name) = r.fieldNames [] (properties.map (·.1)) ∧
      ("populate_by_name=True" ∈ k.config ↔ ∃ f ∈ k.fields, f.dataName.isSome = true) := by
  obtain ⟨draft, extra, doc, hdraft, -, -, rfl⟩ := compileAt_object h
  obtain ⟨fields, hfields, hmade, hnames⟩ := compileProperties_fields hdraft
  obtain rfl : draft.fields = fields := hfields
  have hconfig (renames isOpen : Bool) : "populate_by_name=True" ∈
      (if renames then ["populate_by_name=True"] else []) ++ (if isOpen then ["extra=\"allow\""] else []) ↔
        renames = true := by
    cases renames <;> cases isOpen <;> simp
  exact ⟨_, _, models_markNullable _ _, hmade, hnames, (hconfig _ _).trans List.any_eq_true⟩

/-- The class of an object has one field for each property, in the same order. -/
theorem fields_represent (h : compile r (.object m properties required additional) hint = .ok c) :
    ∃ before k, c.models = before ++ [k] ∧
      List.Forall₂ (fun p f => f.Represents required p.1) properties k.fields ∧
      (k.fields.map (·.name)).Nodup ∧ (∀ f ∈ k.fields, IsFieldName f.name) ∧
      ("populate_by_name=True" ∈ k.config ↔ ∃ f ∈ k.fields, f.dataName.isSome = true) := by
  obtain ⟨before, k, hmodels, hmade, hnames, hconfig⟩ := compileAt_object_fields h
  refine ⟨before, k, hmodels, hmade.imp fun _ _ hf => hf.represents, ?_, fun f hf => ?_, hconfig⟩
  · rw [hnames, ← List.nil_append (r.fieldNames [] _)]
    exact r.nodup_fieldNames _ List.nodup_nil
  · exact r.fieldNames_areFieldNames [] _ f.name (hnames ▸ List.mem_map_of_mem hf)

theorem fields_represent_renamed : ∃ (d : Document) (r : Registry) (properties : List (String × Schema)) (c : Compiled)
    (before : List ClassDef) (k : ClassDef), Registry.ofDocument d = .ok r ∧
      compile r (.object Registry.plainMarks properties ["class"] none) "Body" = .ok c ∧ c.models = before ++ [k] ∧
      List.Forall₂ (fun p f => f.Represents ["class"] p.1) properties k.fields ∧ (k.fields.map (·.name)).Nodup ∧
      (∀ f ∈ k.fields, IsFieldName f.name) ∧
      ("populate_by_name=True" ∈ k.config ↔ ∃ f ∈ k.fields, f.dataName.isSome = true) ∧
      c.models.map (fun k => k.fields.map (·.name)) =
        [["class_", "field_links", "copy_", "first_name", "first_name_2", "Pet_"]] := by
  let r : Registry := ⟨[⟨"Pet", "Pet", "pet", .object Registry.plainMarks [] [] none⟩]⟩
  let text : Schema := .primitive Registry.plainMarks .string none
  let properties := [("class", text), ("_links", text), ("copy", text), ("first-name", text), ("first name", text),
    ("Pet", .ref Registry.plainMarks "Pet")]
  have hd : Registry.ofDocument (.map [(.text "Pet", Registry.objectOf [])]) = .ok r := rfl
  have hok : (fun c => c.models.map fun k => k.fields.map (·.name)) <$>
      compile r (.object Registry.plainMarks properties ["class"] none) "Body" =
        .ok [["class_", "field_links", "copy_", "first_name", "first_name_2", "Pet_"]] := by decide +kernel
  obtain ⟨c, hc, hnames⟩ := map_eq_ok.mp hok
  obtain ⟨before, k, hmodels, hfields, hnodup, hwords, hconfig⟩ := fields_represent hc
  exact ⟨_, r, properties, c, before, k, hd, hc, hmodels, hfields, hnodup, hwords, hconfig, hnames⟩

theorem name_of_split {fields before after : List FieldDef} {f : FieldDef}
    (hnames : fields.map (·.name) = r.fieldNames [] (fields.map (·.wireName)))
    (hsplit : fields = before ++ f :: after) : f.name = r.fieldNameAfter (before.map (·.wireName)) f.wireName := by
  rw [hsplit, List.map_append, List.map_append, List.map_cons, List.map_cons, r.fieldNames_append] at hnames
  have hlength : (before.map (·.name)).length = (r.fieldNames [] (before.map (·.wireName))).length := by
    rw [r.length_fieldNames, List.length_map, List.length_map]
  exact (List.cons.inj (List.append_inj hnames hlength).2).1

/-- No field takes a value that is meant for another property just where no property gets the name of another one. -/
theorem keys_apart_iff (hdistinct : (properties.map (·.1)).Nodup)
    (h : compile r (.object m properties required additional) hint = .ok c) {before : List ClassDef}
    (hk : c.models = before ++ [k]) :
    (∀ f ∈ k.fields, ∀ p ∈ properties, p.1 ≠ f.wireName → f.name ≠ p.1) ↔ ¬r.NamesMeet (properties.map (·.1)) := by
  obtain ⟨before', k', hmodels, hmade, hnames, -⟩ := compileAt_object_fields h
  obtain rfl := List.singleton_inj.mp (List.append_inj' (hk.symm.trans hmodels) rfl).2
  have hwire := wireNames_eq hmade
  have hkeys : (∀ f ∈ k.fields, ∀ p ∈ properties, p.1 ≠ f.wireName → f.name ≠ p.1) ↔
      ∀ f ∈ k.fields, ∀ x ∈ k.fields.map (·.wireName), x ≠ f.wireName → f.name ≠ x := by
    rw [hwire]
    simp only [List.forall_mem_map]
  rw [← hwire] at hnames hdistinct ⊢
  rw [hkeys, Registry.namesMeet_iff]
  constructor
  · rintro hapart ⟨before, property, after, hsplit, hmeet⟩
    obtain ⟨fields, rest, hfields, rfl, hrest⟩ := List.map_eq_append_iff.mp hsplit
    obtain ⟨f, rest, rfl, rfl, rfl⟩ := List.map_eq_cons_iff.mp hrest
    rw [← name_of_split hnames hfields] at hmeet
    rw [hsplit] at hapart hdistinct
    have hnotMem := (List.nodup_cons.mp (List.nodup_middle.mp hdistinct)).1
    have hmem := List.mem_cons_of_mem f.wireName hmeet
    exact hapart f (by simp [hfields]) f.name (List.perm_middle.mem_iff.mpr hmem) (fun heq => hnotMem (heq ▸ hmeet)) rfl
  · intro hmeet f hf x hx hne heq
    obtain ⟨fields, rest, hfields⟩ := List.append_of_mem hf
    have hsplit : k.fields.map (·.wireName) = fields.map (·.wireName) ++ f.wireName :: rest.map (·.wireName) := by
      rw [hfields, List.map_append, List.map_cons]
    refine hmeet ⟨_, _, _, hsplit, ?_⟩
    rw [← name_of_split hnames hfields, heq]
    rw [hsplit] at hx
    exact (List.mem_cons.mp (List.perm_middle.mem_iff.mp hx)).resolve_left hne

theorem keys_apart_in_order : ∃ (r : Registry) (properties : List (String × Schema)) (c : Compiled)
    (before : List ClassDef) (k : ClassDef), Registry.ofDocument (.map []) = .ok r ∧
      properties.map (·.1) = ["a_b", "a-b"] ∧ (properties.map (·.1)).Nodup ∧
      compile r (.object Registry.plainMarks properties [] none) "Model" = .ok c ∧ c.models = before ++ [k] ∧
      ∀ f ∈ k.fields, ∀ p ∈ properties, p.1 ≠ f.wireName → f.name ≠ p.1 := by
  let properties : List (String × Schema) := [("a_b", .anything), ("a-b", .anything)]
  obtain ⟨c, hc⟩ := exists_of_isOk
    (x := compile .empty (.object Registry.plainMarks properties [] none) "Model") (by decide +kernel)
  obtain ⟨before, k, hmodels, -⟩ := fields_represent hc
  refine ⟨_, properties, c, before, k, rfl, rfl, by decide, hc, hmodels,
    (keys_apart_iff (by decide) hc hmodels).mpr ?_⟩
  rintro ⟨before, property, after, hsplit, hmeet⟩
  have hnames : Registry.fieldNameAfter .empty [] "a_b" = "a_b" ∧
      Registry.fieldNameAfter .empty ["a_b"] "a-b" = "a_b_2" := by decide +kernel
  rcases List.cons_eq_append_iff.mp hsplit with ⟨rfl, h⟩ | ⟨rest, rfl, h⟩
  · cases h
    simp [hnames.1] at hmeet
  · rcases List.cons_eq_append_iff.mp h with ⟨rfl, h⟩ | ⟨rest', rfl, h⟩
    · cases h
      simp [hnames.2] at hmeet
    · simp at h

theorem keys_meet : ∃ (r : Registry) (properties : List (String × Schema)) (c : Compiled) (before : List ClassDef)
    (k : ClassDef), Registry.ofDocument (.map []) = .ok r ∧ (properties.map (·.1)).Nodup ∧
      compile r (.object Registry.plainMarks properties [] none) "Model" = .ok c ∧ c.models = before ++ [k] ∧
      ∃ f ∈ k.fields, ∃ p ∈ properties, p.1 ≠ f.wireName ∧ f.name = p.1 := by
  let properties : List (String × Schema) := [("a-b", .anything), ("a_b", .anything)]
  have hok : (fun c => c.models.map fun k => k.fields.map fun f => (f.name, f.dataName)) <$>
      compile .empty (.object Registry.plainMarks properties [] none) "Model" =
        .ok [[("a_b", some "a-b"), ("a_b_2", some "a_b")]] := by decide +kernel
  obtain ⟨c, hc, hnames⟩ := map_eq_ok.mp hok
  obtain ⟨k, hmodels, hk⟩ := List.map_eq_singleton_iff.mp hnames
  obtain ⟨f, fields, hfields, hf, -⟩ := List.map_eq_cons_iff.mp hk
  obtain ⟨hname, hdata⟩ := Prod.mk.inj hf
  have hwire : f.wireName = "a-b" := by simp [FieldDef.wireName, hdata]
  exact ⟨_, properties, c, [], k, rfl, by decide, hc, hmodels, f, by simp [hfields], ("a_b", .anything),
    by simp [properties], by simp [hwire], hname⟩

end Schema

end ClientForge
