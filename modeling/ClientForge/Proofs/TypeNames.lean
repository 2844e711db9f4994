import ClientForge.Proofs.CompleteTypes
import ClientForge.Proofs.RootChains

namespace ClientForge

open Naming Outcome

namespace Naming

theorem free_isWord {name : String} (h : IsWord name) (taken : List String) : IsWord (free "Model" taken name) := by
  obtain ⟨k, hk⟩ := toList_free "Model" taken name
  refine ⟨fun hempty => ?_, fun c hc => ?_⟩
  · rw [hempty] at hk
    exact h.1 (by simpa using (List.append_eq_nil_iff.mp hk.symm).1)
  · rw [hk, List.mem_append, List.mem_flatten] at hc
    rcases hc with hc | ⟨word, hword, hc⟩
    · exact h.2 c hc
    · rw [List.eq_of_mem_replicate hword] at hc
      exact (by decide : IsWord "Model").2 c hc

end Naming

namespace Schema

section Combinations

variable {r : Registry} {hint : String} {top : Bool} {c : Compiled} {members : List Schema} {parts : List Compiled}

theorem className_isWord (r : Registry) (h : IsWord hint) (top : Bool) : IsWord (className r hint top) := by
  unfold className freeClassName
  split
  · exact h
  · exact free_isWord h _

theorem exists_part_of_base (hmodels : (constraining members).all r.isModel = true)
    (hparts : MakesParts r hint "Part" (constraining members) parts) {base : String}
    (h : base ∈ (parts.map (·.type.text)).eraseDups) : ∃ p ∈ parts, p.type = .named base := by
  obtain ⟨p, hp, rfl⟩ := List.mem_map.mp (List.mem_eraseDups.mp h)
  obtain ⟨s, hs, k, hc⟩ := hparts.exists_member hp
  have hmodel := List.all_eq_true.mp hmodels s hs
  refine ⟨p, hp, ?_⟩
  rcases type_of_isModel (fun _ hname => hname) hmodel hc with ⟨name, e, -, -, -, htype, -⟩ | ⟨before, own, -, -, htype⟩
  · rw [htype, TypeExpr.text]
  · rw [htype, TypeExpr.text]

theorem complete_inherits (hhint : IsWord hint) {doc : Option String}
    (hmodels : (constraining members).all r.isModel = true)
    (hparts : MakesParts r hint "Part" (constraining members) parts) (hcomplete : ∀ p ∈ parts, p.Complete r) :
    Compiled.Complete r (.combine (.named (className r hint top)) parts []
      [⟨className r hint top, (parts.map (·.type.text)).eraseDups, doc, [], [], none⟩] []) := by
  apply Compiled.complete_combine hcomplete (by simp)
  · exact className_isWord r hhint top
  · intro x hx
    rw [List.mem_singleton.mp hx]
    exact Compiled.provides_model (List.mem_singleton_self _)
  · rw [List.forall_mem_singleton]
    refine ⟨⟨fun base hbase => ?_, by simp, by simp, by simp⟩, fun x hx => ?_⟩
    · obtain ⟨p, hp, htype⟩ := exists_part_of_base hmodels hparts hbase
      have hword := (hcomplete p hp).type
      rwa [htype] at hword
    · have hx : x ∈ (parts.map (·.type.text)).eraseDups := by simpa [ClassDef.names] using hx
      obtain ⟨p, hp, htype⟩ := exists_part_of_base hmodels hparts hx
      exact .of_part hp ((hcomplete p hp).type_names x (by rw [htype]; exact List.mem_cons_self))

theorem complete_checked {first : Compiled} {others : List Compiled} {runtimeRefs : List String}
    (hcomplete : ∀ p ∈ first :: others, p.Complete r) :
    Compiled.Complete r (.combine (.checked first.type (others.map (·.type))) (first :: others)
      ["Annotated", "BeforeValidator", "TypeAdapter"] [] runtimeRefs) := by
  obtain ⟨hfirst, hothers⟩ := List.forall_mem_cons.mp hcomplete
  apply Compiled.complete_combine hcomplete (by decide)
  · exact ⟨hfirst.type, TypeExpr.areReadable_iff.mpr (List.forall_mem_map.mpr fun p hp => (hothers p hp).type)⟩
  · intro x hx
    rw [TypeExpr.names, List.mem_append, List.mem_append] at hx
    rcases hx with (hx | hx) | hx
    · exact Compiled.provides_symbol hx
    · exact .of_part List.mem_cons_self (hfirst.type_names x hx)
    · obtain ⟨t, ht, hx⟩ := TypeExpr.mem_allNames.mp hx
      obtain ⟨p, hp, rfl⟩ := List.mem_map.mp ht
      exact .of_part (List.mem_cons_of_mem _ hp) ((hothers p hp).type_names x hx)
  · simp

theorem complete_combineAny (hcomplete : ∀ p ∈ parts, p.Complete r) : (combineAny parts).Complete r := by
  have hpart {t : TypeExpr} (ht : t ∈ TypeExpr.distinct (parts.map (·.type))) : ∃ p ∈ parts, p.type = t :=
    List.mem_map.mp (TypeExpr.mem_of_mem_distinct ht)
  unfold combineAny
  split
  · rename_i t hdistinct
    obtain ⟨p, hp, rfl⟩ := hpart (hdistinct ▸ List.mem_cons_self)
    exact Compiled.complete_combine hcomplete (by simp) (hcomplete p hp).type
      (fun x hx => .of_part hp ((hcomplete p hp).type_names x hx)) (by simp)
  · apply Compiled.complete_combine hcomplete (by decide)
    · refine TypeExpr.areReadable_iff.mpr fun t ht => ?_
      obtain ⟨p, hp, rfl⟩ := hpart ht
      exact (hcomplete p hp).type
    · intro x hx
      rw [TypeExpr.names] at hx
      rcases List.mem_cons.mp hx with rfl | hx
      · exact Compiled.provides_symbol (List.mem_singleton_self _)
      · obtain ⟨t, ht, hx⟩ := TypeExpr.mem_allNames.mp hx
        obtain ⟨p, hp, rfl⟩ := hpart ht
        exact .of_part hp ((hcomplete p hp).type_names x hx)
    · simp

theorem formatType?_mem {format name : String} (h : formatType? format = some name) :
    name ∈ ["datetime", "date", "EmailStr", "AnyUrl", "UUID", "bytes"] := by
  have hlookup (l : List (String × String)) (h : l.lookup format = some name) : name ∈ l.map (·.2) := by
    induction l with
    | nil => cases h
    | cons p l ih =>
      rw [List.lookup_cons] at h
      split at h
      · exact List.mem_map.mpr ⟨p, List.mem_cons_self, Option.some.inj h⟩
      · exact List.mem_cons_of_mem _ (ih h)
  have hmem := hlookup _ h
  simp only [List.map_cons, List.map_nil, List.mem_cons, List.not_mem_nil, or_false] at hmem ⊢
  tauto

theorem primitiveTypeName_mem (type : PrimitiveType) (format : Option String) : primitiveTypeName type format ∈
    ["str", "float", "bool", "bytes"] ++ ["datetime", "date", "EmailStr", "AnyUrl", "UUID"] := by
  cases type with
  | number => exact List.mem_of_getElem? (i := 1) rfl
  | integer => exact List.mem_of_getElem? (i := 1) rfl
  | boolean => exact List.mem_of_getElem? (i := 2) rfl
  | string =>
    rw [primitiveTypeName]
    cases hname : format.bind formatType? with
    | none => exact List.mem_cons_self
    | some name =>
      obtain ⟨f, -, hname⟩ := Option.bind_eq_some_iff.mp hname
      have hmem := formatType?_mem hname
      simp only [List.mem_cons, List.not_mem_nil, or_false] at hmem
      rcases hmem with rfl | rfl | rfl | rfl | rfl | rfl <;> simp

theorem complete_primitive (type : PrimitiveType) (format : Option String) :
    (compilePrimitive type format).Complete r := by
  have hmem := primitiveTypeName_mem type format
  have hwords : ∀ name ∈ ["str", "float", "bool", "bytes"] ++ ["datetime", "date", "EmailStr", "AnyUrl", "UUID"],
      IsWord name := by decide
  have hlibrary : ["datetime", "date", "EmailStr", "AnyUrl", "UUID"] ⊆ Library.symbols := by decide
  have hword := hwords _ hmem
  unfold compilePrimitive
  dsimp only
  split
  · rename_i hplain
    exact Compiled.complete_plain hword (by simp) (.inl (List.mem_of_mem_take (i := 4) hplain))
  · rename_i hother
    have hmem := hlibrary ((List.mem_append.mp hmem).resolve_left hother)
    exact Compiled.complete_plain hword (by simpa using hmem) (.inr List.mem_cons_self)

theorem complete_literal {values : List Document} (h : ∀ d ∈ values, d.IsPlain) :
    (Compiled.plain (.literal values) ["Literal"]).Complete r := by
  have hsymbols : ["Literal"] ⊆ Library.symbols := by decide
  exact ⟨hsymbols, h, fun x hx => .symbol hx, by simp [Compiled.plain], by simp [Compiled.plain]⟩

theorem complete_ref {name : String} {e : NamedSchema} (hword : IsWord e.symbol) (he : r.get? name = some e) :
    Compiled.Complete r ⟨.named e.symbol, [name], [], [], []⟩ := by
  refine ⟨by simp, hword, fun x hx => ?_, by simp, by simp⟩
  rw [List.mem_singleton.mp hx]
  exact .ref (List.mem_singleton_self _) he

theorem complete_parts {word : String} (hword : IsWord word) (hhint : IsWord hint)
    (hparts : MakesParts r hint word members parts)
    (ih : ∀ s ∈ members, ∀ hint c, IsWord hint → compileAt r s hint false = .ok c → c.Complete r) :
    ∀ p ∈ parts, p.Complete r := by
  intro p hp
  obtain ⟨s, hs, k, hc⟩ := hparts.exists_member hp
  exact ih s hs _ p ((hhint.append hword.2).append fun c hc => isWordChar_of_mem_toString hc) hc

end Combinations

section Schemas

variable {r : Registry}

theorem complete_properties {required : List String} {name : String} (hname : IsWord name)
    {properties : List (String × Schema)} {draft draft' : ClassDraft} (hdraft : draft.Complete r)
    (h : compileProperties r required name draft properties = .ok draft')
    (ih : ∀ p ∈ properties, ∀ hint c, IsWord hint → compileAt r p.2 hint false = .ok c → c.Complete r) :
    draft'.Complete r := by
  induction properties generalizing draft with
  | nil =>
    rw [compileProperties] at h
    cases h
    exact hdraft
  | cons p properties ihProperties =>
    obtain ⟨c, hc, h⟩ := compileProperties_cons h
    have hcomplete := ih p List.mem_cons_self _ c (hint_isWord draft hname p.1) hc
    exact ihProperties (hdraft.add hcomplete) h fun p hp => ih p (List.mem_cons_of_mem _ hp)

theorem compileAt_complete (hr : ∀ e ∈ r.entries, IsWord e.symbol) (s : Schema) (hplain : s.IsPlain) {hint : String}
    (hhint : IsWord hint) {top : Bool} {c : Compiled} (h : compileAt r s hint top = .ok c) : c.Complete r := by
  replace h := compiles h
  induction h with
  | ref he => exact (complete_ref (hr _ (Registry.mem_of_get? he).1) he).markNullable _
  | @object _ _ _ _ hint top _ _ doc hdraft hextra _ ih =>
    have ih := fun s hs hint c hhint hc => ih s hs hint c hc (hplain.component hs) hhint
    have hname := className_isWord r hhint top
    have hdraft := complete_properties hname ClassDraft.complete_start hdraft
      fun p hp => ih p.2 (List.mem_append_left _ (List.mem_map_of_mem hp))
    refine (complete_finish hdraft hname (fun p hp => ?_) doc _).markNullable _
    obtain rfl := hp
    obtain ⟨s, rfl, hc⟩ := compileAdditional_eq_some hextra
    have hvalue : IsWord "Value" := by decide
    exact ih s (List.mem_append_right _ (List.mem_singleton_self s)) _ p (hname.append hvalue.2) hc
  | array _ _ ih => exact (ih hplain (hhint.append (by decide : IsWord "Item").2)).list.markNullable _
  | literal => exact (complete_literal hplain).markNullable _
  | primitive => exact (complete_primitive _ _).markNullable _
  | blank _ => exact Compiled.complete_anything.markNullable _
  | allOf hmembers _ _ ih =>
    have hs := constraining_subset (hmembers ▸ List.mem_cons_self)
    exact (ih (hplain.component hs) hhint).markNullable _
  | union _ _ ih => exact (ih (hplain.component List.mem_cons_self) hhint).markNullable _
  | inherits doc _ hmodels hparts _ ih =>
    have hcomplete := complete_parts (by decide) hhint hparts fun s hs hint c hhint hc =>
      ih s (constraining_subset hs) hint c hc (hplain.component (constraining_subset hs)) hhint
    exact (complete_inherits hhint hmodels hparts hcomplete).markNullable _
  | checked _ _ hparts _ ih =>
    have hcomplete := complete_parts (by decide) hhint hparts fun s hs hint c hhint hc =>
      ih s (constraining_subset hs) hint c hc (hplain.component (constraining_subset hs)) hhint
    exact (complete_checked hcomplete).markNullable _
  | any parts _ hparts _ ih =>
    have hcomplete := complete_parts (by decide) hhint hparts fun s hs hint c hhint hc =>
      ih s hs hint c hc (hplain.component hs) hhint
    exact (complete_combineAny hcomplete).markNullable _

end Schemas

end Schema

namespace NamedSchema

variable {r : Registry} {e : NamedSchema} {c c' : Compiled}

theorem wrapper_isReadable (symbol : String) (doc : Option String) {type : TypeExpr} (htype : type.IsReadable) :
    (wrapper symbol doc type).IsReadable where
  bases := by simp only [wrapper, List.forall_mem_singleton]; decide
  config := by simp [wrapper]
  fields := by
    simp only [wrapper, List.forall_mem_singleton]
    exact ⟨(by decide : IsWord "root"), htype, by simp⟩
  extra := by simp [wrapper]

theorem names_wrapper {doc : Option String} {type : TypeExpr} {x : String}
    (h : x ∈ (wrapper e.symbol doc type).names) : x = "RootModel" ∨ x ∈ type.names := by
  simpa [wrapper, ClassDef.names, FieldDef.names] using h

theorem complete_wrapped (hr : r.WellFormed) (he : e ∈ r.entries) (hword : IsWord e.symbol) (h : c'.Complete r)
    {type : TypeExpr} (htype : type.IsReadable) {refs : List String} (hrefs : ∀ x ∈ c'.refs, x ∈ refs ∨ x = e.name)
    {more : List String} (hmore : more ⊆ Library.symbols) (hroot : "RootModel" ∈ more)
    (hnames : ∀ x ∈ type.names, x ∈ more ∨ c'.Provides r x) (doc : Option String) (runtimeRefs : List String) :
    Compiled.Complete r ⟨.named e.symbol, refs, c'.models ++ [wrapper e.symbol doc type],
      (c'.symbols ++ more).eraseDups, runtimeRefs⟩ := by
  let c : Compiled := ⟨.named e.symbol, refs, c'.models ++ [wrapper e.symbol doc type], (c'.symbols ++ more).eraseDups,
    runtimeRefs⟩
  have hown : c.Provides r e.symbol :=
    .model (k := wrapper e.symbol doc type) (List.mem_append_right _ (List.mem_singleton_self _))
  have hsymbol {x : String} (hx : x ∈ more) : c.Provides r x :=
    .symbol (List.mem_eraseDups.mpr (List.mem_append_right _ hx))
  have hmono {x : String} (hx : c'.Provides r x) : c.Provides r x := by
    cases hx with
    | builtin hx => exact .builtin hx
    | symbol hx => exact .symbol (List.mem_eraseDups.mpr (List.mem_append_left _ hx))
    | @ref name e' hname he' =>
      rcases hrefs name hname with hname | rfl
      · exact .ref hname he'
      · rw [hr.get?_name he] at he'
        cases he'
        exact hown
    | model hk => exact .model (List.mem_append_left _ hk)
  refine ⟨fun x hx => ?_, hword, fun x hx => ?_, fun k hk => ?_, fun k hk x hx => ?_⟩
  · exact (List.mem_append.mp (List.mem_eraseDups.mp hx)).elim (h.symbols ·) (hmore ·)
  · rw [List.mem_singleton.mp hx]
    exact hown
  · rcases List.mem_append.mp hk with hk | hk
    · exact h.classes k hk
    · exact List.mem_singleton.mp hk ▸ wrapper_isReadable _ doc htype
  · rcases List.mem_append.mp hk with hk | hk
    · exact hmono (h.class_names k hk x hx)
    · rw [List.mem_singleton.mp hk] at hx
      rcases names_wrapper hx with rfl | hx
      · exact hsymbol hroot
      · exact (hnames x hx).elim hsymbol hmono

theorem compile_complete (hr : r.WellFormed) (hwords : ∀ e ∈ r.entries, IsWord e.symbol) (he : e ∈ r.entries)
    (hplain : e.schema.IsPlain) (h : e.compile r = .ok c) : c.Complete r := by
  obtain ⟨c', hc, h⟩ := bind_eq_ok.mp h
  have hcomplete := Schema.compileAt_complete hwords e.schema hplain (hwords e he) hc
  split at h
  · rename_i hany
    obtain ⟨k, hk, hname⟩ := List.any_eq_true.mp hany
    have hname : k.name = e.symbol := by simpa using hname
    cases pure_eq_ok.mp h
    have hmono {x : String} (hx : c'.Provides r x) : Compiled.Provides r { c' with type := .named e.symbol } x :=
      hx.mono (List.Subset.refl _) (List.Subset.refl _) (List.Subset.refl _)
    refine ⟨hcomplete.symbols, hwords e he, fun x hx => ?_, hcomplete.classes, fun k hk x hx =>
      hmono (hcomplete.class_names k hk x hx)⟩
    rw [List.mem_singleton.mp hx, ← hname]
    exact .model hk
  · obtain ⟨doc, -, h⟩ := bind_eq_ok.mp h
    have hroot : ["RootModel"] ⊆ Library.symbols ∧ ["RootModel", "Any"] ⊆ Library.symbols := by decide
    split at h <;> cases h
    · have hany : TypeExpr.any.IsReadable := (by decide : IsWord "Any")
      refine complete_wrapped hr he (hwords e he) hcomplete hany (fun x hx => ?_)
        hroot.2 (by simp) (fun x hx => ?_) doc _
      · by_cases hx' : x = e.name
        · exact .inr hx'
        · exact .inl (List.mem_filter.mpr ⟨hx, by simpa using hx'⟩)
      · exact .inl (List.mem_cons_of_mem _ hx)
    · exact complete_wrapped hr he (hwords e he) hcomplete hcomplete.type (fun x hx => .inl hx) hroot.1 (by simp)
        (fun x hx => .inr (hcomplete.type_names x hx)) doc _

end NamedSchema

end ClientForge
