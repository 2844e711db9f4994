import ClientForge.Proofs.ClassNames
import ClientForge.Proofs.Compilation
import ClientForge.Proofs.ModelTest

/-!
How the types of schemas are made, as rules. What holds of all types is shown by induction on them.
-/

namespace ClientForge

open Naming Outcome

theorem exists_mem_zipIdx {α : Type} {l : List α} {a : α} (h : a ∈ l) (k : ℕ) : ∃ i, (a, i) ∈ l.zipIdx k := by
  have hfst : a ∈ (l.zipIdx k).map Prod.fst := by rwa [List.zipIdx_map_fst]
  obtain ⟨⟨a, i⟩, hi, rfl⟩ := List.mem_map.mp hfst
  exact ⟨i, hi⟩

namespace Schema

variable {r : Registry} {hint : String} {top : Bool} {c : Compiled}

theorem compileMembers_eq_ok {counts : Schema → Bool} {hint : ℕ → String} {k : ℕ} {members : List Schema}
    {parts : List Compiled} (h : compileMembers r counts hint top k members = .ok parts) :
    List.Forall₂ (fun member c => compileAt r member.1 (hint member.2) top = .ok c)
      ((members.filter counts).zipIdx k) parts := by
  induction members generalizing k parts with
  | nil =>
    rw [compileMembers] at h
    cases h
    exact .nil
  | cons s members ih =>
    rcases compileMembers_cons h with ⟨hs, c, more, hc, hmore, rfl⟩ | ⟨hs, hmore⟩
    · rw [List.filter_cons_of_pos hs, List.zipIdx_cons]
      exact .cons hc (ih hmore)
    · rw [List.filter_cons_of_neg (by simp [hs])]
      exact ih hmore

theorem inside_hint (draft : ClassDraft) (name property : String) : Inside (draft.hint name property) name := by
  have hraised := pascalCase_isRaised property
  unfold ClassDraft.hint
  rcases unique_eq (name ++ pascalCase property) draft.hints "" with heq | ⟨k, heq⟩
  · rw [heq]
    exact inside_append name hraised
  · rw [heq, numbered, String.append_empty, String.append_assoc]
    exact inside_append name (hraised.append (toString k))

theorem compileProperties_eq_ok {required : List String} {name : String} {draft draft' : ClassDraft}
    {properties : List (String × Schema)} (h : compileProperties r required name draft properties = .ok draft') :
    draft.symbols ⊆ draft'.symbols ∧ ∃ parts, draft'.parts = draft.parts ++ parts ∧
      List.Forall₂ (fun p c => ∃ hint, Inside hint name ∧ compileAt r p.2 hint false = .ok c) properties parts := by
  induction properties generalizing draft with
  | nil =>
    rw [compileProperties] at h
    cases h
    exact ⟨List.Subset.refl _, [], (List.append_nil _).symm, .nil⟩
  | cons p properties ih =>
    obtain ⟨c, hc, h⟩ := compileProperties_cons h
    obtain ⟨hsymbols, parts, hparts, hall⟩ := ih h
    refine ⟨fun x hx => hsymbols (List.mem_append_left _ hx), c :: parts, ?_,
      .cons ⟨_, inside_hint draft name p.1, hc⟩ hall⟩
    rw [hparts, ClassDraft.add, List.append_assoc, List.singleton_append]

theorem compileAdditional_eq_some {additional : Option Schema} {p : Compiled}
    (h : compileAdditional r hint additional = .ok (some p)) :
    ∃ s, additional = some s ∧ compileAt r s hint false = .ok p := by
  cases additional with
  | none =>
    rw [compileAdditional] at h
    cases h
  | some s =>
    rcases compileAdditional_some h with hnone | ⟨c, hc, hsome⟩
    · cases hnone
    · cases hsome
      exact ⟨s, rfl, hc⟩

theorem object_parts {properties : List (String × Schema)} {required : List String} {name : String}
    {additional : Option Schema} {draft : ClassDraft} {extra : Option Compiled}
    (hdraft : compileProperties r required name .start properties = .ok draft)
    (hextra : compileAdditional r (name ++ "Value") additional = .ok extra) : "BaseModel" ∈ draft.symbols ∧
      ∀ p ∈ draft.parts ++ extra.toList, ∃ s ∈ properties.map (·.2) ++ additional.toList, ∃ hint',
        Inside hint' name ∧ compileAt r s hint' false = .ok p := by
  obtain ⟨hsymbols, parts, hparts, hall⟩ := compileProperties_eq_ok hdraft
  refine ⟨hsymbols (List.mem_singleton_self _), fun p hp => ?_⟩
  rcases List.mem_append.mp hp with hp | hp
  · rw [hparts] at hp
    obtain ⟨property, hproperty, hint', hinside, hp⟩ := exists_left_of_mem hall hp
    exact ⟨property.2, List.mem_append_left _ (List.mem_map_of_mem hproperty), hint', hinside, hp⟩
  · obtain rfl := Option.mem_toList.mp hp
    obtain ⟨s, hs, hp⟩ := compileAdditional_eq_some hextra
    exact ⟨s, List.mem_append_right _ (Option.mem_toList.mpr hs), _, inside_append _ (by decide), hp⟩

def MakesParts (r : Registry) (hint word : String) (members : List Schema) (parts : List Compiled) : Prop :=
  List.Forall₂ (fun member p => compileAt r member.1 (hint ++ word ++ toString member.2) false = .ok p)
    (members.zipIdx 1) parts

section Members

variable {m : Marks} {members : List Schema} {parts : List Compiled}

namespace MakesParts

variable {word : String} {s : Schema} {p : Compiled} (h : MakesParts r hint word members parts)

include h

theorem length_eq : members.length = parts.length := by
  have hlength := List.Forall₂.length_eq h
  rwa [List.length_zipIdx] at hlength

theorem exists_member (hp : p ∈ parts) :
    ∃ s ∈ members, ∃ k : ℕ, compileAt r s (hint ++ word ++ toString k) false = .ok p := by
  obtain ⟨⟨s, k⟩, hs, hp⟩ := exists_left_of_mem h hp
  exact ⟨s, List.fst_mem_of_mem_zipIdx hs, k, hp⟩

theorem exists_part (hs : s ∈ members) :
    ∃ p ∈ parts, ∃ k : ℕ, compileAt r s (hint ++ word ++ toString k) false = .ok p := by
  obtain ⟨k, hk⟩ := exists_mem_zipIdx hs 1
  obtain ⟨p, hp, hc⟩ := exists_right_of_mem h hk
  exact ⟨p, hp, k, hc⟩

theorem forall₂ {P : Schema → Compiled → Prop}
    (hP : ∀ s ∈ members, ∀ hint p, compileAt r s hint false = .ok p → P s p) : List.Forall₂ P members parts := by
  have hfst : (members.zipIdx 1).map Prod.fst = members := List.zipIdx_map_fst 1 members
  rw [← hfst, List.forall₂_map_left_iff]
  obtain ⟨hlength, hzip⟩ := List.forall₂_iff_zip.mp h
  refine List.forall₂_iff_zip.mpr ⟨hlength, fun {member p} hp => ?_⟩
  exact hP member.1 (List.fst_mem_of_mem_zipIdx (List.of_mem_zip hp).1) _ p (hzip hp)

end MakesParts

theorem memberHint_of_several {word : String} {several : Prop} [Decidable several] (h : several) (k : ℕ) :
    memberHint hint word several k = hint ++ word ++ toString k := by
  rw [memberHint, if_pos h]
  rfl

section Several

variable {counts : Schema → Bool} {word : String} {several : Prop} [Decidable several]
  (h : compileMembers r counts (memberHint hint word several) (top && !decide several) 1 members = .ok parts)

include h

theorem compileMembers_single {s : Schema} (hs : members.filter counts = [s]) (hsingle : ¬several) :
    ∃ c, parts = [c] ∧ compileAt r s hint top = .ok c := by
  have hparts := compileMembers_eq_ok h
  rw [hs] at hparts
  cases hparts with
  | cons hp hnil =>
    cases hnil
    rw [memberHint, if_neg hsingle, decide_eq_false hsingle, Bool.not_false, Bool.and_true] at hp
    exact ⟨_, rfl, hp⟩

theorem compileMembers_several (hseveral : several) :
    MakesParts r hint word (members.filter counts) parts := by
  have hparts := compileMembers_eq_ok h
  unfold MakesParts
  simpa only [memberHint_of_several hseveral, decide_eq_true hseveral, Bool.not_true, Bool.and_false] using hparts

end Several

theorem compileAt_allOf_nil (h : compileAt r (.allOf m members) hint top = .ok c) (hnil : constraining members = []) :
    c = markNullable m.nullable .anything := by
  obtain ⟨parts, hparts, hc⟩ := compileAt_allOf h
  have hparts := compileMembers_eq_ok hparts
  rw [← constraining, hnil] at hparts
  cases hparts
  rcases hc with ⟨-, rfl⟩ | ⟨c', hc', -⟩ | ⟨hlength, -⟩
  · rfl
  · cases hc'
  · cases hlength

theorem compileAt_allOf_single {s : Schema} (h : compileAt r (.allOf m members) hint top = .ok c)
    (hs : constraining members = [s]) : ∃ c', compileAt r s hint top = .ok c' ∧ c = markNullable m.nullable c' := by
  obtain ⟨parts, hparts, hc⟩ := compileAt_allOf h
  obtain ⟨c', rfl, hc'⟩ := compileMembers_single hparts hs (by simp [hs])
  rcases hc with ⟨hnil, -⟩ | ⟨c'', hc'', rfl⟩ | ⟨hlength, -⟩
  · cases hnil
  · cases hc''
    exact ⟨c', hc', rfl⟩
  · simp at hlength

theorem compileAt_allOf_several (h : compileAt r (.allOf m members) hint top = .ok c)
    (hseveral : 1 < (constraining members).length) :
    ∃ parts c', MakesParts r hint "Part" (constraining members) parts ∧
      combineAll r members m.description (className r hint top) parts = .ok c' ∧ c = markNullable m.nullable c' := by
  obtain ⟨parts, hparts, hc⟩ := compileAt_allOf h
  have hparts : MakesParts r hint "Part" (constraining members) parts := compileMembers_several hparts hseveral
  rw [hparts.length_eq] at hseveral
  rcases hc with ⟨rfl, -⟩ | ⟨c', rfl, -⟩ | ⟨-, c', hc', rfl⟩
  · cases hseveral
  · simp at hseveral
  · exact ⟨parts, c', hparts, hc', rfl⟩

theorem compileAt_union_nil {kind : UnionKind} (h : compileAt r (.union m kind []) hint top = .ok c) :
    c = markNullable m.nullable .anything := by
  obtain ⟨parts, hparts, hc⟩ := compileAt_union h
  cases compileMembers_eq_ok hparts
  rcases hc with ⟨-, rfl⟩ | ⟨c', hc', -⟩ | ⟨hlength, -⟩
  · rfl
  · cases hc'
  · cases hlength

theorem compileAt_union_single {kind : UnionKind} {s : Schema} (h : compileAt r (.union m kind [s]) hint top = .ok c) :
    ∃ c', compileAt r s hint top = .ok c' ∧ c = markNullable m.nullable c' := by
  obtain ⟨parts, hparts, hc⟩ := compileAt_union h
  obtain ⟨c', rfl, hc'⟩ := compileMembers_single hparts rfl (by simp)
  rcases hc with ⟨hnil, -⟩ | ⟨c'', hc'', rfl⟩ | ⟨hlength, -⟩
  · cases hnil
  · cases hc''
    exact ⟨c', hc', rfl⟩
  · simp at hlength

theorem compileAt_union_several {kind : UnionKind} (h : compileAt r (.union m kind members) hint top = .ok c)
    (hseveral : 1 < members.length) :
    ∃ parts, MakesParts r hint "Option" members parts ∧ c = markNullable m.nullable (combineAny parts) := by
  obtain ⟨parts, hparts, hc⟩ := compileAt_union h
  have hparts := compileMembers_several hparts hseveral
  rw [List.filter_eq_self.mpr fun _ _ => rfl] at hparts
  rw [hparts.length_eq] at hseveral
  rcases hc with ⟨rfl, -⟩ | ⟨c', rfl, -⟩ | ⟨-, rfl⟩
  · cases hseveral
  · simp at hseveral
  · exact ⟨parts, hparts, rfl⟩

theorem compileAt_inherits (h : compileAt r (.allOf m members) hint top = .ok c)
    (hseveral : 1 < (constraining members).length) (hmodels : (constraining members).all r.isModel = true) :
    ∃ parts doc, MakesParts r hint "Part" (constraining members) parts ∧
      c = markNullable m.nullable (.combine (.named (className r hint top)) parts []
        [⟨className r hint top, (parts.map (·.type.text)).eraseDups, doc, [], [], none⟩] []) := by
  obtain ⟨parts, c', hparts, hc, rfl⟩ := compileAt_allOf_several h hseveral
  unfold combineAll at hc
  rw [if_pos hmodels] at hc
  obtain ⟨doc, -, hc⟩ := bind_eq_ok.mp hc
  cases pure_eq_ok.mp hc
  exact ⟨parts, doc, hparts, rfl⟩

theorem compileAt_checked (h : compileAt r (.allOf m members) hint top = .ok c)
    (hseveral : 1 < (constraining members).length) (hmodels : (constraining members).all r.isModel = false) :
    ∃ first others, MakesParts r hint "Part" (constraining members) (first :: others) ∧
      c = markNullable m.nullable (.combine (.checked first.type (others.map (·.type))) (first :: others)
        ["Annotated", "BeforeValidator", "TypeAdapter"] [] (others.flatMap (·.refs)).eraseDups) := by
  obtain ⟨parts, c', hparts, hc, rfl⟩ := compileAt_allOf_several h hseveral
  rw [hparts.length_eq] at hseveral
  obtain ⟨first, others, rfl⟩ := List.exists_cons_of_length_pos (by omega : 0 < parts.length)
  rw [combineAll, hmodels, if_neg Bool.false_ne_true] at hc
  cases hc
  exact ⟨first, others, hparts, rfl⟩

theorem combineAny_eq (parts : List Compiled) :
    ∃ type symbols, combineAny parts = .combine type parts symbols [] [] := by
  unfold combineAny
  split <;> exact ⟨_, _, rfl⟩

@[simp] theorem models_combineAny (parts : List Compiled) :
    (combineAny parts).models = parts.flatMap (·.models) := by
  obtain ⟨type, symbols, heq⟩ := combineAny_eq parts
  simp only [heq, Compiled.combine, List.append_nil]

@[simp] theorem runtimeRefs_combineAny (parts : List Compiled) :
    (combineAny parts).runtimeRefs = (parts.flatMap (·.runtimeRefs)).eraseDups := by
  obtain ⟨type, symbols, heq⟩ := combineAny_eq parts
  simp only [heq, Compiled.combine, List.append_nil]

end Members

section Rules

def isBlank : Schema → Bool
  | .enum _ values => values.isEmpty
  | .allOf _ members => members.all isUntyped
  | .union _ _ members => members.isEmpty
  | .untyped _ => true
  | _ => false

theorem isUntyped_of_isBlank {s t : Schema} (hs : s.isBlank = true) (ht : t ∈ s.components) : t.isUntyped = true := by
  cases s with
  | allOf m members => exact List.all_eq_true.mp hs t ht
  | union m kind members =>
    obtain rfl := List.isEmpty_iff.mp hs
    cases ht
  | object => cases hs
  | array => cases hs
  | _ => cases ht

/-- How the type of a schema is made, one rule for each way. Where several types are put together, each of them is made
by the same rules. -/
inductive Compiles (r : Registry) : Schema → String → Bool → Compiled → Prop
  | ref {m : Marks} {name hint : String} {top : Bool} {e : NamedSchema} (he : r.get? name = some e) :
    Compiles r (.ref m name) hint top (markNullable m.nullable ⟨.named e.symbol, [name], [], [], []⟩)
  | object {m : Marks} {properties : List (String × Schema)} {required : List String} {additional : Option Schema}
    {hint : String} {top : Bool} {draft : ClassDraft} {extra : Option Compiled} (doc : Option String)
    (hdraft : compileProperties r required (className r hint top) .start properties = .ok draft)
    (hextra : compileAdditional r (className r hint top ++ "Value") additional = .ok extra)
    (h : ∀ s ∈ properties.map (·.2) ++ additional.toList, ∀ hint c, compileAt r s hint false = .ok c →
      Compiles r s hint false c) :
    Compiles r (.object m properties required additional) hint top
      (markNullable m.nullable (draft.finish (className r hint top) doc additional.isSome extra))
  | array {m : Marks} {item : Schema} {hint : String} {top : Bool} {c : Compiled}
    (hc : compileAt r item (hint ++ "Item") false = .ok c) (h : Compiles r item (hint ++ "Item") false c) :
    Compiles r (.array m item) hint top (markNullable m.nullable { c with type := .list c.type })
  | literal {m : Marks} {values : List Document} {hint : String} {top : Bool} :
    Compiles r (.enum m values) hint top (markNullable m.nullable (.plain (.literal values) ["Literal"]))
  | primitive {m : Marks} {type : PrimitiveType} {format : Option String} {hint : String} {top : Bool} :
    Compiles r (.primitive m type format) hint top (markNullable m.nullable (compilePrimitive type format))
  | blank {s : Schema} {hint : String} {top : Bool} (hs : s.isBlank = true) :
    Compiles r s hint top (markNullable s.nullable .anything)
  | allOf {m : Marks} {members : List Schema} {s : Schema} {hint : String} {top : Bool} {c : Compiled}
    (hmembers : constraining members = [s]) (hc : compileAt r s hint top = .ok c) (h : Compiles r s hint top c) :
    Compiles r (.allOf m members) hint top (markNullable m.nullable c)
  | union {m : Marks} {kind : UnionKind} {s : Schema} {hint : String} {top : Bool} {c : Compiled}
    (hc : compileAt r s hint top = .ok c) (h : Compiles r s hint top c) :
    Compiles r (.union m kind [s]) hint top (markNullable m.nullable c)
  | inherits {m : Marks} {members : List Schema} {hint : String} {top : Bool} {parts : List Compiled}
    (doc : Option String) (hseveral : 1 < (constraining members).length)
    (hmodels : (constraining members).all r.isModel = true)
    (hparts : MakesParts r hint "Part" (constraining members) parts)
    (h : ∀ s ∈ members, ∀ hint c, compileAt r s hint false = .ok c → Compiles r s hint false c) :
    Compiles r (.allOf m members) hint top (markNullable m.nullable (.combine (.named (className r hint top)) parts []
      [⟨className r hint top, (parts.map (·.type.text)).eraseDups, doc, [], [], none⟩] []))
  | checked {m : Marks} {members : List Schema} {hint : String} {top : Bool} {first : Compiled}
    {others : List Compiled} (hseveral : 1 < (constraining members).length)
    (hmodels : (constraining members).all r.isModel = false)
    (hparts : MakesParts r hint "Part" (constraining members) (first :: others))
    (h : ∀ s ∈ members, ∀ hint c, compileAt r s hint false = .ok c → Compiles r s hint false c) :
    Compiles r (.allOf m members) hint top (markNullable m.nullable
      (.combine (.checked first.type (others.map (·.type))) (first :: others)
        ["Annotated", "BeforeValidator", "TypeAdapter"] [] (others.flatMap (·.refs)).eraseDups))
  | any {m : Marks} {kind : UnionKind} {members : List Schema} {hint : String} {top : Bool} (parts : List Compiled)
    (hseveral : 1 < members.length) (hparts : MakesParts r hint "Option" members parts)
    (h : ∀ s ∈ members, ∀ hint c, compileAt r s hint false = .ok c → Compiles r s hint false c) :
    Compiles r (.union m kind members) hint top (markNullable m.nullable (combineAny parts))

theorem compiles {s : Schema} (h : compileAt r s hint top = .ok c) : Compiles r s hint top c := by
  -- One case for each constructor; compositions are told apart by how many members say anything.
  induction s using Schema.induction generalizing hint top c with
  | ref m name =>
    obtain ⟨e, he, rfl⟩ := compileAt_ref h
    exact .ref he
  | object m properties required additional ih ihAdditional =>
    obtain ⟨draft, extra, doc, hdraft, hextra, -, rfl⟩ := compileAt_object h
    refine .object doc hdraft hextra fun s hs hint c hc => ?_
    rcases List.mem_append.mp hs with hs | hs
    · obtain ⟨p, hp, rfl⟩ := List.mem_map.mp hs
      exact ih p hp hc
    · exact ihAdditional s (Option.mem_toList.mp hs) hc
  | array m item ih =>
    obtain ⟨c', hc, rfl⟩ := compileAt_array h
    exact .array hc (ih hc)
  | enum m values =>
    rcases compileAt_enum h with ⟨hvalues, rfl⟩ | rfl
    · exact .blank (s := .enum m values) hvalues
    · exact .literal
  | allOf m members ih =>
    rcases nothing_or_single_or_several (constraining members) with hmembers | ⟨s, hmembers⟩ | hseveral
    · rw [compileAt_allOf_nil h hmembers]
      exact .blank (s := .allOf m members) (constraining_eq_nil.mp hmembers)
    · obtain ⟨c', hc, rfl⟩ := compileAt_allOf_single h hmembers
      have hs : s ∈ constraining members := hmembers ▸ List.mem_cons_self
      exact .allOf hmembers hc (ih s (constraining_subset hs) hc)
    · cases hmodels : (constraining members).all r.isModel with
      | true =>
        obtain ⟨parts, doc, hparts, rfl⟩ := compileAt_inherits h hseveral hmodels
        exact .inherits doc hseveral hmodels hparts fun s hs hint c hc => ih s hs hc
      | false =>
        obtain ⟨first, others, hparts, rfl⟩ := compileAt_checked h hseveral hmodels
        exact .checked hseveral hmodels hparts fun s hs hint c hc => ih s hs hc
  | union m kind members ih =>
    rcases nothing_or_single_or_several members with rfl | ⟨s, rfl⟩ | hseveral
    · rw [compileAt_union_nil h]
      exact .blank (s := .union m kind []) rfl
    · obtain ⟨c', hc, rfl⟩ := compileAt_union_single h
      exact .union hc (ih s List.mem_cons_self hc)
    · obtain ⟨parts, hparts, rfl⟩ := compileAt_union_several h hseveral
      exact .any parts hseveral hparts fun s hs hint c hc => ih s hs hc
  | primitive m type format =>
    rw [compileAt] at h
    cases h
    exact .primitive
  | untyped m =>
    rw [compileAt] at h
    cases h
    exact .blank (s := .untyped m) rfl

end Rules

end Schema

end ClientForge
