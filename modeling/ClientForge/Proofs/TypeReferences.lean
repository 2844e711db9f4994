import ClientForge.Proofs.Lists
import ClientForge.Proofs.TypeRules

namespace ClientForge

open Outcome

def Compiled.RefersTo (r : Registry) (names : List String) (c : Compiled) : Prop :=
  ∀ x ∈ c.refs, x ∈ names ∧ (r.get? x).isSome

namespace Schema

variable {r : Registry} {s : Schema} {hint : String} {top : Bool} {m : Marks} {members schemas : List Schema}
  {c : Compiled} {parts : List Compiled}

theorem references_of_isUntyped (h : s.isUntyped = true) : s.references = [] := by
  cases s <;> first | rfl | cases h

theorem flatMap_references_constraining (members : List Schema) :
    (constraining members).flatMap references = members.flatMap references := by
  induction members with
  | nil => rfl
  | cons s members ih =>
    cases hs : s.isUntyped with
    | true =>
      rw [constraining, List.filter_cons_of_neg (by simp [hs]), List.flatMap_cons, references_of_isUntyped hs,
        List.nil_append]
      exact ih
    | false =>
      rw [constraining, List.filter_cons_of_pos (by simp [hs]), List.flatMap_cons, List.flatMap_cons]
      exact congrArg _ ih

theorem eraseDups_flatMap_mentioned (schemas : List Schema) :
    (schemas.flatMap mentioned).eraseDups = (schemas.flatMap references).eraseDups :=
  (eraseDups_flatMap schemas mentioned).symm

theorem references_object {properties : List (String × Schema)} {required : List String} {additional : Option Schema} :
    (object m properties required additional).references =
      ((properties.map (·.2) ++ constraining additional.toList).flatMap references).eraseDups := by
  rw [references, mentioned, mentionedInProperties_eq, mentionedInAdditional_eq, ← List.flatMap_append,
    eraseDups_flatMap_mentioned, List.flatMap_append, List.flatMap_append, flatMap_references_constraining]

theorem references_allOf : (allOf m members).references = ((constraining members).flatMap references).eraseDups := by
  rw [references, mentioned, mentionedInMembers_eq, eraseDups_flatMap_mentioned, flatMap_references_constraining]

theorem references_union {kind : UnionKind} :
    (union m kind members).references = (members.flatMap references).eraseDups := by
  rw [references, mentioned, mentionedInMembers_eq, eraseDups_flatMap_mentioned]

theorem references_of_isBlank (h : s.isBlank = true) : s.references = [] := by
  cases s with
  | allOf m members => rw [references_allOf, constraining_eq_nil.mpr h, List.flatMap_nil, List.eraseDups_nil]
  | union m kind members =>
    obtain rfl := List.isEmpty_iff.mp h
    rfl
  | enum => rfl
  | untyped => rfl
  | _ => cases h

structure Gathers (s : Schema) (c : Compiled) : Prop where
  refs : c.refs = s.references
  runtime : c.runtimeRefs ⊆ c.refs

theorem Gathers.markNullable (h : Gathers s c) (nullable : Bool) : Gathers s (markNullable nullable c) := by
  unfold Schema.markNullable Compiled.orNone
  split
  · split <;> exact ⟨h.refs, h.runtime⟩
  · exact h

theorem Gathers.list (h : Gathers s c) : Gathers (.array m s) { c with type := .list c.type } := ⟨h.refs, h.runtime⟩

theorem flatMap_refs (h : List.Forall₂ Gathers schemas parts) :
    parts.flatMap (·.refs) = schemas.flatMap references := by
  induction h with
  | nil => rfl
  | cons hc _ ih => rw [List.flatMap_cons, List.flatMap_cons, hc.refs, ih]

theorem gathers_combine (h : List.Forall₂ Gathers schemas parts)
    (hs : s.references = (schemas.flatMap references).eraseDups) {runtimeRefs : List String}
    (hruntime : runtimeRefs ⊆ parts.flatMap (·.refs)) (type : TypeExpr) (symbols : List String)
    (models : List ClassDef) : Gathers s (.combine type parts symbols models runtimeRefs) := by
  refine ⟨by rw [hs, ← flatMap_refs h]; rfl, fun x hx => ?_⟩
  rw [Compiled.combine, List.mem_eraseDups, List.mem_append, List.mem_flatMap] at hx
  rw [Compiled.combine, List.mem_eraseDups]
  rcases hx with ⟨p, hp, hx⟩ | hx
  · obtain ⟨t, -, ht⟩ := exists_left_of_mem h hp
    exact List.mem_flatMap.mpr ⟨p, hp, ht.runtime hx⟩
  · exact hruntime hx

theorem gathers_anything (hs : s.references = []) : Gathers s .anything := ⟨hs.symm, List.Subset.refl _⟩

theorem gathers_properties {properties : List (String × Schema)} {required : List String} {name : String}
    {draft : ClassDraft} (h : compileProperties r required name .start properties = .ok draft)
    (ih : ∀ p ∈ properties, ∀ hint c, compileAt r p.2 hint false = .ok c → Gathers p.2 c) :
    List.Forall₂ Gathers (properties.map (·.2)) draft.parts := by
  obtain ⟨-, parts, hparts, hall⟩ := compileProperties_eq_ok h
  rw [hparts, List.forall₂_map_left_iff]
  obtain ⟨hlength, hzip⟩ := List.forall₂_iff_zip.mp hall
  refine List.forall₂_iff_zip.mpr ⟨hlength, fun {p c} hpc => ?_⟩
  obtain ⟨hint, -, hc⟩ := hzip hpc
  exact ih p (List.of_mem_zip hpc).1 _ c hc

theorem gathers_additional {additional : Option Schema} {extra : Option Compiled}
    (h : compileAdditional r hint additional = .ok extra)
    (ih : ∀ s ∈ additional, ∀ hint c, compileAt r s hint false = .ok c → Gathers s c) :
    List.Forall₂ Gathers (constraining additional.toList) extra.toList := by
  cases additional with
  | none =>
    rw [compileAdditional] at h
    cases h
    exact .nil
  | some s =>
    cases hs : s.isUntyped with
    | true =>
      rw [compileAdditional, hs, if_pos rfl] at h
      cases h
      simp [constraining, hs]
    | false =>
      rw [compileAdditional, hs, if_neg Bool.false_ne_true, map_eq_ok] at h
      obtain ⟨c, hc, rfl⟩ := h
      simpa [constraining, hs] using ih s rfl _ c hc

theorem eraseDups_references (s : Schema) : s.references.eraseDups = s.references :=
  eraseDups_of_nodup (nodup_eraseDups _)

theorem gathers_of_compileAt (h : compileAt r s hint top = .ok c) : Gathers s c := by
  have hsame {s t : Schema} {c : Compiled} {nullable : Bool} (h : Gathers t c)
      (hrefs : s.references = ([t].flatMap references).eraseDups) : Gathers s (markNullable nullable c) := by
    rw [List.flatMap_singleton, eraseDups_references] at hrefs
    exact Gathers.markNullable ⟨h.refs.trans hrefs.symm, h.runtime⟩ nullable
  replace h := compiles h
  induction h with
  | ref _ => exact Gathers.markNullable ⟨rfl, List.nil_subset _⟩ _
  | object doc hdraft hextra _ ih =>
    have hproperties := gathers_properties hdraft fun p hp => ih p.2 (List.mem_append_left _ (List.mem_map_of_mem hp))
    have hadditional := gathers_additional hextra fun s hs => ih s (List.mem_append_right _ (Option.mem_toList.mpr hs))
    have hall := List.rel_append hproperties hadditional
    exact (gathers_combine hall references_object (List.nil_subset _) _ _ _).markNullable _
  | array _ _ ih => exact ih.list.markNullable _
  | literal => exact Gathers.markNullable ⟨rfl, List.nil_subset _⟩ _
  | primitive => exact Gathers.markNullable ⟨rfl, List.nil_subset _⟩ _
  | blank hs => exact (gathers_anything (references_of_isBlank hs)).markNullable _
  | allOf hmembers _ _ ih => exact hsame ih (hmembers ▸ references_allOf)
  | union _ _ ih => exact hsame ih references_union
  | inherits doc _ _ hparts _ ih =>
    have hall := hparts.forall₂ fun s hs => ih s (constraining_subset hs)
    exact (gathers_combine hall references_allOf (List.nil_subset _) _ _ _).markNullable _
  | checked _ _ hparts _ ih =>
    have hall := hparts.forall₂ fun s hs => ih s (constraining_subset hs)
    refine (gathers_combine hall references_allOf (fun x hx => ?_) _ _ _).markNullable _
    exact List.mem_append_right _ (List.mem_eraseDups.mp hx)
  | any parts _ hparts _ ih =>
    obtain ⟨type, symbols, heq⟩ := combineAny_eq parts
    rw [heq]
    exact (gathers_combine (hparts.forall₂ ih) references_union (List.nil_subset _) _ _ _).markNullable _

theorem found_of_compileAt (h : compileAt r s hint top = .ok c) : ∀ x ∈ c.refs, (r.get? x).isSome := by
  have hcombine {type : TypeExpr} {parts : List Compiled} {symbols runtimeRefs : List String} {models : List ClassDef}
      (hparts : ∀ p ∈ parts, ∀ x ∈ p.refs, (r.get? x).isSome) :
      ∀ x ∈ (Compiled.combine type parts symbols models runtimeRefs).refs, (r.get? x).isSome := by
    intro x hx
    obtain ⟨p, hp, hx⟩ := Compiled.mem_refs_combine.mp hx
    exact hparts p hp x hx
  have hmembers {word : String} {members : List Schema} {parts : List Compiled} {hint : String}
      (hparts : MakesParts r hint word members parts) (ih : ∀ s ∈ members, ∀ hint c,
        compileAt r s hint false = .ok c → ∀ x ∈ c.refs, (r.get? x).isSome) :
      ∀ p ∈ parts, ∀ x ∈ p.refs, (r.get? x).isSome := by
    intro p hp
    obtain ⟨s, hs, k, hc⟩ := hparts.exists_member hp
    exact ih s hs _ p hc
  replace h := compiles h
  induction h with
  | ref he =>
    rw [refs_markNullable, List.forall_mem_singleton, he]
    rfl
  | object doc hdraft hextra _ ih =>
    rw [refs_markNullable]
    refine hcombine fun p hp => ?_
    obtain ⟨s, hs, hint', -, hc⟩ := (object_parts hdraft hextra).2 p hp
    exact ih s hs hint' p hc
  | array _ _ ih => rwa [refs_markNullable]
  | allOf _ _ _ ih => rwa [refs_markNullable]
  | union _ _ ih => rwa [refs_markNullable]
  | inherits doc _ _ hparts _ ih =>
    rw [refs_markNullable]
    exact hcombine (hmembers hparts fun s hs => ih s (constraining_subset hs))
  | checked _ _ hparts _ ih =>
    rw [refs_markNullable]
    exact hcombine (hmembers hparts fun s hs => ih s (constraining_subset hs))
  | any parts _ hparts _ ih =>
    obtain ⟨type, symbols, heq⟩ := combineAny_eq parts
    rw [refs_markNullable, heq]
    exact hcombine (hmembers hparts ih)
  | _ =>
    rw [refs_markNullable]
    exact List.forall_mem_nil _

theorem compileAt_refersTo (h : compileAt r s hint top = .ok c) : c.RefersTo r s.mentioned := by
  intro x hx
  have hmem : x ∈ s.references := (gathers_of_compileAt h).refs ▸ hx
  exact ⟨List.mem_eraseDups.mp hmem, found_of_compileAt h x hx⟩

end Schema

namespace NamedSchema

variable {r : Registry} {e : NamedSchema} {c : Compiled}

theorem compile_refersTo (h : e.compile r = .ok c) : c.RefersTo r e.schema.references := by
  obtain ⟨c', hc, hrefs, -⟩ := compile_cases h
  intro x hx
  have hx := Schema.compileAt_refersTo hc x (hrefs x hx)
  exact ⟨List.mem_eraseDups.mpr hx.1, hx.2⟩

end NamedSchema

end ClientForge
