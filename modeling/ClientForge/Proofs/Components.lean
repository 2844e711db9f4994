import ClientForge.Schema.Basic
import Mathlib.Data.List.Basic

namespace ClientForge

namespace Schema

@[elab_as_elim]
theorem induction {motive : Schema → Prop} (ref : ∀ m name, motive (.ref m name))
    (object : ∀ m properties required additional, (∀ p ∈ properties, motive p.2) → (∀ s ∈ additional, motive s) →
      motive (.object m properties required additional))
    (array : ∀ m item, motive item → motive (.array m item)) (enum : ∀ m values, motive (.enum m values))
    (allOf : ∀ m members, (∀ s ∈ members, motive s) → motive (.allOf m members))
    (union : ∀ m kind members, (∀ s ∈ members, motive s) → motive (.union m kind members))
    (primitive : ∀ m type format, motive (.primitive m type format)) (untyped : ∀ m, motive (.untyped m))
    (s : Schema) : motive s := by
  have ih (t : Schema) (_ : sizeOf t < sizeOf s) : motive t :=
    induction ref object array enum allOf union primitive untyped t
  cases s with
  | ref m name => exact ref m name
  | object m properties required additional =>
    apply object
    · rintro ⟨name, t⟩ hp
      apply ih
      have hlt := List.sizeOf_lt_of_mem hp
      simp only [Prod.mk.sizeOf_spec, Schema.object.sizeOf_spec] at hlt ⊢
      omega
    · rintro t ⟨⟩
      apply ih
      simp only [Schema.object.sizeOf_spec, Option.some.sizeOf_spec]
      omega
  | array m item =>
    apply array
    apply ih
    simp only [Schema.array.sizeOf_spec]
    omega
  | enum m values => exact enum m values
  | allOf m members =>
    apply allOf
    intro t ht
    apply ih
    have hlt := List.sizeOf_lt_of_mem ht
    simp only [Schema.allOf.sizeOf_spec]
    omega
  | union m kind members =>
    apply union
    intro t ht
    apply ih
    have hlt := List.sizeOf_lt_of_mem ht
    simp only [Schema.union.sizeOf_spec]
    omega
  | primitive m type format => exact primitive m type format
  | untyped m => exact untyped m
termination_by sizeOf s

def components : Schema → List Schema
  | .object _ properties _ additional => properties.map (·.2) ++ additional.toList
  | .array _ item => [item]
  | .allOf _ members => members
  | .union _ _ members => members
  | _ => []

inductive Within (t : Schema) : Schema → Prop
  | self : Within t t
  | part {s u : Schema} (hu : u ∈ s.components) (h : Within t u) : Within t s

variable {s t : Schema}

theorem mentionedInProperties_eq (properties : List (String × Schema)) :
    mentionedInProperties properties = (properties.map (·.2)).flatMap mentioned := by
  induction properties with
  | nil => rfl
  | cons p properties ih => rw [mentionedInProperties, ih, List.map_cons, List.flatMap_cons]

theorem mentionedInAdditional_eq (additional : Option Schema) :
    mentionedInAdditional additional = additional.toList.flatMap mentioned := by
  cases additional <;> simp [mentionedInAdditional]

theorem mentionedInMembers_eq (members : List Schema) : mentionedInMembers members = members.flatMap mentioned := by
  induction members with
  | nil => rfl
  | cons s members ih => rw [mentionedInMembers, ih, List.flatMap_cons]

theorem mentioned_component (ht : t ∈ s.components) : t.mentioned ⊆ s.mentioned := by
  intro x hx
  have hmem := List.mem_flatMap.mpr ⟨t, ht, hx⟩
  cases s with
  | object => rwa [mentioned, mentionedInProperties_eq, mentionedInAdditional_eq, ← List.flatMap_append]
  | array => simpa [components, mentioned] using hmem
  | allOf | union => rwa [mentioned, mentionedInMembers_eq]
  | _ => cases ht

theorem mentioned_subset (h : Within t s) : t.mentioned ⊆ s.mentioned := by
  induction h with
  | self => exact List.Subset.refl _
  | part hu _ ih => exact List.Subset.trans ih (mentioned_component hu)

mutual

def enumValues : Schema → List Document
  | .object _ properties _ additional => enumValuesOfProperties properties ++ enumValuesOfAdditional additional
  | .array _ item => enumValues item
  | .enum _ values => values
  | .allOf _ members => enumValuesOfMembers members
  | .union _ _ members => enumValuesOfMembers members
  | _ => []

def enumValuesOfProperties : List (String × Schema) → List Document
  | [] => []
  | (_, s) :: rest => enumValues s ++ enumValuesOfProperties rest

def enumValuesOfAdditional : Option Schema → List Document
  | none => []
  | some s => enumValues s

def enumValuesOfMembers : List Schema → List Document
  | [] => []
  | s :: rest => enumValues s ++ enumValuesOfMembers rest

end

theorem enumValuesOfProperties_eq (properties : List (String × Schema)) :
    enumValuesOfProperties properties = properties.flatMap fun p => p.2.enumValues := by
  induction properties with
  | nil => rfl
  | cons p properties ih => rw [enumValuesOfProperties, ih, List.flatMap_cons]

theorem enumValuesOfMembers_eq (members : List Schema) : enumValuesOfMembers members = members.flatMap enumValues := by
  induction members with
  | nil => rfl
  | cons s members ih => rw [enumValuesOfMembers, ih, List.flatMap_cons]

theorem enumValues_component {s t : Schema} (ht : t ∈ s.components) : t.enumValues ⊆ s.enumValues := by
  intro x hx
  have hmem := List.mem_flatMap.mpr ⟨t, ht, hx⟩
  cases s with
  | object m properties required additional =>
    rw [enumValues, enumValuesOfProperties_eq]
    cases additional <;> simpa [components, enumValuesOfAdditional, List.flatMap_map] using hmem
  | array => simpa [components, enumValues] using hmem
  | allOf | union => rwa [enumValues, enumValuesOfMembers_eq]
  | _ => cases ht

end Schema

end ClientForge
