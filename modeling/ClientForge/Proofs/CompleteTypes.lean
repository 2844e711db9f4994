import ClientForge.Proofs.BuiltinNames
import ClientForge.Proofs.ClassTexts
import ClientForge.Proofs.Components

namespace ClientForge

open Naming Outcome

namespace Schema

def IsPlain (s : Schema) : Prop := ∀ d ∈ s.enumValues, d.IsPlain

theorem IsPlain.component {s t : Schema} (h : s.IsPlain) (ht : t ∈ s.components) : t.IsPlain :=
  fun d hd => h d (enumValues_component ht hd)

end Schema

/-- What code may read that brings some library names, references to named schemas and classes. -/
inductive AtHand (r : Registry) (symbols refs : List String) (classes : List ClassDef) : String → Prop
  | builtin {x : String} : x ∈ Naming.builtins → AtHand r symbols refs classes x
  | symbol {x : String} : x ∈ symbols → AtHand r symbols refs classes x
  | ref {name : String} {e : NamedSchema} : name ∈ refs → r.get? name = some e → AtHand r symbols refs classes e.symbol
  | model {k : ClassDef} : k ∈ classes → AtHand r symbols refs classes k.name

theorem AtHand.mono {r : Registry} {symbols symbols' refs refs' : List String} {classes classes' : List ClassDef}
    {x : String} (h : AtHand r symbols refs classes x) (hsymbols : symbols ⊆ symbols') (hrefs : refs ⊆ refs')
    (hclasses : classes ⊆ classes') : AtHand r symbols' refs' classes' x := by
  cases h with
  | builtin h => exact .builtin h
  | symbol h => exact .symbol (hsymbols h)
  | ref h he => exact .ref (hrefs h) he
  | model h => exact .model (hclasses h)

namespace Compiled

def Provides (r : Registry) (c : Compiled) : String → Prop := AtHand r c.symbols c.refs c.models

/-- A type can be read, and so can the classes made for it, and it brings all names in their code. -/
structure Complete (r : Registry) (c : Compiled) : Prop where
  symbols : c.symbols ⊆ Library.symbols
  type : c.type.IsReadable
  type_names : ∀ x ∈ c.type.names, c.Provides r x
  classes : ∀ k ∈ c.models, k.IsReadable
  class_names : ∀ k ∈ c.models, ∀ x ∈ k.names, c.Provides r x

variable {r : Registry} {c c' : Compiled} {x : String}

theorem Provides.mono (h : c.Provides r x) (hsymbols : c.symbols ⊆ c'.symbols) (hrefs : c.refs ⊆ c'.refs)
    (hmodels : c.models ⊆ c'.models) : c'.Provides r x := AtHand.mono h hsymbols hrefs hmodels

theorem complete_plain {name : String} {symbols : List String} (hname : IsWord name)
    (hsymbols : symbols ⊆ Library.symbols) (hprovides : name ∈ Naming.builtins ∨ name ∈ symbols) :
    (plain (.named name) symbols).Complete r where
  symbols := hsymbols
  type := hname
  type_names x hx := by
    rw [List.mem_singleton.mp hx]
    exact hprovides.elim (.builtin ·) (.symbol ·)
  classes k hk := by cases hk
  class_names k hk := by cases hk

theorem complete_anything : anything.Complete r := complete_plain (by decide) (by decide) (.inr (by decide))

theorem Complete.orNone (h : c.Complete r) : c.orNone.Complete r := by
  unfold Compiled.orNone
  split
  · exact h
  · let c' : Compiled := { c with type := .optional c.type, symbols := (c.symbols ++ ["Optional"]).eraseDups }
    have hmono {x : String} (hx : c.Provides r x) : c'.Provides r x :=
      hx.mono (fun y hy => List.mem_eraseDups.mpr (List.mem_append_left _ hy)) (List.Subset.refl _) (List.Subset.refl _)
    have hsymbols : c'.symbols ⊆ Library.symbols := fun x hx => by
      rcases List.mem_append.mp (List.mem_eraseDups.mp hx) with hx | hx
      · exact h.symbols hx
      · rw [List.mem_singleton.mp hx]
        decide
    refine ⟨hsymbols, h.type, fun x hx => ?_, h.classes, fun k hk x hx => hmono (h.class_names k hk x hx)⟩
    rcases List.mem_cons.mp hx with rfl | hx
    · exact .symbol (by simp)
    · exact hmono (h.type_names x hx)

theorem Complete.markNullable (h : c.Complete r) (nullable : Bool) : (Schema.markNullable nullable c).Complete r := by
  unfold Schema.markNullable
  split
  · exact h.orNone
  · exact h

theorem Complete.list (h : c.Complete r) : Complete r { c with type := .list c.type } := by
  have hmono {x : String} (hx : c.Provides r x) : Provides r { c with type := .list c.type } x :=
    hx.mono (List.Subset.refl _) (List.Subset.refl _) (List.Subset.refl _)
  refine ⟨h.symbols, h.type, fun x hx => ?_, h.classes, fun k hk x hx => hmono (h.class_names k hk x hx)⟩
  rcases List.mem_cons.mp hx with rfl | hx
  · exact .builtin (by decide)
  · exact hmono (h.type_names x hx)

section Combine

variable {type : TypeExpr} {parts : List Compiled} {symbols : List String} {models : List ClassDef}
  {runtimeRefs : List String}

theorem Provides.of_part {p : Compiled} (hp : p ∈ parts) (h : p.Provides r x) :
    (combine type parts symbols models runtimeRefs).Provides r x := by
  refine h.mono (fun y hy => ?_) (fun y hy => mem_refs_combine.mpr ⟨p, hp, hy⟩) fun k hk => ?_
  · exact List.mem_eraseDups.mpr (List.mem_append_left _ (List.mem_flatMap.mpr ⟨p, hp, hy⟩))
  · exact List.mem_append_left _ (List.mem_flatMap.mpr ⟨p, hp, hk⟩)

theorem provides_symbol (hx : x ∈ symbols) : (combine type parts symbols models runtimeRefs).Provides r x :=
  .symbol (List.mem_eraseDups.mpr (List.mem_append_right _ hx))

theorem provides_model {k : ClassDef} (hk : k ∈ models) :
    (combine type parts symbols models runtimeRefs).Provides r k.name :=
  .model (List.mem_append_right _ hk)

theorem complete_combine (hparts : ∀ p ∈ parts, p.Complete r) (hsymbols : symbols ⊆ Library.symbols)
    (htype : type.IsReadable)
    (hnames : ∀ x ∈ type.names, (combine type parts symbols models runtimeRefs).Provides r x)
    (hmodels : ∀ k ∈ models, k.IsReadable ∧
      ∀ x ∈ k.names, (combine type parts symbols models runtimeRefs).Provides r x) :
    (combine type parts symbols models runtimeRefs).Complete r where
  symbols x hx := by
    rcases List.mem_append.mp (List.mem_eraseDups.mp hx) with hx | hx
    · obtain ⟨p, hp, hx⟩ := List.mem_flatMap.mp hx
      exact (hparts p hp).symbols hx
    · exact hsymbols hx
  type := htype
  type_names := hnames
  classes k hk := by
    rcases List.mem_append.mp hk with hk | hk
    · obtain ⟨p, hp, hk⟩ := List.mem_flatMap.mp hk
      exact (hparts p hp).classes k hk
    · exact (hmodels k hk).1
  class_names k hk x hx := by
    rcases List.mem_append.mp hk with hk | hk
    · obtain ⟨p, hp, hk⟩ := List.mem_flatMap.mp hk
      exact .of_part hp ((hparts p hp).class_names k hk x hx)
    · exact (hmodels k hk).2 x hx

end Combine

end Compiled

namespace TypeExpr

theorem isReadable_orNone {t : TypeExpr} (h : t.IsReadable) : t.orNone.IsReadable := by
  unfold orNone
  split <;> exact h

theorem names_orNone {t : TypeExpr} {x : String} (h : x ∈ t.orNone.names) :
    x ∈ t.names ∨ x = "Optional" ∧ t.takesNone = false := by
  unfold orNone at h
  split at h
  · exact .inl h
  · rename_i hnone
    exact (List.mem_cons.mp h).symm.imp_right (⟨·, by simpa using hnone⟩)

end TypeExpr

namespace Schema

section Draft

variable {r : Registry} {required : List String} {property hint : String} {draft : ClassDraft} {c : Compiled}

theorem fieldOf_isReadable (before : List FieldDef) {type : TypeExpr} (h : type.IsReadable) :
    (fieldOf r required before property type).IsReadable where
  name := by
    apply unique_isWord
    split
    · exact (fieldName_isWord property).append (List.all_eq_true.mp (by decide))
    · exact fieldName_isWord property
  type := by
    change (if required.contains property then type else type.orNone).IsReadable
    split
    · exact h
    · exact TypeExpr.isReadable_orNone h
  default value hvalue := by
    change (if required.contains property then none else some "None") = some value at hvalue
    split at hvalue
    · cases hvalue
    · exact (Option.some.inj hvalue).symm

theorem names_fieldOf {before : List FieldDef} {type : TypeExpr} {x : String}
    (h : x ∈ (fieldOf r required before property type).names) :
    x ∈ type.names ∨ x ∈ fieldSymbols required property type (fieldOf r required before property type) := by
  rw [fieldSymbols]
  rcases List.mem_append.mp h with h | h
  · change x ∈ (if required.contains property then type else type.orNone).names at h
    split at h
    · exact .inl h
    · rename_i hrequired
      rcases TypeExpr.names_orNone h with h | ⟨rfl, hnone⟩
      · exact .inl h
      · exact .inr (List.mem_append_left _ (by simpa [hnone] using hrequired))
  · exact .inr (List.mem_append_right _ h)

theorem fieldSymbols_subset (required : List String) (property : String) (type : TypeExpr) (field : FieldDef) :
    fieldSymbols required property type field ⊆ Library.symbols := by
  have hknown : "Optional" ∈ Library.symbols ∧ "Field" ∈ Library.symbols := by decide
  unfold fieldSymbols
  split <;> split <;> simp [hknown]

structure ClassDraft.Complete (r : Registry) (draft : ClassDraft) : Prop where
  symbols : draft.symbols ⊆ Library.symbols
  base : "BaseModel" ∈ draft.symbols
  parts : ∀ p ∈ draft.parts, p.Complete r
  fields : ∀ f ∈ draft.fields, f.IsReadable
  names : ∀ f ∈ draft.fields, ∀ x ∈ f.names, x ∈ draft.symbols ∨ ∃ p ∈ draft.parts, p.Provides r x

theorem ClassDraft.complete_start : ClassDraft.start.Complete r := 
  ⟨by decide, by decide, by simp [start], by simp [start], by simp [start]⟩

theorem ClassDraft.Complete.add (h : draft.Complete r) (hc : c.Complete r) :
    (draft.add r required hint property c).Complete r where
  symbols := List.append_subset.mpr ⟨h.symbols, fieldSymbols_subset ..⟩
  base := List.mem_append_left _ h.base
  parts := List.forall_mem_append.mpr ⟨h.parts, List.forall_mem_singleton.mpr hc⟩
  fields := List.forall_mem_append.mpr ⟨h.fields, List.forall_mem_singleton.mpr (fieldOf_isReadable _ hc.type)⟩
  names f hf x hx := by
    rcases List.mem_append.mp hf with hf | hf
    · exact (h.names f hf x hx).imp (List.mem_append_left _) fun ⟨p, hp, hx⟩ => ⟨p, List.mem_append_left _ hp, hx⟩
    · rw [List.mem_singleton.mp hf] at hx
      rcases names_fieldOf hx with hx | hx
      · exact .inr ⟨c, List.mem_append_right _ List.mem_cons_self, hc.type_names x hx⟩
      · exact .inl (List.mem_append_right _ hx)

theorem hint_isWord (draft : ClassDraft) {name : String} (h : IsWord name) (property : String) :
    IsWord (draft.hint name property) := by
  have hplain : IsWord (name ++ pascalCase property) := h.append (pascalCase_isWord property).2
  unfold ClassDraft.hint
  rcases unique_eq (name ++ pascalCase property) draft.hints "" with heq | ⟨k, heq⟩
  · rwa [heq]
  · rw [heq, numbered, String.append_empty]
    exact hplain.append fun c hc => isWordChar_of_mem_toString hc

theorem complete_finish (h : draft.Complete r) {name : String} (hname : IsWord name) {extra : Option Compiled}
    (hextra : ∀ p ∈ extra, p.Complete r) (doc : Option String) (isOpen : Bool) :
    (draft.finish name doc isOpen extra).Complete r := by
  apply Compiled.complete_combine
  · exact List.forall_mem_append.mpr ⟨h.parts, fun p hp => hextra p (Option.mem_toList.mp hp)⟩
  · have hconfig : "ConfigDict" ∈ Library.symbols := by decide
    have hone (p : Prop) [Decidable p] : (if p then [] else ["ConfigDict"]) ⊆ Library.symbols := by
      split <;> simp [hconfig]
    exact List.append_subset.mpr ⟨h.symbols, hone _⟩
  · exact hname
  · intro x hx
    rw [List.mem_singleton.mp hx]
    exact Compiled.provides_model (List.mem_singleton_self _)
  · rw [List.forall_mem_singleton]
    refine ⟨⟨List.forall_mem_singleton.mpr (by decide), ?_, h.fields, ?_⟩, fun x hx => ?_⟩
    · dsimp only
      split <;> split <;> simp
    · intro t ht
      obtain ⟨p, hp, rfl⟩ := Option.map_eq_some_iff.mp ht
      exact (hextra p hp).type
    · simp only [ClassDef.names, List.mem_append, List.mem_flatMap, Option.mem_toList, Option.map_eq_some_iff] at hx
      rcases hx with ((hx | hx) | ⟨f, hf, hx⟩) | ⟨t, ⟨p, hp, rfl⟩, hx⟩
      · exact Compiled.provides_symbol (List.mem_append_left _ (List.mem_singleton.mp hx ▸ h.base))
      · exact Compiled.provides_symbol (List.mem_append_right _ hx)
      · rcases h.names f hf x hx with hx | ⟨p, hp, hx⟩
        · exact Compiled.provides_symbol (List.mem_append_left _ hx)
        · exact .of_part (List.mem_append_left _ hp) hx
      · simp only [TypeExpr.names, List.mem_cons] at hx
        rcases hx with rfl | rfl | hx
        · exact .builtin (by decide)
        · exact .builtin (by decide)
        · exact .of_part (List.mem_append_right _ (Option.mem_toList.mpr hp)) ((hextra p hp).type_names x hx)

end Draft

end Schema

end ClientForge
