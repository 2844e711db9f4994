import ClientForge.Code.Compiled
import ClientForge.Proofs.Outcomes

namespace ClientForge

open Outcome

namespace Compiled

@[simp] theorem refs_orNone (c : Compiled) : c.orNone.refs = c.refs := by
  unfold orNone
  split <;> rfl

@[simp] theorem runtimeRefs_orNone (c : Compiled) : c.orNone.runtimeRefs = c.runtimeRefs := by
  unfold orNone
  split <;> rfl

theorem mem_refs_combine {type : TypeExpr} {parts : List Compiled} {symbols : List String} {models : List ClassDef}
    {runtimeRefs : List String} {x : String} :
    x ∈ (combine type parts symbols models runtimeRefs).refs ↔ ∃ p ∈ parts, x ∈ p.refs := by
  simp [combine]

theorem mem_runtimeRefs_combine {type : TypeExpr} {parts : List Compiled} {symbols : List String}
    {models : List ClassDef} {runtimeRefs : List String} {x : String} :
    x ∈ (combine type parts symbols models runtimeRefs).runtimeRefs ↔
      (∃ p ∈ parts, x ∈ p.runtimeRefs) ∨ x ∈ runtimeRefs := by
  simp [combine]

end Compiled

namespace Schema

@[simp] theorem refs_markNullable (nullable : Bool) (c : Compiled) : (markNullable nullable c).refs = c.refs := by
  unfold markNullable
  split <;> simp

@[simp] theorem runtimeRefs_markNullable (nullable : Bool) (c : Compiled) :
    (markNullable nullable c).runtimeRefs = c.runtimeRefs := by
  unfold markNullable
  split <;> simp

@[simp] theorem models_markNullable (nullable : Bool) (c : Compiled) : (markNullable nullable c).models = c.models := by
  unfold markNullable Compiled.orNone
  split
  · split <;> rfl
  · rfl

theorem markNullable_false (c : Compiled) : markNullable false c = c := rfl

variable {r : Registry} {hint : String} {top : Bool} {m : Marks} {c : Compiled}

theorem compileAt_ref {name : String} (h : compileAt r (.ref m name) hint top = .ok c) :
    ∃ e, r.get? name = some e ∧ c = markNullable m.nullable ⟨.named e.symbol, [name], [], [], []⟩ := by
  rw [compileAt, map_eq_ok] at h
  obtain ⟨c', hc, rfl⟩ := h
  unfold compileRef at hc
  split at hc
  · rename_i e he
    cases hc
    exact ⟨e, he, rfl⟩
  · cases hc

theorem compileAt_object {properties : List (String × Schema)} {required : List String} {additional : Option Schema}
    (h : compileAt r (.object m properties required additional) hint top = .ok c) :
    ∃ draft extra doc, compileProperties r required (className r hint top) .start properties = .ok draft ∧
      compileAdditional r (className r hint top ++ "Value") additional = .ok extra ∧ classDoc m.description = .ok doc ∧
      c = markNullable m.nullable (draft.finish (className r hint top) doc additional.isSome extra) := by
  rw [compileAt] at h
  obtain ⟨draft, hdraft, h⟩ := bind_eq_ok.mp h
  obtain ⟨extra, hextra, h⟩ := bind_eq_ok.mp h
  obtain ⟨doc, hdoc, h⟩ := bind_eq_ok.mp h
  exact ⟨draft, extra, doc, hdraft, hextra, hdoc, (pure_eq_ok.mp h).symm⟩

theorem compileAt_array {item : Schema} (h : compileAt r (.array m item) hint top = .ok c) :
    ∃ c', compileAt r item (hint ++ "Item") false = .ok c' ∧
      c = markNullable m.nullable { c' with type := .list c'.type } := by
  rw [compileAt] at h
  obtain ⟨c', hc, h⟩ := bind_eq_ok.mp h
  exact ⟨c', hc, (pure_eq_ok.mp h).symm⟩

theorem compileAt_enum {values : List Document} (h : compileAt r (.enum m values) hint top = .ok c) :
    values.isEmpty = true ∧ c = markNullable m.nullable .anything ∨
      c = markNullable m.nullable (.plain (.literal values) ["Literal"]) := by
  rw [compileAt, map_eq_ok] at h
  obtain ⟨c', hc, rfl⟩ := h
  unfold compileEnum at hc
  split at hc
  · rename_i hvalues
    cases hc
    exact .inl ⟨hvalues, rfl⟩
  · split at hc <;> cases hc
    exact .inr rfl

def memberHint (hint word : String) (several : Prop) [Decidable several] (k : ℕ) : String :=
  if several then s!"{hint}{word}{k}" else hint

theorem compileAt_allOf {members : List Schema} (h : compileAt r (.allOf m members) hint top = .ok c) :
    ∃ parts, compileMembers r (!·.isUntyped) (memberHint hint "Part" (1 < (constraining members).length))
        (top && !decide (1 < (constraining members).length)) 1 members = .ok parts ∧
      ((parts = [] ∧ c = markNullable m.nullable .anything) ∨ (∃ c', parts = [c'] ∧ c = markNullable m.nullable c') ∨
        1 < parts.length ∧ ∃ c', combineAll r members m.description (className r hint top) parts = .ok c' ∧
          c = markNullable m.nullable c') := by
  rw [compileAt] at h
  obtain ⟨parts, hparts, h⟩ := bind_eq_ok.mp h
  refine ⟨parts, hparts, ?_⟩
  match parts with
  | [] => exact .inl ⟨rfl, (pure_eq_ok.mp h).symm⟩
  | [c'] => exact .inr (.inl ⟨c', rfl, (pure_eq_ok.mp h).symm⟩)
  | _ :: _ :: _ =>
    obtain ⟨c', hc, h⟩ := bind_eq_ok.mp h
    exact .inr (.inr ⟨by simp, c', hc, (pure_eq_ok.mp h).symm⟩)

theorem compileAt_union {kind : UnionKind} {members : List Schema}
    (h : compileAt r (.union m kind members) hint top = .ok c) :
    ∃ parts, compileMembers r (fun _ => true) (memberHint hint "Option" (1 < members.length))
        (top && !decide (1 < members.length)) 1 members = .ok parts ∧
      ((parts = [] ∧ c = markNullable m.nullable .anything) ∨ (∃ c', parts = [c'] ∧ c = markNullable m.nullable c') ∨
        1 < parts.length ∧ c = markNullable m.nullable (combineAny parts)) := by
  rw [compileAt] at h
  obtain ⟨parts, hparts, h⟩ := bind_eq_ok.mp h
  refine ⟨parts, hparts, ?_⟩
  have h := (pure_eq_ok.mp h).symm
  match parts with
  | [] => exact .inl ⟨rfl, h⟩
  | [c'] => exact .inr (.inl ⟨c', rfl, h⟩)
  | _ :: _ :: _ => exact .inr (.inr ⟨by simp, h⟩)

theorem compileProperties_cons {required : List String} {name property : String} {s : Schema}
    {draft draft' : ClassDraft} {rest : List (String × Schema)}
    (h : compileProperties r required name draft ((property, s) :: rest) = .ok draft') :
    ∃ c, compileAt r s (draft.hint name property) false = .ok c ∧
      compileProperties r required name (draft.add r required (draft.hint name property) property c) rest =
        .ok draft' := by
  rw [compileProperties] at h
  exact bind_eq_ok.mp h

theorem compileAdditional_some {s : Schema} {extra : Option Compiled}
    (h : compileAdditional r hint (some s) = .ok extra) :
    extra = none ∨ ∃ c, compileAt r s hint false = .ok c ∧ extra = some c := by
  rw [compileAdditional] at h
  split at h
  · cases h
    exact .inl rfl
  · obtain ⟨c, hc, he⟩ := map_eq_ok.mp h
    exact .inr ⟨c, hc, he.symm⟩

theorem compileMembers_cons {counts : Schema → Bool} {hint : ℕ → String} {k : ℕ} {s : Schema} {rest : List Schema}
    {parts : List Compiled} (h : compileMembers r counts hint top k (s :: rest) = .ok parts) :
    (counts s = true ∧ ∃ c more, compileAt r s (hint k) top = .ok c ∧
      compileMembers r counts hint top (k + 1) rest = .ok more ∧ parts = c :: more) ∨
      counts s = false ∧ compileMembers r counts hint top k rest = .ok parts := by
  rw [compileMembers] at h
  split at h
  · rename_i hs
    obtain ⟨c, hc, h⟩ := bind_eq_ok.mp h
    obtain ⟨more, hmore, h⟩ := bind_eq_ok.mp h
    exact .inl ⟨hs, c, more, hc, hmore, (pure_eq_ok.mp h).symm⟩
  · rename_i hs
    exact .inr ⟨by simpa using hs, h⟩

end Schema

namespace NamedSchema

variable {r : Registry} {e : NamedSchema} {c : Compiled}

theorem compile_eq_ok (h : e.compile r = .ok c) :
    ∃ c', Schema.compileAt r e.schema e.symbol true = .ok c' ∧
      ((∃ k ∈ c'.models, k.name = e.symbol) ∧ c = { c' with type := .named e.symbol } ∨
        (∀ k ∈ c'.models, k.name ≠ e.symbol) ∧ ∃ doc, Schema.classDoc e.schema.marks.description = .ok doc ∧
          (c'.type.text = e.symbol ∧ c = ⟨.named e.symbol, c'.refs.filter (· ≠ e.name),
              c'.models ++ [wrapper e.symbol doc .any], (c'.symbols ++ ["RootModel", "Any"]).eraseDups,
              c'.runtimeRefs.filter (· ≠ e.name)⟩ ∨
            c'.type.text ≠ e.symbol ∧ c = ⟨.named e.symbol, c'.refs, c'.models ++ [wrapper e.symbol doc c'.type],
              (c'.symbols ++ ["RootModel"]).eraseDups, c'.runtimeRefs⟩)) := by
  obtain ⟨c', hc, h⟩ := bind_eq_ok.mp h
  refine ⟨c', hc, ?_⟩
  split at h
  · rename_i hany
    obtain ⟨k, hk, hname⟩ := List.any_eq_true.mp hany
    exact .inl ⟨⟨k, hk, by simpa using hname⟩, (pure_eq_ok.mp h).symm⟩
  · rename_i hany
    obtain ⟨doc, hdoc, h⟩ := bind_eq_ok.mp h
    refine .inr ⟨by simpa using hany, doc, hdoc, ?_⟩
    split at h
    · rename_i htext
      exact .inl ⟨htext, (pure_eq_ok.mp h).symm⟩
    · rename_i htext
      exact .inr ⟨htext, (pure_eq_ok.mp h).symm⟩

theorem compile_cases (h : e.compile r = .ok c) :
    ∃ c', Schema.compileAt r e.schema e.symbol true = .ok c' ∧ (∀ x ∈ c.refs, x ∈ c'.refs) ∧
      ∃ model ∈ c.models, model.name = e.symbol := by
  obtain ⟨c', hc, ⟨hown, rfl⟩ | ⟨-, doc, -, ⟨-, rfl⟩ | ⟨-, rfl⟩⟩⟩ := compile_eq_ok h
  · exact ⟨c', hc, fun x hx => hx, hown⟩
  · exact ⟨c', hc, fun x hx => List.mem_of_mem_filter hx, _, List.mem_append_right _ (List.mem_singleton_self _), rfl⟩
  · exact ⟨c', hc, fun x hx => hx, _, List.mem_append_right _ (List.mem_singleton_self _), rfl⟩

end NamedSchema

end ClientForge
