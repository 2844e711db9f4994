import ClientForge.Proofs.Outcomes
import ClientForge.Schema.Reading

/-!
The two ways to say that a schema takes null: as one of its types, and with a mark of its own. A reader makes no
difference between them.
-/

namespace ClientForge.Schema

open Outcome

def SaysAlike (e e' : Entries) : Prop :=
  ∀ name ∉ ["type", "nullable"], Entries.get? e name = Entries.get? e' name

def typeNames (types : List String) : Document := .list (types.map .text)

section Alike

variable {read : Document → Except Failure Schema} {e e' : Entries} {marks : Marks}

theorem SaysAlike.field (h : SaysAlike e e') (name : String) (hname : name ∉ ["type", "nullable"]) :
    Document.field e name = Document.field e' name := by
  rw [Document.field, h name hname, Document.field]

theorem SaysAlike.has (h : SaysAlike e e') (name : String) (hname : name ∉ ["type", "nullable"]) :
    Entries.has e name = Entries.has e' name := by
  rw [Entries.has, h name hname, Entries.has]

theorem SaysAlike.checkMarks (h : SaysAlike e e') (record : RecordKind) (marks : Marks) :
    checkMarks record e marks = checkMarks record e' marks := by
  rw [Schema.checkMarks, h.field "description" (by decide), Schema.checkMarks]

theorem SaysAlike.readEnum (h : SaysAlike e e') (values : List Document) :
    readEnum marks e values = readEnum marks e' values := by
  rw [Schema.readEnum, h.checkMarks, Schema.readEnum]

theorem SaysAlike.readPrimitive (h : SaysAlike e e') (type : PrimitiveType) :
    readPrimitive marks e type = readPrimitive marks e' type := by
  rw [Schema.readPrimitive, h.field "description" (by decide), h.field "format" (by decide), Schema.readPrimitive]

theorem SaysAlike.typedShape (h : SaysAlike e e') (type : Option String) : typedShape e type = typedShape e' type := by
  rw [Schema.typedShape, Schema.typedShape]
  simp only [h.has "properties" (by decide), h.has "additionalProperties" (by decide), h.has "items" (by decide)]

theorem SaysAlike.ofObject (h : SaysAlike e e') : ofObject read marks e = ofObject read marks e' := by
  rw [Schema.ofObject, h.field "additionalProperties" (by decide), h.field "properties" (by decide), requiredNames,
    h.field "required" (by decide), Schema.ofObject, requiredNames]

theorem SaysAlike.ofTyped (h : SaysAlike e e') (type : Option String) :
    ofTyped read marks e type = ofTyped read marks e' type := by
  rw [Schema.ofTyped, Schema.ofTyped, h.typedShape]
  cases Schema.typedShape e' type with
  | object => exact h.ofObject
  | array => simp only [h.field "items" (by decide), h.checkMarks]
  | primitive type => simp only [h.readPrimitive]
  | untyped => simp only [h.checkMarks]

theorem SaysAlike.ofTypes (h : SaysAlike e e') (types : List String) :
    ofTypes read marks e types = ofTypes read marks e' types := by
  match types with
  | [] => exact h.ofTyped none
  | [type] => exact h.ofTyped (some type)
  | _ :: _ :: _ => simp only [Schema.ofTypes, h.ofTyped, h.checkMarks]

theorem SaysAlike.ofAllOf (h : SaysAlike e e') : ofAllOf read marks e = ofAllOf read marks e' := by
  simp only [Schema.ofAllOf, h.field "allOf" (by decide), h.has "properties" (by decide), h.ofObject, h.checkMarks]

theorem SaysAlike.ofUnion (h : SaysAlike e e') (record : RecordKind) (kind : UnionKind) (d : Document) :
    ofUnion read record kind marks e d = ofUnion read record kind marks e' d := by
  simp only [Schema.ofUnion, h.checkMarks]

theorem SaysAlike.ofMapping (h : SaysAlike e e') {types types' : List String} (htypes : declaredTypes e = .ok types)
    (htypes' : declaredTypes e' = .ok types') (hmarks : looseMarks e types = looseMarks e' types')
    (hbeside : types.filter (· ≠ "null") = types'.filter (· ≠ "null")) : ofMapping read e = ofMapping read e' := by
  have hread (e : Entries) {types : List String} (htypes : declaredTypes e = .ok types) :
      (liftM (declaredTypes e) : Except Failure (List String)) = .ok types := by
    rw [htypes]
    rfl
  unfold Schema.ofMapping
  rw [hread e htypes, hread e' htypes']
  simp only [bind, Except.bind, hmarks, hbeside, h.has "$ref" (by decide), h.field "$ref" (by decide),
    h.has "enum" (by decide), h.field "enum" (by decide), h.has "const" (by decide), h.field "const" (by decide),
    h.has "allOf" (by decide), h.has "oneOf" (by decide), h.field "oneOf" (by decide), h.has "anyOf" (by decide),
    h.field "anyOf" (by decide), h.checkMarks, h.readEnum, h.ofAllOf, h.ofUnion, h.ofTypes]

end Alike

variable {e e' raw : Entries} {types : List String}

theorem declaredTypes_typeNames (h : Entries.get? e "type" = some (typeNames types)) : declaredTypes e = .ok types := by
  have hfield : (Document.field e "type").opened = .list (types.map .text) := by
    rw [Document.field, h]
    rfl
  rw [declaredTypes, hfield]
  exact mapM_of_forall₂ (List.forall₂_map_left_iff.mpr (List.forall₂_same.mpr fun _ _ => rfl))

theorem looseMarks_alike {types' : List String} (h : SaysAlike e e') (hnull : "null" ∈ types)
    (hnullable : Entries.get? e' "nullable" = some (.bool true)) : looseMarks e types = looseMarks e' types' := by
  have hmark : (Document.field e' "nullable").isGiven = true := by
    rw [Document.field, hnullable]
    rfl
  rw [looseMarks, looseMarks, h.field "description" (by decide), hmark, List.contains_iff_mem.mpr hnull, Bool.or_true,
    Bool.true_or]

theorem ofDocument_map (h : e ≠ []) :
    ofDocument (.map e) = ofMapping (fun part => ofDocumentWithin (levels part) [] part) e := by
  cases e with
  | nil => exact absurd rfl h
  | cons a e => rfl

theorem insert_ne_nil (e : Entries) (k : Scalar) (d : Document) : Entries.insert e k d ≠ [] := by
  cases e with
  | nil => simp [Entries.insert]
  | cons a e =>
    rw [Entries.insert]
    split <;> simp

theorem ofMapping_nullable {read : Document → Except Failure Schema} (h : SaysAlike e e') (hnull : "null" ∈ types)
    (htypes : Entries.get? e "type" = some (typeNames types))
    (htypes' : Entries.get? e' "type" = some (typeNames (types.filter (· ≠ "null"))))
    (hnullable : Entries.get? e' "nullable" = some (.bool true)) : ofMapping read e = ofMapping read e' := by
  apply h.ofMapping (declaredTypes_typeNames htypes) (declaredTypes_typeNames htypes')
  · exact looseMarks_alike h hnull hnullable
  · rw [List.filter_filter]
    simp only [Bool.and_self]

/-- A schema with null among its types is the schema of the other types that is marked to take null. -/
theorem nullable_spellings (raw : Entries) (h : "null" ∈ types) :
    ofDocument (.map (Entries.insert raw (.text "type") (typeNames types))) =
      ofDocument (.map (Entries.insert (Entries.insert raw (.text "type") (typeNames (types.filter (· ≠ "null"))))
        (.text "nullable") (.bool true))) := by
  rw [ofDocument_map (insert_ne_nil _ _ _), ofDocument_map (insert_ne_nil _ _ _)]
  refine ofMapping_nullable (fun name hname => ?_) h ?_ ?_ ?_
  · simp only [List.mem_cons, List.not_mem_nil, or_false, not_or] at hname
    rw [Entries.get?_insert, Entries.get?_insert, Entries.get?_insert, if_neg (Ne.symm hname.1),
      if_neg (Ne.symm hname.2), if_neg (Ne.symm hname.1)]
  · rw [Entries.get?_insert, if_pos rfl]
  · rw [Entries.get?_insert, if_neg (by decide), Entries.get?_insert, if_pos rfl]
  · rw [Entries.get?_insert, if_pos rfl]

theorem nullable_spellings_several :
    let raw : Entries := [(.text "nullable", .bool false), (.text "type", .text "number"), (.text "properties",
      .map [(.text "tag", .map [(.text "type", typeNames ["null", "integer"])])])]
    let types := ["null", "object", "string", "null"]
    let marked := Entries.insert (Entries.insert raw (.text "type") (typeNames ["object", "string"])) (.text "nullable")
      (.bool true)
    "null" ∈ types ∧
      ofDocument (.map (Entries.insert raw (.text "type") (typeNames types))) = ofDocument (.map marked) ∧
      ofDocument (.map marked) = .ok (.union ⟨true, .absent⟩ .anyOf [
        .object ⟨false, .absent⟩ [("tag", .primitive ⟨true, .absent⟩ .integer none)] [] none,
        .primitive ⟨false, .absent⟩ .string none]) := by
  intro raw types marked
  have hnull : "null" ∈ types := by decide
  exact ⟨hnull, nullable_spellings raw hnull, rfl⟩

end ClientForge.Schema
