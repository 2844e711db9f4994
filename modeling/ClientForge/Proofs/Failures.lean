import ClientForge.Proofs.ModelTest
import ClientForge.Proofs.Outcomes
import ClientForge.Package.Modules

namespace ClientForge

open Outcome

namespace Failure

def IsOfSchema (f : Failure) : Prop := (∃ name, f = .reference name) ∨ ∃ fault, f = .malformed fault

def IsRouteConflict (f : Failure) : Prop := ∃ c, f = .routeConflict c

def IsAliasConflict (f : Failure) : Prop := ∃ c, f = .aliasConflict c

def IsOfRoutes (f : Failure) : Prop := f.IsRouteConflict ∨ f.IsAliasConflict

theorem IsOfSchema.ne_conflict {f : Failure} (h : f.IsOfSchema) (c : Conflict) : f ≠ .conflict c := by
  rcases h with ⟨name, rfl⟩ | ⟨fault, rfl⟩ <;> simp

theorem IsOfRoutes.ne_conflict {f : Failure} (h : f.IsOfRoutes) (c : Conflict) : f ≠ .conflict c := by
  rcases h with ⟨c', rfl⟩ | ⟨c', rfl⟩ <;> simp

end Failure

open Failure

namespace Schema

inductive Spoils (r : Registry) : Schema → Failure → Prop
  | missing {m : Marks} {name : String} (h : r.get? name = none) : Spoils r (.ref m name) (.reference name)
  | digits {m : Marks} {values : List Document} {v : Document} (hv : v ∈ values) (h : v.isWritable = false) :
      Spoils r (.enum m values) (.malformed .tooManyDigits)
  | doc {s : Schema} {d : Document} (h : s.marks.description = .unchecked d) :
      Spoils r s (.malformed (.rejected .classDefinition [.doc]))

def IsSpoiled (r : Registry) (s : Schema) (f : Failure) : Prop := ∃ t, Within t s ∧ Spoils r t f

variable {r : Registry}

theorem IsSpoiled.isOfSchema {s : Schema} {f : Failure} (h : IsSpoiled r s f) : f.IsOfSchema := by
  obtain ⟨t, -, ⟨hname⟩ | ⟨hv, hdigits⟩ | hdoc⟩ := h
  · exact .inl ⟨_, rfl⟩
  · exact .inr ⟨_, rfl⟩
  · exact .inr ⟨_, rfl⟩

theorem spoiled_part {α : Type} {s t : Schema} {x : Except Failure α} (ht : t ∈ s.components)
    (h : FailsOnly (IsSpoiled r t) x) : FailsOnly (IsSpoiled r s) x := by
  refine h.imp fun f hf => ?_
  obtain ⟨u, hu, hspoils⟩ := hf
  exact ⟨u, .part ht hu, hspoils⟩

theorem compileRef_fails (m : Marks) (name : String) : FailsOnly (IsSpoiled r (.ref m name)) (compileRef r name) := by
  unfold compileRef
  split
  · exact failsOnly_ok _
  · rename_i h
    exact failsOnly_error ⟨_, .self, .missing h⟩

theorem compileEnum_fails (m : Marks) (values : List Document) :
    FailsOnly (IsSpoiled r (.enum m values)) (compileEnum values) := by
  unfold compileEnum
  split
  · exact failsOnly_ok _
  · split
    · exact failsOnly_ok _
    · rename_i h
      obtain ⟨v, hv, hwritable⟩ := List.all_eq_false.mp (Bool.eq_false_iff.mpr h)
      exact failsOnly_error ⟨_, .self, .digits hv (Bool.eq_false_iff.mpr hwritable)⟩

theorem classDoc_fails (s : Schema) : FailsOnly (IsSpoiled r s) (classDoc s.marks.description) := by
  unfold classDoc
  split
  · exact failsOnly_ok _
  · exact failsOnly_ok _
  · rename_i h
    split
    · exact failsOnly_ok _
    · exact failsOnly_error ⟨s, .self, .doc h⟩

theorem combineAll_fails (m : Marks) (members : List Schema) (name : String) (parts : List Compiled) :
    FailsOnly (IsSpoiled r (.allOf m members)) (combineAll r members m.description name parts) := by
  unfold combineAll
  split
  · exact (classDoc_fails (.allOf m members)).bind fun doc => failsOnly_ok _
  · split <;> exact failsOnly_ok _

-- What is to be shown of every schema is known of the parts of a given one.
section Parts

variable {Q : Failure → Prop}

theorem compileProperties_fails {required : List String} {name : String} {properties : List (String × Schema)}
    (h : ∀ p ∈ properties, ∀ hint top, FailsOnly Q (compileAt r p.2 hint top)) (draft : ClassDraft) :
    FailsOnly Q (compileProperties r required name draft properties) := by
  induction properties generalizing draft with
  | nil =>
    rw [compileProperties]
    exact failsOnly_ok _
  | cons p properties ih =>
    rw [compileProperties]
    apply (h p List.mem_cons_self _ _).bind
    intro c
    exact ih (fun p' hp' => h p' (List.mem_cons_of_mem _ hp')) _

theorem compileAdditional_fails {additional : Option Schema}
    (h : ∀ s ∈ additional, ∀ hint top, FailsOnly Q (compileAt r s hint top)) (hint : String) :
    FailsOnly Q (compileAdditional r hint additional) := by
  cases additional with
  | none =>
    rw [compileAdditional]
    exact failsOnly_ok _
  | some s =>
    rw [compileAdditional]
    split
    · exact failsOnly_ok _
    · exact (h s rfl _ _).map _

theorem compileMembers_fails {counts : Schema → Bool} {hint : ℕ → String} {top : Bool} {members : List Schema}
    (h : ∀ s ∈ members, ∀ hint top, FailsOnly Q (compileAt r s hint top)) (k : ℕ) :
    FailsOnly Q (compileMembers r counts hint top k members) := by
  induction members generalizing k with
  | nil =>
    rw [compileMembers]
    exact failsOnly_ok _
  | cons s members ih =>
    have ih := ih fun s' hs' => h s' (List.mem_cons_of_mem _ hs')
    rw [compileMembers]
    split
    · apply (h s List.mem_cons_self _ _).bind
      intro c
      apply (ih (k + 1)).bind
      intro more
      exact failsOnly_ok _
    · exact ih k

end Parts

theorem compileAt_spoiled (s : Schema) (hint : String) (top : Bool) :
    FailsOnly (IsSpoiled r s) (compileAt r s hint top) := by
  induction s using Schema.induction generalizing hint top with
  | ref m name =>
    rw [compileAt]
    exact (compileRef_fails m name).map _
  | object m properties required additional ih ihAdditional =>
    rw [compileAt]
    have hproperty {p : String × Schema} (hp : p ∈ properties) :
        p.2 ∈ (object m properties required additional).components :=
      List.mem_append_left _ (List.mem_map_of_mem hp)
    have hadditional {s : Schema} (hs : s ∈ additional) : s ∈ (object m properties required additional).components :=
      List.mem_append_right _ (Option.mem_toList.mpr hs)
    apply (compileProperties_fails (fun p hp _ _ => spoiled_part (hproperty hp) (ih p hp _ _)) _).bind
    intro draft
    apply (compileAdditional_fails (fun s hs _ _ => spoiled_part (hadditional hs) (ihAdditional s hs _ _)) _).bind
    intro extra
    exact (classDoc_fails (.object m properties required additional)).bind fun doc => failsOnly_ok _
  | array m item ih =>
    rw [compileAt]
    exact (spoiled_part (List.mem_singleton_self _) (ih _ _)).bind fun c => failsOnly_ok _
  | enum m values =>
    rw [compileAt]
    exact (compileEnum_fails m values).map _
  | allOf m members ih =>
    rw [compileAt]
    apply (compileMembers_fails (fun s hs _ _ => spoiled_part (s := .allOf m members) hs (ih s hs _ _)) _).bind
    rintro (_ | ⟨c, _ | ⟨c', parts⟩⟩)
    · exact failsOnly_ok _
    · exact failsOnly_ok _
    · exact (combineAll_fails m members _ _).bind fun c => failsOnly_ok _
  | union m kind members ih =>
    rw [compileAt]
    apply (compileMembers_fails (fun s hs _ _ => spoiled_part (s := .union m kind members) hs (ih s hs _ _)) _).bind
    intro parts
    exact failsOnly_ok _
  | primitive m type format =>
    rw [compileAt]
    exact failsOnly_ok _
  | untyped m =>
    rw [compileAt]
    exact failsOnly_ok _

theorem compileAt_fails (s : Schema) (hint : String) (top : Bool) : FailsOnly IsOfSchema (compileAt r s hint top) :=
  (compileAt_spoiled s hint top).imp fun _ h => h.isOfSchema

end Schema

theorem NamedSchema.compile_fails (r : Registry) (e : NamedSchema) : FailsOnly IsOfSchema (e.compile r) := by
  unfold NamedSchema.compile
  apply (Schema.compileAt_fails _ _ _).bind
  intro c
  split
  · exact failsOnly_ok _
  · apply ((Schema.classDoc_fails (r := r) e.schema).imp fun f h => h.isOfSchema).bind
    intro doc
    split <;> exact failsOnly_ok _

namespace Request

variable {r : Registry} {hint : String}

theorem declaredParams_fails (done : List ParamDef) (needs : Needs) (parameters : List Parameter) :
    FailsOnly IsOfSchema (declaredParams r hint done needs parameters) := by
  induction parameters generalizing done needs with
  | nil => exact failsOnly_ok _
  | cons p parameters ih =>
    unfold declaredParams
    apply (Schema.compileAt_fails _ _ _).bind
    intro c
    exact ih _ _

theorem bodyDef_fails (body : RequestBody) : FailsOnly IsOfSchema (bodyDef r hint body) := by
  unfold bodyDef
  dsimp only
  split
  · exact failsOnly_ok _
  · exact failsOnly_ok _
  · apply (Schema.compileAt_fails _ _ _).bind
    intro c
    exact failsOnly_ok _

theorem responseDef_fails (o : Operation) : FailsOnly IsOfSchema (responseDef r hint o) := by
  unfold responseDef
  split
  · exact failsOnly_ok _
  · apply (Schema.compileAt_fails _ _ _).bind
    intro c
    exact failsOnly_ok _

theorem define_fails (o : Operation) : FailsOnly IsOfSchema (define r o) := by
  unfold define
  apply (declaredParams_fails _ _ _).bind
  rintro ⟨declared, needs⟩
  have hbody : FailsOnly IsOfSchema (o.requestBody.mapM (bodyDef r (hintStart o))) := by
    cases o.requestBody with
    | none => exact failsOnly_ok _
    | some body =>
      rw [Option.mapM_some]
      exact (bodyDef_fails body).map _
  apply hbody.bind
  intro body
  apply (responseDef_fails o).bind
  intro response
  exact failsOnly_ok _

end Request

namespace Route

variable {operations : List Operation}

theorem makeNode_fails (parts : List String) (children : List RouteNode) :
    FailsOnly IsRouteConflict (makeNode operations parts children) := by
  unfold makeNode
  dsimp only
  split
  · exact failsOnly_error ⟨_, rfl⟩
  · split
    · exact failsOnly_error ⟨_, rfl⟩
    · exact failsOnly_ok _

theorem nodeAt_fails (all : List (List String)) (fuel : ℕ) (parts : List String) :
    FailsOnly IsRouteConflict (nodeAt operations all fuel parts) := by
  induction fuel generalizing parts with
  | zero => exact makeNode_fails _ _
  | succ fuel ih =>
    unfold nodeAt
    apply (failsOnly_mapM fun q _ => ih q).bind
    intro children
    exact makeNode_fails _ _

theorem aliasesAfter_fails (before : List AliasEntry) :
    FailsOnly IsAliasConflict (aliasesAfter before operations) := by
  induction operations generalizing before with
  | nil => exact failsOnly_ok _
  | cons o operations ih =>
    unfold aliasesAfter
    split
    · exact ih before
    · dsimp only
      split
      · exact failsOnly_error ⟨_, rfl⟩
      · exact ih _

end Route

namespace Package

def IsEarly (f : Failure) : Prop := ∀ path, f ≠ .conflict (.pathTwice path)

variable {r : Registry} {naming : ModuleNaming}

theorem moduleNaming_fails (style : ImportStyle) (package : Option String) :
    FailsOnly IsEarly (moduleNaming style package) := by
  unfold moduleNaming
  split
  · exact failsOnly_ok _
  · exact failsOnly_ok _
  · exact failsOnly_error fun path => by simp

theorem routes_fails (api : Api) : FailsOnly IsEarly (routes api) := by
  have hearly (f : Failure) (h : f.IsOfRoutes) : IsEarly f := fun path => h.ne_conflict _
  unfold routes
  apply ((Route.nodeAt_fails _ _ _).imp fun f h => hearly f (.inl h)).bind
  intro root
  apply ((Route.aliasesAfter_fails []).imp fun f h => hearly f (.inr h)).map AliasTable.mk |>.bind
  intro table
  exact failsOnly_ok _

theorem schemaModule_fails (reach : String → List String) (e : NamedSchema) :
    FailsOnly IsEarly (schemaModule r naming reach e) := by
  have hearly (f : Failure) (h : f.IsOfSchema) : IsEarly f := fun path => h.ne_conflict _
  unfold schemaModule
  apply ((e.compile_fails r).imp hearly).bind
  intro c
  dsimp only
  split
  · exact failsOnly_error fun path => by simp
  · exact failsOnly_ok _

theorem schemasModule_fails (ms : List Module) : FailsOnly IsEarly (schemasModule naming ms) := by
  unfold schemasModule
  dsimp only
  split
  · exact failsOnly_error fun path => by simp
  · exact failsOnly_ok _

theorem schemas_fails (api : Api) : FailsOnly IsEarly (schemas naming api) := by
  unfold schemas
  apply (failsOnly_mapM fun e _ => schemaModule_fails _ e).bind
  intro ms
  apply (schemasModule_fails ms).bind
  intro gathered
  exact failsOnly_ok _

theorem routeModule_fails (path : ModulePath) (n : RouteNode) : FailsOnly IsEarly (routeModule r naming path n) := by
  unfold routeModule nodeParts
  have hparts : FailsOnly IsEarly (n.operations.mapM (Request.define r)) :=
    failsOnly_mapM fun o _ => (Request.define_fails o).imp fun f h path => h.ne_conflict _
  apply (hparts.map _).bind
  intro p
  split
  · exact failsOnly_error fun path => by simp
  · exact failsOnly_ok _

theorem routeModules_fails (root : RouteNode) : FailsOnly IsEarly (routeModules r naming root) := by
  unfold routeModules
  apply (failsOnly_mapM fun n _ => routeModule_fails _ n).bind
  intro below
  split
  · exact failsOnly_ok _
  · apply (routeModule_fails _ root).bind
    intro own
    exact failsOnly_ok _

end Package

end ClientForge
