import ClientForge.Code.ModelClass
import ClientForge.Proofs.Components
import ClientForge.Proofs.Lists
import ClientForge.Proofs.Registries

/-!
The test for classes to inherit from. It goes through the names that schemas refer to, but through none of them twice,
and so it comes to an end.
-/

namespace ClientForge

namespace Schema

variable {named named' : String → Bool} {m : Marks} {members : List Schema}

theorem mem_constraining {s : Schema} : s ∈ constraining members ↔ s ∈ members ∧ s.isUntyped = false := by
  simp [constraining]

theorem constraining_subset : constraining members ⊆ members := List.filter_subset_self members

theorem constraining_eq_nil : constraining members = [] ↔ members.all isUntyped = true := by
  simp [constraining]

theorem areModels_eq : areModels named members = (constraining members).all (isModel named) := by
  induction members with
  | nil => rfl
  | cons s members ih =>
    rw [areModels, ih, constraining, constraining]
    cases h : s.isUntyped
    · rw [Bool.false_or, List.filter_cons_of_pos (by simp [h]), List.all_cons]
    · rw [Bool.true_or, Bool.true_and, List.filter_cons_of_neg (by simp [h])]

theorem isModel_allOf : (allOf m members).isModel named =
    (!m.nullable && !(constraining members).isEmpty && (constraining members).all (isModel named)) := by
  rw [isModel, areModels_eq]
  congr 2
  rw [Bool.eq_iff_iff, Bool.not_eq_true', List.isEmpty_eq_false_iff, Ne, constraining_eq_nil]
  simp

theorem haveOwnClass_eq : haveOwnClass named members =
    match constraining members with
    | [] => false
    | [s] => s.hasOwnClass named
    | parts => parts.all (isModel named) := by
  induction members with
  | nil => rfl
  | cons s members ih =>
    rw [haveOwnClass]
    cases h : s.isUntyped
    · have hcons : constraining (s :: members) = s :: constraining members := by
        rw [constraining, List.filter_cons_of_pos (by simp [h])]
        rfl
      rw [hcons, areModels_eq, if_neg Bool.false_ne_true]
      cases hrest : constraining members with
      | nil => rw [if_pos (constraining_eq_nil.mp hrest)]
      | cons t rest =>
        rw [if_neg (by rw [← constraining_eq_nil, hrest]; exact List.cons_ne_nil _ _)]
        rfl
    · rw [if_pos rfl, ih, constraining, constraining, List.filter_cons_of_neg (by simp [h])]

theorem haveOwnClass_of_several (h : 1 < (constraining members).length) :
    haveOwnClass named members = (constraining members).all (isModel named) := by
  rw [haveOwnClass_eq]
  split
  · rename_i hnil
    rw [hnil] at h
    cases h
  · rename_i s hs
    rw [hs] at h
    exact absurd h (by simp)
  · rfl

theorem isModel_allOf_iff : (allOf m members).isModel named = true ↔
    m.nullable = false ∧ constraining members ≠ [] ∧ ∀ s ∈ constraining members, s.isModel named = true := by
  rw [isModel_allOf, Bool.and_eq_true, Bool.and_eq_true, Bool.not_eq_true', Bool.not_eq_true', List.all_eq_true,
    List.isEmpty_eq_false_iff, and_assoc]

theorem hasOwnClass_allOf_iff : (allOf m members).hasOwnClass named = true ↔
    m.nullable = false ∧ ((∃ s, constraining members = [s] ∧ s.hasOwnClass named = true) ∨
      1 < (constraining members).length ∧ ∀ s ∈ constraining members, s.isModel named = true) := by
  rw [hasOwnClass, Bool.and_eq_true, Bool.not_eq_true']
  apply and_congr_right'
  rcases nothing_or_single_or_several (constraining members) with hparts | ⟨s, hparts⟩ | hseveral
  · simp [haveOwnClass_eq, hparts]
  · simp [haveOwnClass_eq, hparts]
  · have hne : ¬∃ s, constraining members = [s] ∧ s.hasOwnClass named = true := by
      rintro ⟨s, hs, -⟩
      simp [hs] at hseveral
    rw [haveOwnClass_of_several hseveral, List.all_eq_true, or_iff_right hne, and_iff_right hseveral]

theorem isModel_union {kind : UnionKind} (h : members.length ≠ 1) : (union m kind members).isModel named = false := by
  rcases members with _ | ⟨s, _ | _⟩
  · rfl
  · exact absurd rfl h
  · rfl

theorem hasOwnClass_union {kind : UnionKind} (h : members.length ≠ 1) :
    (union m kind members).hasOwnClass named = false := by
  rcases members with _ | ⟨s, _ | _⟩
  · rfl
  · exact absurd rfl h
  · rfl

theorem isModel_union_iff {kind : UnionKind} : (union m kind members).isModel named = true ↔
    m.nullable = false ∧ ∃ s, members = [s] ∧ s.isModel named = true := by
  by_cases h : members.length = 1
  · obtain ⟨s, rfl⟩ := List.length_eq_one_iff.mp h
    simp [isModel]
  · rw [isModel_union h]
    refine iff_of_false Bool.false_ne_true ?_
    rintro ⟨-, s, rfl, -⟩
    exact h rfl

theorem hasOwnClass_union_iff {kind : UnionKind} : (union m kind members).hasOwnClass named = true ↔
    m.nullable = false ∧ ∃ s, members = [s] ∧ s.hasOwnClass named = true := by
  by_cases h : members.length = 1
  · obtain ⟨s, rfl⟩ := List.length_eq_one_iff.mp h
    simp [hasOwnClass]
  · rw [hasOwnClass_union h]
    refine iff_of_false Bool.false_ne_true ?_
    rintro ⟨-, s, rfl, -⟩
    exact h rfl

theorem nullable_of_isModel {s : Schema} (h : s.isModel named = true) : s.nullable = false := by
  cases s with
  | union m kind members => exact (isModel_union_iff.mp h).1
  | _ => simp_all [isModel, nullable, marks]

theorem nullable_of_hasOwnClass {s : Schema} (h : s.hasOwnClass named = true) : s.nullable = false := by
  cases s with
  | union m kind members => exact (hasOwnClass_union_iff.mp h).1
  | _ => simp_all [hasOwnClass, nullable, marks]

def isType : Schema → Bool
  | .array _ _ => true
  | .enum _ _ => true
  | .primitive _ _ _ => true
  | .untyped _ => true
  | _ => false

theorem isModel_of_isType {s : Schema} (h : s.isType = true) : s.isModel named = false := by
  cases s with
  | array | enum | primitive | untyped => rfl
  | _ => cases h

theorem hasOwnClass_of_isType {s : Schema} (h : s.isType = true) : s.hasOwnClass named = false := by
  cases s with
  | array | enum | primitive | untyped => rfl
  | _ => cases h

section Mono

variable (hnamed : ∀ name, named name = true → named' name = true)

include hnamed

theorem isModel_mono (s : Schema) (h : s.isModel named = true) : s.isModel named' = true := by
  induction s using Schema.induction with
  | ref m name =>
    rw [isModel, Bool.and_eq_true] at h ⊢
    exact ⟨h.1, hnamed name h.2⟩
  | allOf m members ih =>
    rw [isModel_allOf_iff] at h ⊢
    exact ⟨h.1, h.2.1, fun s hs => ih s (mem_constraining.mp hs).1 (h.2.2 s hs)⟩
  | union m kind members ih =>
    obtain ⟨hnull, s, rfl, hs⟩ := isModel_union_iff.mp h
    exact isModel_union_iff.mpr ⟨hnull, s, rfl, ih s List.mem_cons_self hs⟩
  | object m properties required additional => exact h
  | _ => cases h

theorem hasOwnClass_mono (s : Schema) (h : s.hasOwnClass named = true) : s.hasOwnClass named' = true := by
  induction s using Schema.induction with
  | allOf m members ih =>
    obtain ⟨hnull, ⟨s, hparts, hs⟩ | ⟨hseveral, hall⟩⟩ := hasOwnClass_allOf_iff.mp h
    · have hmem : s ∈ constraining members := hparts ▸ List.mem_cons_self
      exact hasOwnClass_allOf_iff.mpr ⟨hnull, .inl ⟨s, hparts, ih s (mem_constraining.mp hmem).1 hs⟩⟩
    · exact hasOwnClass_allOf_iff.mpr ⟨hnull, .inr ⟨hseveral, fun s hs => isModel_mono hnamed s (hall s hs)⟩⟩
  | union m kind members ih =>
    obtain ⟨hnull, s, rfl, hs⟩ := hasOwnClass_union_iff.mp h
    exact hasOwnClass_union_iff.mpr ⟨hnull, s, rfl, ih s List.mem_cons_self hs⟩
  | object m properties required additional => exact h
  | _ => cases h

end Mono

end Schema

namespace Registry

open Schema

inductive Question
  | isModel (s : Schema)
  | areModels (members : List Schema)
  | hasOwnClass (s : Schema)

def Question.answer (named : String → Bool) : Question → Bool
  | isModel s => s.isModel named
  | areModels members => members.all (·.isModel named)
  | hasOwnClass s => s.hasOwnClass named

/-- The course of the test: a question comes to its answer, asked after a look through the names in `seen`. What is
needed for the answer is asked in order and no further than needed. -/
inductive Answers (r : Registry) : List String → Question → Bool → Prop
  | model_nullable {seen s} (h : s.nullable = true) : Answers r seen (.isModel s) false
  | model_object {seen m properties required additional} (h : m.nullable = false) :
      Answers r seen (.isModel (.object m properties required additional)) true
  | model_refused {seen m name} (h : m.nullable = false) (hname : r.get? name = none ∨ name ∈ seen) :
      Answers r seen (.isModel (.ref m name)) false
  | model_ref {seen m name e b} (h : m.nullable = false) (he : r.get? name = some e) (hname : name ∉ seen)
      (hown : Answers r (name :: seen) (.hasOwnClass e.schema) b) : Answers r seen (.isModel (.ref m name)) b
  | model_nothing {seen m members} (h : m.nullable = false) (hmembers : constraining members = []) :
      Answers r seen (.isModel (.allOf m members)) false
  | model_allOf {seen m members b} (h : m.nullable = false) (hmembers : constraining members ≠ [])
      (hparts : Answers r seen (.areModels (constraining members)) b) : Answers r seen (.isModel (.allOf m members)) b
  | model_single {seen m kind s b} (h : m.nullable = false) (hs : Answers r seen (.isModel s) b) :
      Answers r seen (.isModel (.union m kind [s])) b
  | model_union {seen m kind members} (h : m.nullable = false) (hmembers : members.length ≠ 1) :
      Answers r seen (.isModel (.union m kind members)) false
  | model_type {seen s} (h : s.nullable = false) (hs : s.isType = true) : Answers r seen (.isModel s) false
  | models_nil {seen} : Answers r seen (.areModels []) true
  | models_stop {seen s rest} (hs : Answers r seen (.isModel s) false) : Answers r seen (.areModels (s :: rest)) false
  | models_go {seen s rest b} (hs : Answers r seen (.isModel s) true) (hrest : Answers r seen (.areModels rest) b) :
      Answers r seen (.areModels (s :: rest)) b
  | own_nullable {seen s} (h : s.nullable = true) : Answers r seen (.hasOwnClass s) false
  | own_object {seen m properties required additional} (h : m.nullable = false) :
      Answers r seen (.hasOwnClass (.object m properties required additional)) true
  | own_ref {seen m name} (h : m.nullable = false) : Answers r seen (.hasOwnClass (.ref m name)) false
  | own_nothing {seen m members} (h : m.nullable = false) (hmembers : constraining members = []) :
      Answers r seen (.hasOwnClass (.allOf m members)) false
  | own_member {seen m members s b} (h : m.nullable = false) (hmembers : constraining members = [s])
      (hs : Answers r seen (.hasOwnClass s) b) : Answers r seen (.hasOwnClass (.allOf m members)) b
  | own_allOf {seen m members b} (h : m.nullable = false) (hmembers : 1 < (constraining members).length)
      (hparts : Answers r seen (.areModels (constraining members)) b) :
      Answers r seen (.hasOwnClass (.allOf m members)) b
  | own_single {seen m kind s b} (h : m.nullable = false) (hs : Answers r seen (.hasOwnClass s) b) :
      Answers r seen (.hasOwnClass (.union m kind [s])) b
  | own_union {seen m kind members} (h : m.nullable = false) (hmembers : members.length ≠ 1) :
      Answers r seen (.hasOwnClass (.union m kind members)) false
  | own_type {seen s} (h : s.nullable = false) (hs : s.isType = true) : Answers r seen (.hasOwnClass s) false

variable {r : Registry} {seen : List String} {name : String} {e : NamedSchema}

def unseen (r : Registry) (seen : List String) : List String := r.names.filter (· ∉ seen)

def nameIsModelBeyond (r : Registry) (seen : List String) (name : String) : Bool :=
  r.nameIsModelWithin (r.unseen seen).length (r.unseen seen) name

theorem nameIsModelBeyond_nil (r : Registry) : r.nameIsModelBeyond [] = r.nameIsModel := by
  funext name
  simp [nameIsModelBeyond, nameIsModel, unseen, size, names]

theorem exists_entry_of_within {fuel : ℕ} {unseen : List String} (h : r.nameIsModelWithin fuel unseen name = true) :
    name ∈ unseen ∧ ∃ e, r.get? name = some e := by
  cases fuel with
  | zero => cases h
  | succ fuel =>
    rw [nameIsModelWithin, Bool.and_eq_true, List.contains_iff_mem] at h
    obtain ⟨hmem, h⟩ := h
    split at h
    · rename_i e he
      exact ⟨hmem, e, he⟩
    · cases h

theorem notMem_seen_of_beyond (h : r.nameIsModelBeyond seen name = true) : name ∉ seen := by
  have hmem := (exists_entry_of_within h).1
  simpa using (List.mem_filter.mp hmem).2

theorem exists_entry_of_beyond (h : r.nameIsModelBeyond seen name = true) : ∃ e, r.get? name = some e :=
  (exists_entry_of_within h).2

theorem unseen_erase (hr : r.names.Nodup) (seen : List String) (name : String) :
    (r.unseen seen).erase name = r.unseen (name :: seen) := by
  rw [unseen, List.Nodup.erase_eq_filter (hr.filter _), List.filter_filter, unseen]
  apply List.filter_congr
  intro x _
  rw [Bool.eq_iff_iff]
  simp

theorem mem_unseen (he : r.get? name = some e) (hname : name ∉ seen) : name ∈ r.unseen seen := by
  obtain ⟨hmem, rfl⟩ := mem_of_get? he
  exact List.mem_filter.mpr ⟨List.mem_map_of_mem hmem, decide_eq_true hname⟩

theorem length_unseen (hr : r.names.Nodup) (he : r.get? name = some e) (hname : name ∉ seen) :
    (r.unseen seen).length = (r.unseen (name :: seen)).length + 1 := by
  have hmem := mem_unseen he hname
  have hpos := List.length_pos_of_mem hmem
  rw [← unseen_erase hr, List.length_erase_of_mem hmem]
  omega

theorem nameIsModelBeyond_eq (hr : r.names.Nodup) (he : r.get? name = some e) (hname : name ∉ seen) :
    r.nameIsModelBeyond seen name = e.schema.hasOwnClass (r.nameIsModelBeyond (name :: seen)) := by
  have hwithin : r.nameIsModelWithin (r.unseen (name :: seen)).length (r.unseen (name :: seen)) =
      r.nameIsModelBeyond (name :: seen) := rfl
  rw [nameIsModelBeyond, length_unseen hr he hname, nameIsModelWithin, unseen_erase hr, hwithin, he,
    List.contains_iff_mem.mpr (mem_unseen he hname), Bool.true_and]

theorem exists_of_beyond (hr : r.names.Nodup) (h : r.nameIsModelBeyond seen name = true) :
    ∃ e, r.get? name = some e ∧ e.schema.hasOwnClass (r.nameIsModelBeyond (name :: seen)) = true := by
  obtain ⟨e, he⟩ := exists_entry_of_beyond h
  exact ⟨e, he, nameIsModelBeyond_eq hr he (notMem_seen_of_beyond h) ▸ h⟩

theorem nameIsModelBeyond_mono (hr : r.names.Nodup) {seen seen' : List String} (hseen : seen ⊆ seen') (name : String)
    (h : r.nameIsModelBeyond seen' name = true) : r.nameIsModelBeyond seen name = true := by
  obtain ⟨e, he, hown⟩ := exists_of_beyond hr h
  have hname := notMem_seen_of_beyond h
  rw [nameIsModelBeyond_eq hr he fun hmem => hname (hseen hmem)]
  have hlength := length_unseen hr he hname
  apply hasOwnClass_mono _ e.schema hown
  intro name' h'
  exact nameIsModelBeyond_mono hr (List.cons_subset_cons name hseen) name' h'
termination_by (r.unseen seen').length

theorem beyond_eq_false (h : r.get? name = none ∨ name ∈ seen) : r.nameIsModelBeyond seen name = false := by
  rw [Bool.eq_false_iff]
  intro hbeyond
  rcases h with hnone | hmem
  · obtain ⟨e, he⟩ := exists_entry_of_beyond hbeyond
    rw [hnone] at he
    cases he
  · exact notMem_seen_of_beyond hbeyond hmem

theorem Answers.eq_answer (hr : r.names.Nodup) {q : Question} {b : Bool} (h : Answers r seen q b) :
    b = q.answer (r.nameIsModelBeyond seen) := by
  -- Each rule is one equation of the test.
  induction h with
  | model_nullable h => exact (Bool.eq_false_iff.mpr fun hs => by simp [nullable_of_isModel hs] at h).symm
  | model_object h => simp [Question.answer, Schema.isModel, h]
  | model_refused h hname => rw [Question.answer, Schema.isModel, beyond_eq_false hname, Bool.and_false]
  | model_ref h he hname hown ih =>
    rw [Question.answer, Schema.isModel, h, nameIsModelBeyond_eq hr he hname]
    exact ih
  | model_nothing h hmembers => simp [Question.answer, isModel_allOf, hmembers]
  | model_allOf h hmembers hparts ih =>
    rw [Question.answer, isModel_allOf, h, List.isEmpty_eq_false_iff.mpr hmembers]
    exact ih
  | model_single h hs ih =>
    rw [Question.answer, Schema.isModel, h]
    exact ih
  | model_union h hmembers => exact (isModel_union hmembers).symm
  | model_type h hs => exact (isModel_of_isType hs).symm
  | models_nil => rfl
  | models_stop hs ih =>
    rw [Question.answer] at ih
    rw [Question.answer, List.all_cons, ← ih, Bool.false_and]
  | models_go hs hrest ih ihrest =>
    rw [Question.answer] at ih
    rw [Question.answer, List.all_cons, ← ih]
    exact ihrest
  | own_nullable h => exact (Bool.eq_false_iff.mpr fun hs => by simp [nullable_of_hasOwnClass hs] at h).symm
  | own_object h => simp [Question.answer, Schema.hasOwnClass, h]
  | own_ref h => rfl
  | own_nothing h hmembers => simp [Question.answer, Schema.hasOwnClass, haveOwnClass_eq, hmembers]
  | own_member h hmembers hs ih =>
    rw [Question.answer, Schema.hasOwnClass, haveOwnClass_eq, h, hmembers]
    exact ih
  | @own_allOf seen m members b h hmembers hparts ih =>
    rw [Question.answer, Schema.hasOwnClass, haveOwnClass_of_several hmembers, h]
    exact ih
  | own_single h hs ih =>
    rw [Question.answer, Schema.hasOwnClass, h]
    exact ih
  | own_union h hmembers => exact (hasOwnClass_union hmembers).symm
  | own_type h hs => exact (hasOwnClass_of_isType hs).symm

theorem answers_all {members : List Schema} {model : Schema → Bool}
    (h : ∀ s ∈ members, Answers r seen (.isModel s) (model s)) :
    Answers r seen (.areModels members) (members.all model) := by
  induction members with
  | nil => exact .models_nil
  | cons s members ih =>
    have hs := h s List.mem_cons_self
    rw [List.all_cons]
    cases hmodel : model s
    · rw [hmodel] at hs
      exact .models_stop hs
    · rw [hmodel] at hs
      exact .models_go hs (ih fun t ht => h t (List.mem_cons_of_mem _ ht))

section Course

variable {named : String → Bool} (hnamed : ∀ name e, r.get? name = some e → name ∉ seen →
    Answers r (name :: seen) (.hasOwnClass e.schema) (named name))
  (hrefused : ∀ name, r.get? name = none ∨ name ∈ seen → named name = false)

include hnamed hrefused

theorem answers_isModel (s : Schema) : Answers r seen (.isModel s) (s.isModel named) := by
  -- The test looks at the mark first, and nothing nullable is accepted, whatever its shape.
  have hnullable {s : Schema} (h : s.nullable = true) : Answers r seen (.isModel s) (s.isModel named) := by
    rw [Bool.eq_false_iff.mpr fun hs => Bool.false_ne_true ((nullable_of_isModel hs).symm.trans h)]
    exact .model_nullable h
  induction s using Schema.induction with
  | ref m name =>
    cases h : m.nullable
    · rw [Schema.isModel, h, Bool.not_false, Bool.true_and]
      by_cases hname : r.get? name = none ∨ name ∈ seen
      · rw [hrefused name hname]
        exact .model_refused h hname
      · rw [not_or, ← ne_eq, Option.ne_none_iff_exists'] at hname
        obtain ⟨⟨e, he⟩, hname⟩ := hname
        exact .model_ref h he hname (hnamed name e he hname)
    · exact hnullable h
  | object m properties required additional =>
    cases h : m.nullable
    · rw [Schema.isModel, h]
      exact .model_object h
    · exact hnullable h
  | allOf m members ih =>
    cases h : m.nullable
    · rw [isModel_allOf, h, Bool.not_false, Bool.true_and]
      by_cases hmembers : constraining members = []
      · rw [hmembers]
        exact .model_nothing h hmembers
      · rw [List.isEmpty_eq_false_iff.mpr hmembers, Bool.not_false, Bool.true_and]
        apply Answers.model_allOf h hmembers
        have hparts : ∀ s ∈ constraining members, Answers r seen (.isModel s) (s.isModel named) :=
          fun s hs => ih s (mem_constraining.mp hs).1
        exact answers_all hparts
    · exact hnullable h
  | union m kind members ih =>
    cases h : m.nullable
    · by_cases hmembers : members.length = 1
      · obtain ⟨s, rfl⟩ := List.length_eq_one_iff.mp hmembers
        rw [Schema.isModel, h, Bool.not_false, Bool.true_and]
        exact .model_single h (ih s List.mem_cons_self)
      · rw [isModel_union hmembers]
        exact .model_union h hmembers
    · exact hnullable h
  | _ m =>
    cases h : m.nullable
    · exact .model_type h rfl
    · exact hnullable h

theorem answers_hasOwnClass (s : Schema) : Answers r seen (.hasOwnClass s) (s.hasOwnClass named) := by
  have hnullable {s : Schema} (h : s.nullable = true) : Answers r seen (.hasOwnClass s) (s.hasOwnClass named) := by
    rw [Bool.eq_false_iff.mpr fun hs => Bool.false_ne_true ((nullable_of_hasOwnClass hs).symm.trans h)]
    exact .own_nullable h
  induction s using Schema.induction with
  | ref m name =>
    cases h : m.nullable
    · exact .own_ref h
    · exact hnullable h
  | object m properties required additional =>
    cases h : m.nullable
    · rw [Schema.hasOwnClass, h]
      exact .own_object h
    · exact hnullable h
  | allOf m members ih =>
    cases h : m.nullable
    · rw [Schema.hasOwnClass, h, Bool.not_false, Bool.true_and]
      rcases nothing_or_single_or_several (constraining members) with hmembers | ⟨s, hmembers⟩ | hseveral
      · rw [haveOwnClass_eq, hmembers]
        exact .own_nothing h hmembers
      · rw [haveOwnClass_eq, hmembers]
        have hs : s ∈ members := (mem_constraining.mp (hmembers ▸ List.mem_cons_self)).1
        exact .own_member h hmembers (ih s hs)
      · rw [haveOwnClass_of_several hseveral]
        exact .own_allOf h hseveral (answers_all fun s _ => answers_isModel hnamed hrefused s)
    · exact hnullable h
  | union m kind members ih =>
    cases h : m.nullable
    · by_cases hmembers : members.length = 1
      · obtain ⟨s, rfl⟩ := List.length_eq_one_iff.mp hmembers
        rw [Schema.hasOwnClass, h, Bool.not_false, Bool.true_and]
        exact .own_single h (ih s List.mem_cons_self)
      · rw [hasOwnClass_union hmembers]
        exact .own_union h hmembers
    · exact hnullable h
  | _ m =>
    cases h : m.nullable
    · exact .own_type h rfl
    · exact hnullable h

end Course

theorem exists_answer (hr : r.names.Nodup) (seen : List String) (q : Question) :
    Answers r seen q (q.answer (r.nameIsModelBeyond seen)) := by
  -- Each look through a name leaves one name less unseen.
  have hnamed (name : String) (e : NamedSchema) (he : r.get? name = some e) (hname : name ∉ seen) :
      Answers r (name :: seen) (.hasOwnClass e.schema) (r.nameIsModelBeyond seen name) := by
    have hlength := length_unseen hr he hname
    rw [nameIsModelBeyond_eq hr he hname]
    exact exists_answer hr (name :: seen) (.hasOwnClass e.schema)
  have hrefused (name : String) (h : r.get? name = none ∨ name ∈ seen) : r.nameIsModelBeyond seen name = false :=
    beyond_eq_false h
  cases q with
  | isModel s => exact answers_isModel hnamed hrefused s
  | areModels members => exact answers_all fun s _ => answers_isModel hnamed hrefused s
  | hasOwnClass s => exact answers_hasOwnClass hnamed hrefused s
termination_by (r.unseen seen).length

end Registry

end ClientForge
