import ClientForge.Proofs.Failures
import ClientForge.Proofs.ReferenceChecks
import ClientForge.Proofs.TypeNames

/-!
The references of a schema and those of its type. They are collected on two ways, one past all that makes no
difference to the type, and yet they are the same in the same order.
-/

namespace ClientForge

open Outcome

namespace Schema

variable {r : Registry} {s : Schema} {hint : String} {top : Bool} {m : Marks} {members schemas : List Schema}
  {c : Compiled} {parts : List Compiled}

section Agreement

theorem enumValues_subset {t : Schema} (h : Within t s) : t.enumValues ⊆ s.enumValues := by
  induction h with
  | self => exact List.Subset.refl _
  | part hu _ ih => exact List.Subset.trans ih (enumValues_component hu)

def IsDescribed (s : Schema) : Prop := ∀ t, Within t s → ∀ d, t.marks.description ≠ .unchecked d

theorem isDescribed_of_components (hs : ∀ d, s.marks.description ≠ .unchecked d)
    (h : ∀ t ∈ s.components, t.IsDescribed) : s.IsDescribed := by
  intro t ht
  cases ht with
  | self => exact hs
  | part hu ht => exact h _ hu t ht

theorem isDescribed_of_absent (hs : s.marks.description = .absent) (h : ∀ t ∈ s.components, t.IsDescribed) :
    s.IsDescribed := by
  refine isDescribed_of_components (fun d hd => ?_) h
  rw [hs] at hd
  cases hd

structure Agrees (r : Registry) (s : Schema) (outcome : Except Failure Compiled) : Prop where
  refs : ∀ c, outcome = .ok c → c.refs = s.references
  runtime : ∀ c, outcome = .ok c → c.runtimeRefs ⊆ c.refs
  found : ∀ c, outcome = .ok c → ∀ name ∈ s.references, r.get? name ≠ none
  missing : ∀ name, outcome = .error (.reference name) → name ∈ s.references ∧ r.get? name = none
  failed : ∀ f, outcome = .error f → (∃ name, f = .reference name) ∨
    f = .malformed .tooManyDigits ∧ ∃ v ∈ s.enumValues, v.isWritable = false

theorem compileAt_agrees (hs : s.IsDescribed) : Agrees r s (compileAt r s hint top) where
  refs _ h := (gathers_of_compileAt h).refs
  runtime _ h := (gathers_of_compileAt h).runtime
  found c h name hname hnone := by
    have hsome := resolved_of_compileAt h name (List.mem_eraseDups.mp hname)
    rw [hnone] at hsome
    cases hsome
  missing name h := by
    obtain ⟨t, hin, hspoils⟩ := compileAt_spoiled s hint top _ h
    cases hspoils with
    | missing hnone => exact ⟨List.mem_eraseDups.mpr (mentioned_subset hin (List.mem_singleton_self _)), hnone⟩
  failed f h := by
    obtain ⟨t, hin, hspoils⟩ := compileAt_spoiled s hint top _ h
    cases hspoils with
    | missing => exact .inl ⟨_, rfl⟩
    | digits hv hdigits => exact .inr ⟨rfl, _, enumValues_subset hin hv, hdigits⟩
    | doc hdoc => exact absurd hdoc (hs t hin _)

theorem Agrees.reference_iff {outcome : Except Failure Compiled} (h : Agrees r s outcome)
    (hvalues : ∀ v ∈ s.enumValues, v.isWritable = true) :
    (∃ name, outcome = .error (.reference name)) ↔ ∃ name ∈ s.references, r.get? name = none := by
  constructor
  · rintro ⟨name, hname⟩
    exact ⟨name, h.missing name hname⟩
  · rintro ⟨name, hname, hnone⟩
    cases houtcome : outcome with
    | ok c => exact absurd hnone (h.found c houtcome name hname)
    | error f =>
      obtain ⟨name', rfl⟩ | ⟨-, v, hv, hdigits⟩ := h.failed f houtcome
      · exact ⟨name', rfl⟩
      · cases (hvalues v hv).symm.trans hdigits

/-- A type is made of a schema unless it refers to one that is not there or holds a number with too many digits. It
brings the references of the schema, and where no such number stands in the way each missing one is noticed. -/
theorem compile_agrees (r : Registry) (hint : String) (hs : s.IsDescribed) : Agrees r s (s.compile r hint) ∧
    ((∀ v ∈ s.enumValues, v.isWritable = true) →
      ((∃ name, s.compile r hint = .error (.reference name)) ↔ ∃ name ∈ s.references, r.get? name = none)) :=
  ⟨compileAt_agrees hs, fun hvalues => (compileAt_agrees hs).reference_iff hvalues⟩

theorem compile_agrees_repeated :
    let plain : Marks := ⟨false, .absent⟩
    let cat : NamedSchema := ⟨"Cat", "Cat", "cat", .primitive plain .string none⟩
    let dog : NamedSchema := ⟨"Dog", "Dog", "dog", .primitive plain .string none⟩
    let s : Schema := .allOf plain [.ref plain "Dog", .untyped plain,
      .union plain .oneOf [.ref plain "Cat", .array plain (.ref plain "Dog")]]
    Registry.ofDocument (.map [(.text "Cat", .map [(.text "type", .text "string")]),
        (.text "Dog", .map [(.text "type", .text "string")])]) = .ok ⟨[cat, dog]⟩ ∧
      s.IsDescribed ∧ Agrees ⟨[cat, dog]⟩ s (s.compile ⟨[cat, dog]⟩ "Pet") ∧
      (∃ c, s.compile ⟨[cat, dog]⟩ "Pet" = .ok c ∧ c.refs = ["Dog", "Cat"]) ∧
      ∃ name, s.compile ⟨[cat]⟩ "Pet" = .error (.reference name) := by
  intro plain cat dog s
  have hleaf {t : Schema} (ht : t.components = []) (hm : t.marks = plain) : t.IsDescribed :=
    isDescribed_of_components (by rw [hm]; nofun) (by rw [ht]; nofun)
  have hitem : (Schema.array plain (.ref plain "Dog")).IsDescribed :=
    isDescribed_of_components nofun (List.forall_mem_singleton.mpr (hleaf rfl rfl))
  have hunion : (Schema.union plain .oneOf [.ref plain "Cat", .array plain (.ref plain "Dog")]).IsDescribed :=
    isDescribed_of_components nofun (List.forall_mem_cons.mpr ⟨hleaf rfl rfl, List.forall_mem_singleton.mpr hitem⟩)
  have hdescribed : s.IsDescribed :=
    isDescribed_of_components nofun (List.forall_mem_cons.mpr ⟨hleaf rfl rfl,
      List.forall_mem_cons.mpr ⟨hleaf rfl rfl, List.forall_mem_singleton.mpr hunion⟩⟩)
  have hvalues : ∀ v ∈ s.enumValues, v.isWritable = true := by
    intro v hv
    cases hv
  obtain ⟨hagrees, -⟩ := compile_agrees ⟨[cat, dog]⟩ "Pet" hdescribed
  obtain ⟨c, hc⟩ := exists_of_isOk (x := s.compile ⟨[cat, dog]⟩ "Pet") (by decide +kernel)
  refine ⟨by rfl, hdescribed, hagrees, ⟨c, hc, ?_⟩, ?_⟩
  · rw [hagrees.refs c hc]
    decide +kernel
  · exact ((compile_agrees ⟨[cat]⟩ "Pet" hdescribed).2 hvalues).mpr ⟨"Dog", by decide +kernel, by rfl⟩

theorem digits_before_reference :
    let plain : Marks := ⟨false, .absent⟩
    let s : Schema := .allOf plain [.enum plain [.int (10 ^ 4300)], .ref plain "Missing"]
    Registry.ofDocument .null = .ok .empty ∧ s.IsDescribed ∧ "Missing" ∈ s.references ∧
      Registry.empty.get? "Missing" = none ∧ ∀ name, s.compile .empty "Pet" ≠ .error (.reference name) := by
  intro plain s
  have hdigits : [(Document.int (10 ^ 4300))].all Document.isWritable = false := by decide +kernel
  have henum (hint : String) (top : Bool) : compileAt .empty (.enum plain [.int (10 ^ 4300)]) hint top =
      .error (.malformed .tooManyDigits) := by
    rw [compileAt, compileEnum, hdigits]
    rfl
  have hcounts : (!(Schema.enum plain [.int (10 ^ 4300)]).isUntyped) = true := rfl
  have hfails : s.compile .empty "Pet" = .error (.malformed .tooManyDigits) := by
    rw [compile, compileAt, compileMembers, if_pos hcounts, henum]
    rfl
  have hdescribed : s.IsDescribed := by
    refine isDescribed_of_absent rfl (List.forall_mem_cons.mpr ⟨?_, List.forall_mem_singleton.mpr ?_⟩) <;>
      exact isDescribed_of_absent rfl (List.forall_mem_nil _)
  exact ⟨by rfl, hdescribed, by decide +kernel, by rfl, fun name h => by cases hfails.symm.trans h⟩

end Agreement

end Schema

end ClientForge
