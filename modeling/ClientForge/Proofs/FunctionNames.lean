import ClientForge.Proofs.RequestSteps

namespace ClientForge

open Token

namespace OperationDef

variable {o : OperationDef} {url : List Token} {x : String} {P : String → Prop}

section Result

theorem names_itemTokens {name : String} (h : x ∈ names [.word "return", .group '[' [.word name, .mark '.',
    .word "model_validate", .group '(' [.word "item"], .word "for", .word "item", .word "in", .word "response",
    .mark '.', .word "json", .group '(' []]]) : x = "response" ∨ x = name := by
  let rest : List Token := [.mark '.', .word "model_validate", .group '(' [.word "item"], .word "for", .word "item",
    .word "in", .word "response", .mark '.', .word "json", .group '(' []]
  have hbound : "item" ∈ binders false (.word name :: rest) := by
    have hrest (listed : Bool) : "item" ∈ binders listed rest := by cases listed <;> decide
    rw [binders]
    split
    · exact hrest true
    · split
      · exact hrest false
      · exact List.mem_append_right _ (hrest false)
  have hrest : readsAll false .within rest = ["item", "item", "response"] := by decide
  have hlist (inner : List Token) : names [.word "return", .group '[' inner] =
      reads true .within [] (.group '[' inner) ++ [] := rfl
  change x ∈ names [.word "return", .group '[' (.word name :: rest)] at h
  rw [hlist, List.append_nil, reads, List.mem_filter] at h
  obtain ⟨h, hfree⟩ := h
  have hitem : x ≠ "item" := by
    rintro rfl
    simp [hbound] at hfree
  rw [readsAll, List.mem_append] at h
  rcases h with h | h
  · exact .inr (mem_reads_word h).1
  · change x ∈ readsAll false .within rest at h
    rw [hrest] at h
    exact .inl (by simpa [hitem] using h)

inductive Makes (r : ResponseDef) : String → Prop
  | model : r.kind = .model ∨ r.kind = .list → Makes r (r.model.getD "None")
  | adapter : r.kind = .adapter → Makes r (r.adapter.getD "None")

theorem names_resultTokens {r : ResponseDef} (h : x ∈ names (resultTokens r)) : x = "response" ∨ Makes r x := by
  let read : Token := .group '(' [.word "response", .mark '.', .word "json", .group '(' []]
  cases hkind : r.kind with
  | model =>
    have hnames (name : String) : names [.word "return", .word name, .mark '.', .word "model_validate", read] =
        reads true .within [.mark '.', .word "model_validate", read] (.word name) ++ ["response"] := rfl
    simp only [resultTokens, hkind] at h
    rw [hnames, List.mem_append, List.mem_singleton] at h
    rcases h with h | h
    · exact .inr ((mem_reads_word h).1 ▸ .model (.inl hkind))
    · exact .inl h
  | list =>
    simp only [resultTokens, hkind] at h
    rcases names_itemTokens h with h | h
    · exact .inl h
    · exact .inr (h ▸ .model (.inr hkind))
  | adapter =>
    have hnames (name : String) : names [.word "return", .word name, .mark '.', .word "validate_python", read] =
        reads true .within [.mark '.', .word "validate_python", read] (.word name) ++ ["response"] := rfl
    simp only [resultTokens, hkind] at h
    rw [hnames, List.mem_append, List.mem_singleton] at h
    rcases h with h | h
    · exact .inr ((mem_reads_word h).1 ▸ .adapter hkind)
    · exact .inl h
  | none =>
    rw [resultTokens, hkind] at h
    cases h

theorem names_lastTokens (h : x ∈ names o.lastTokens) : x = "response" ∨ Makes o.response x := by
  have hraise : names raiseTokens = ["response"] := by decide
  unfold lastTokens at h
  split at h
  · exact .inl (List.mem_singleton.mp (hraise ▸ h))
  · rw [names_append (isWhole_endLine _), names_endLine, hraise] at h
    rcases List.mem_append.mp h with h | h
    · exact .inl (List.mem_singleton.mp h)
    · exact names_resultTokens h

end Result

/-- The names that a function needs from around itself. -/
inductive Mentions (o : OperationDef) : String → Prop
  | name : Mentions o o.name
  | slot {s : Slot} {x : String} : s ∈ o.positional ++ o.keywords → x ∈ s.type.names → Mentions o x
  | result {x : String} : x ∈ o.response.type.names → Mentions o x
  | fixed {x : String} : x ∈ ["dict", "str", "httpx", "sdk_config"] → Mentions o x
  | conversion : o.Converts → Mentions o "to_jsonable_python"
  | maker {x : String} : Makes o.response x → Mentions o x

theorem tokens_eq (o : OperationDef) (url : List Token) : o.tokens url =
    o.headTokens ++ .mark ':' :: .mark '\n' :: o.bodyTokens url := by
  simp [tokens, signatureTokens, headTokens, colonTokens]

theorem not_colon_of_mem_type : ∀ (t : TypeExpr) {token : Token}, token ∈ t.tokens → token.isMark ':' = false := by
  intro t token h
  cases t <;> simp only [TypeExpr.tokens, List.mem_cons, List.not_mem_nil, or_false] at h <;>
    rcases h with rfl | rfl <;> rfl

theorem mentions_of_mem_functionNames (hurl : ∀ x ∈ readsAll true .within url, ∃ p ∈ o.pathParams, x = p.name)
    (h : x ∈ functionNames (o.tokens url)) : o.Mentions x := by
  have hhead : ∀ token ∈ o.headTokens, (!token.isMark ':') = true := by
    intro token htoken
    rcases List.mem_append.mp htoken with htoken | htoken
    · simp only [List.mem_cons, List.not_mem_nil, or_false] at htoken
      rcases htoken with rfl | rfl | rfl | rfl | rfl <;> rfl
    · rw [not_colon_of_mem_type _ htoken]
      rfl
  have hcolon (rest : List Token) : (.mark ':' :: rest).takeWhile (!isMark ':' ·) = [] ∧
      (.mark ':' :: rest).dropWhile (!isMark ':' ·) = .mark ':' :: rest := ⟨rfl, rfl⟩
  rw [tokens_eq, functionNames, List.takeWhile_append_of_pos hhead, List.dropWhile_append_of_pos hhead, (hcolon _).1,
    (hcolon _).2, List.append_nil] at h
  rcases List.mem_append.mp h with h | h
  · rcases names_headTokens h with rfl | ⟨s, hs, h⟩ | h
    · exact .name
    · exact .slot hs h
    · exact .result h
  · obtain ⟨h, hfree⟩ := List.mem_filter.mp h
    have hbody (rest : List Token) : names (.mark ':' :: .mark '\n' :: rest) = names rest := rfl
    have hlocal : ¬o.IsLocal x := by
      intro hlocal
      have htargets (rest : List Token) : targets .start (.mark ':' :: .mark '\n' :: rest) = targets .start rest := rfl
      rw [htargets, bodyTokens, targets_append (o.isWhole_stepTokens url)] at hfree
      rcases mem_targets_of_isLocal url hlocal with hx | hx
      · simp [headTokens, hx] at hfree
      · simp [hx] at hfree
    rw [hbody, bodyTokens, names_append (o.isWhole_stepTokens url), List.mem_append] at h
    rcases h with h | h
    · rcases names_stepTokens hurl h with h | h | ⟨rfl, hconverts⟩
      · exact absurd h hlocal
      · exact .fixed h
      · exact .conversion hconverts
    · rcases names_lastTokens h with rfl | h
      · exact absurd .response hlocal
      · exact .maker h

end OperationDef

namespace Route

theorem names_urlTokens {path : String} {argument : String → String} {gives : Bool} {place : Position} {x : String}
    (h : x ∈ readsAll gives place (urlTokens path argument)) : ∃ name ∈ placeholders path, x = argument name := by
  have hfields (pieces : List TemplatePiece) {place : Position}
      (h : x ∈ readsAll gives place (pieces.flatMap (fieldTokens argument) ++ [.literal])) :
      ∃ text, .placeholder text ∈ pieces ∧ x = argument (.ofList text) := by
    induction pieces generalizing place with
    | nil => cases h
    | cons piece pieces ih =>
      cases piece with
      | plain text =>
        obtain ⟨text, htext, hx⟩ := ih h
        exact ⟨text, List.mem_cons_of_mem _ htext, hx⟩
      | placeholder text =>
        rw [List.flatMap_cons, fieldTokens, List.append_assoc, List.singleton_append, readsAll, List.mem_append] at h
        rcases h with h | h
        · have h := mem_reads_group h
          split at h
          · cases h
          · rw [readsAll, readsAll, List.append_nil] at h
            exact ⟨text, List.mem_cons_self, (mem_reads_word h).1⟩
        · obtain ⟨text, htext, hx⟩ := ih h
          exact ⟨text, List.mem_cons_of_mem _ htext, hx⟩
  obtain ⟨text, htext, hx⟩ := hfields _ h
  exact ⟨.ofList text, placeholder_mem_iff.mpr (by rwa [String.toList_ofList]), hx⟩

end Route

end ClientForge
