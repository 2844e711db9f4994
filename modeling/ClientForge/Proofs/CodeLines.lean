import ClientForge.Proofs.FunctionTexts

namespace ClientForge

namespace Token

def IsWhole (code : List Token) : Prop := code = [] ∨ ∃ line, code = endLine line

section Whole

variable {a b line : List Token} {x : String}

theorem isWhole_endLine (line : List Token) : IsWhole (endLine line) := .inr ⟨line, rfl⟩

theorem IsWhole.append (ha : IsWhole a) (hb : IsWhole b) : IsWhole (a ++ b) := by
  rcases hb with rfl | ⟨line, rfl⟩
  · rwa [List.append_nil]
  · exact .inr ⟨a ++ line, (List.append_assoc ..).symm⟩

theorem readsAll_append (gives : Bool) (ha : IsWhole a) (b : List Token) :
    readsAll gives .start (a ++ b) = readsAll gives .start a ++ readsAll gives .start b := by
  rcases ha with rfl | ⟨line, rfl⟩
  · rfl
  · rw [endLine, List.append_assoc, List.singleton_append, readsAll_append_mark (by decide) (by decide),
      readsAll_append_mark (by decide) (by decide), readsAll, List.append_nil]
    rfl

theorem names_append (ha : IsWhole a) (b : List Token) : names (a ++ b) = names a ++ names b :=
  readsAll_append true ha b

theorem names_endLine (line : List Token) : names (endLine line) = names line := by
  rw [names, names, endLine, readsAll_append_mark (by decide) (by decide), readsAll, List.append_nil]

theorem targets_append_mark {place : Position} {c : Char} (hvalue : c ≠ '=') (htype : c ≠ ':') :
    targets place (a ++ .mark c :: b) = targets place a ++ targets (next (.mark c)) b := by
  induction a generalizing place with
  | nil => rfl
  | cons t a ih =>
    rw [List.cons_append]
    cases t with
    | word name => rw [targets, targets, isTarget_append_mark hvalue htype, ih, List.append_assoc]
    | _ => exact ih

theorem targets_append (ha : IsWhole a) (b : List Token) :
    targets .start (a ++ b) = targets .start a ++ targets .start b := by
  rcases ha with rfl | ⟨line, rfl⟩
  · rfl
  · have hline : targets .start (endLine line) = targets .start line ++ [] :=
      targets_append_mark (by decide) (by decide)
    rw [hline, List.append_nil, endLine, List.append_assoc, List.singleton_append,
      targets_append_mark (by decide) (by decide)]
    rfl

variable {pieces : List (List Token)} (h : ∀ piece ∈ pieces, IsWhole piece)

include h

theorem isWhole_flatten : IsWhole pieces.flatten := by
  induction pieces with
  | nil => exact .inl rfl
  | cons piece pieces ih =>
    obtain ⟨hpiece, hpieces⟩ := List.forall_mem_cons.mp h
    exact hpiece.append (ih hpieces)

theorem mem_readsAll_flatten {gives : Bool} :
    x ∈ readsAll gives .start pieces.flatten ↔ ∃ piece ∈ pieces, x ∈ readsAll gives .start piece := by
  induction pieces with
  | nil => simp [readsAll]
  | cons piece pieces ih =>
    obtain ⟨hpiece, hpieces⟩ := List.forall_mem_cons.mp h
    simp [readsAll_append gives hpiece, ih hpieces]

theorem mem_names_flatten : x ∈ names pieces.flatten ↔ ∃ piece ∈ pieces, x ∈ names piece := mem_readsAll_flatten h

theorem mem_targets_flatten : x ∈ targets .start pieces.flatten ↔ ∃ piece ∈ pieces, x ∈ targets .start piece := by
  induction pieces with
  | nil => simp [targets]
  | cons piece pieces ih =>
    obtain ⟨hpiece, hpieces⟩ := List.forall_mem_cons.mp h
    simp [targets_append hpiece, ih hpieces]

end Whole

end Token

open Token

namespace Slot

variable {s : Slot} {x : String}

theorem isWhole_tokens (s : Slot) : IsWhole s.tokens :=
  .inr ⟨.word s.name :: .mark ':' :: (s.type.tokens ++ (missingTokens s.required ++ [.mark ','])), by
    simp [tokens, endLine, endTokens]⟩

theorem names_tokens (s : Slot) (h : x ∈ Token.names s.tokens) : x ∈ s.type.names := by
  have hend : readsAll true .within (missingTokens s.required ++ endTokens) = [] := by
    cases s.required <;> decide
  rw [Token.names, tokens, TypeExpr.readsAll_annotated, hend, List.append_nil] at h
  exact s.type.mem_names_of_tokens h

theorem mem_targets (s : Slot) : s.name ∈ targets .start s.tokens := by
  obtain ⟨first, hfirst⟩ := s.type.head?_tokens
  have htarget : isTarget (.mark ':' :: (s.type.tokens ++ (missingTokens s.required ++ endTokens))) = true := by
    simp [isTarget, hfirst, isMark]
  simp [tokens, targets, htarget]

end Slot

end ClientForge
