import ClientForge.Code.Printing
import ClientForge.Proofs.ClassNames
import ClientForge.Proofs.CodeNames
import ClientForge.Proofs.Literals

namespace ClientForge

open CodeReader Token

theorem Reads.enclosed {a : String} {ta : List Token} (h : Reads a ta) (start stop : String) (inner : List Token)
    (brackets : List OpenBracket → List Token → List OpenBracket) (tokens : List Token → List Token)
    (hstart : ∀ b d, (between b d).read start.toList = between (brackets b d) inner.reverse)
    (hstop : ∀ b d i, (between (brackets b d) i).read stop.toList = between b ((tokens i.reverse).reverse ++ d))
    (hapart : Apart stop) : Closed (start ++ a ++ stop) (tokens (inner ++ ta)) := by
  intro b d
  rw [String.append_assoc, String.toList_append, CodeReader.read_append, hstart, h.read_append hapart, hstop,
    List.reverse_append, List.reverse_reverse, List.reverse_reverse]

theorem Reads.call {a : String} {ta : List Token} (h : Reads a ta) (start : String) (before inner : List Token)
    (hstart : ∀ b d, (between b d).read start.toList = between (⟨'(', before.reverse ++ d, none⟩ :: b) inner.reverse) :
    Closed (start ++ a ++ ")") (before ++ [.group '(' (inner ++ ta)]) := by
  refine h.enclosed start ")" inner (fun b d => ⟨'(', before.reverse ++ d, none⟩ :: b)
    (fun i => before ++ [.group '(' i]) hstart (fun b d i => ?_) rfl
  rw [List.reverse_append, List.append_assoc]
  rfl

theorem reads_joined {α : Type} {l : List α} {text : α → String} {tokens : α → List Token}
    (h : ∀ x ∈ l, Reads (text x) (tokens x)) : Reads (", ".intercalate (l.map text)) (joined (l.map tokens)) := by
  have hcomma : Closed ", " [.mark ','] := fun _ _ => by rfl
  induction l with
  | nil => exact closed_empty.reads
  | cons x l ih =>
    obtain ⟨hx, hl⟩ := List.forall_mem_cons.mp h
    cases l with
    | nil => simpa [joined] using hx
    | cons y l =>
      simp only [List.map_cons, joined, String.intercalate_cons_cons, List.intercalate_cons_cons]
      exact (hx.append_closed hcomma rfl).append_reads (ih hl)

theorem isWord_toString (n : ℕ) : Naming.IsWord (toString n) :=
  ⟨fun h => Naming.toString_ne_nil n (by rw [h]; rfl), fun _ => Naming.isWordChar_of_mem_toString⟩

namespace Document

def IsPlain : Document → Prop
  | .scalar .null => True
  | .scalar (.bool _) => True
  | .scalar (.int _) => True
  | .scalar (.text _) => True
  | _ => False

def literalTokens : Document → List Token
  | .scalar .null => [.word "None"]
  | .scalar (.bool b) => [.word (if b then "True" else "False")]
  | .scalar (.int n) => (if n < 0 then [.mark '-'] else []) ++ [.word (toString n.natAbs)]
  | _ => [.literal]

theorem reads_codeLiteral {d : Document} (h : d.IsPlain) : Reads d.codeLiteral d.literalTokens := by
  match d with
  | .scalar .null => exact reads_word (by decide)
  | .scalar (.bool b) => cases b <;> exact reads_word (by decide)
  | .scalar (.int n) =>
    have hminus : Closed "-" [.mark '-'] := fun _ _ => by rfl
    cases n with
    | ofNat n => exact reads_word (isWord_toString n)
    | negSucc n =>
      have htokens : literalTokens (.scalar (.int (.negSucc n))) = [.mark '-', .word (toString (n + 1))] := by
        rw [literalTokens, if_pos (Int.negSucc_lt_zero n)]
        rfl
      rw [htokens]
      exact hminus.append_reads (reads_word (isWord_toString (n + 1)))
  | .scalar (.text s) => exact reads_quoted s

theorem isName_toString (n : ℕ) : isName (toString n) = false := by
  obtain ⟨c, rest, hc⟩ := List.exists_cons_of_ne_nil (Naming.toString_ne_nil n)
  have hdigit := Naming.isDigit_of_mem_toString (hc ▸ List.mem_cons_self)
  rw [isName, hc, List.head?_cons, Option.any_some, hdigit, Bool.not_true, Bool.and_false]

theorem readsAll_literalTokens {d : Document} (gives : Bool) : readsAll gives .start d.literalTokens = [] := by
  unfold literalTokens
  split
  · cases gives <;> rfl
  · rename_i b
    cases b <;> cases gives <;> rfl
  · rename_i n
    have hnumber : reads gives .start [] (.word (toString n.natAbs)) = [] ∧
        reads gives .within [] (.word (toString n.natAbs)) = [] := by
      rw [reads, reads, isName_toString]
      exact ⟨rfl, rfl⟩
    split
    · exact (List.append_nil _).trans hnumber.2
    · exact (List.append_nil _).trans hnumber.1
  · rfl

end Document

namespace TypeExpr

def checkTokens (inner : List Token) : List Token :=
  [.word "BeforeValidator", .group '(' [.word "lambda", .word "value", .mark ':',
    .group '(' [.word "TypeAdapter", .group '(' inner, .mark '.', .word "validate_python",
      .group '(' [.word "value"], .mark ',', .word "value"], .group '[' [.word "1"]]]

mutual

def tokens : TypeExpr → List Token
  | .named name => [.word name]
  | .list item => [.word "list", .group '[' (tokens item)]
  | .dict value => [.word "dict", .group '[' (.word "str" :: .mark ',' :: tokens value)]
  | .literal values => [.word "Literal", .group '[' (joined (values.map Document.literalTokens))]
  | .optional inner => [.word "Optional", .group '[' (tokens inner)]
  | .union members => [.word "Union", .group '[' (joined (tokenLists members))]
  | .checked first others =>
    [.word "Annotated", .group '[' (tokens first ++ .mark ',' :: joined ((tokenLists others).map checkTokens))]

def tokenLists : List TypeExpr → List (List Token)
  | [] => []
  | t :: rest => tokens t :: tokenLists rest

end

mutual

def names : TypeExpr → List String
  | .named name => [name]
  | .list item => "list" :: names item
  | .dict value => "dict" :: "str" :: names value
  | .literal _ => ["Literal"]
  | .optional inner => "Optional" :: names inner
  | .union members => "Union" :: allNames members
  | .checked first others =>
    ["Annotated", "BeforeValidator", "TypeAdapter"] ++ names first ++ allNames others

def allNames : List TypeExpr → List String
  | [] => []
  | t :: rest => names t ++ allNames rest

end

mutual

def IsReadable : TypeExpr → Prop
  | .named name => Naming.IsWord name
  | .list item => IsReadable item
  | .dict value => IsReadable value
  | .literal values => ∀ d ∈ values, d.IsPlain
  | .optional inner => IsReadable inner
  | .union members => AreReadable members
  | .checked first others => IsReadable first ∧ AreReadable others

def AreReadable : List TypeExpr → Prop
  | [] => True
  | t :: rest => IsReadable t ∧ AreReadable rest

end

theorem texts_eq (types : List TypeExpr) : texts types = types.map text := by
  induction types with
  | nil => rfl
  | cons t types ih => rw [texts, ih, List.map_cons]

theorem tokenLists_eq (types : List TypeExpr) : tokenLists types = types.map tokens := by
  induction types with
  | nil => rfl
  | cons t types ih => rw [tokenLists, ih, List.map_cons]

theorem areReadable_iff {types : List TypeExpr} : AreReadable types ↔ ∀ t ∈ types, t.IsReadable := by
  induction types with
  | nil => simp [AreReadable]
  | cons t types ih => rw [AreReadable, ih, List.forall_mem_cons]

theorem mem_allNames {types : List TypeExpr} {x : String} : x ∈ allNames types ↔ ∃ t ∈ types, x ∈ t.names := by
  induction types with
  | nil => simp [allNames]
  | cons t types ih => simp [allNames, ih]

theorem closed_check {a : String} {ta : List Token} (h : Reads a ta) : Closed
    ("BeforeValidator(lambda value: (TypeAdapter(" ++ a ++ ").validate_python(value), value)[1])") (checkTokens ta) :=
  h.enclosed _ _ [] (fun b d =>
      ⟨'(', [.word "TypeAdapter"], none⟩ :: ⟨'(', [.mark ':', .word "value", .word "lambda"], none⟩
        :: ⟨'(', .word "BeforeValidator" :: d, none⟩ :: b)
    checkTokens (fun _ _ => by rfl) (fun _ _ _ => by rfl) rfl

theorem checkTexts_eq (types : List TypeExpr) : checkTexts types = types.map fun t =>
    "BeforeValidator(lambda value: (TypeAdapter(" ++ t.text ++ ").validate_python(value), value)[1])" := by
  induction types with
  | nil => rfl
  | cons t types ih => rw [checkTexts, ih, List.map_cons]

theorem closed_generic {a : String} {ta : List Token} (h : Reads a ta) (start : String) (word : String)
    (inner : List Token)
    (hstart : ∀ b d, (between b d).read start.toList = between (⟨'[', .word word :: d, none⟩ :: b) inner.reverse) :
    Closed (start ++ a ++ "]") [.word word, .group '[' (inner ++ ta)] :=
  h.enclosed start "]" inner _ (fun i => [.word word, .group '[' i]) hstart (fun _ _ _ => by rfl) rfl

mutual

theorem reads_text : ∀ t : TypeExpr, t.IsReadable → Reads t.text t.tokens
  | .named name, h => reads_word h
  | .list item, h => (closed_generic (reads_text item h) "list[" "list" [] fun _ _ => by rfl).reads
  | .dict value, h =>
    (closed_generic (reads_text value h) "dict[str, " "dict" [.word "str", .mark ','] fun _ _ => by rfl).reads
  | .literal values, h =>
    have hvalues := reads_joined fun d hd => Document.reads_codeLiteral (h d hd)
    (closed_generic hvalues "Literal[" "Literal" [] fun _ _ => by rfl).reads
  | .optional inner, h => (closed_generic (reads_text inner h) "Optional[" "Optional" [] fun _ _ => by rfl).reads
  | .union members, h => by
    rw [text, texts_eq, tokens, tokenLists_eq]
    exact (closed_generic (reads_joined (reads_texts members h)) "Union[" "Union" [] fun _ _ => by rfl).reads
  | .checked first others, h => by
    have hcomma : Closed ", " [.mark ','] := fun _ _ => by rfl
    have hchecks := reads_joined fun t ht => (closed_check (reads_texts others h.2 t ht)).reads
    have hinner := ((reads_text first h.1).append_closed hcomma rfl).append_reads hchecks
    have hclosed := closed_generic hinner "Annotated[" "Annotated" [] fun _ _ => by rfl
    rw [text, checkTexts_eq, tokens, tokenLists_eq, List.map_map]
    simpa only [String.append_assoc, List.append_assoc, List.nil_append, List.singleton_append, Function.comp_def]
      using hclosed.reads

theorem reads_texts : ∀ types : List TypeExpr, AreReadable types → ∀ t ∈ types, Reads t.text t.tokens
  | [], _, t, ht => by cases ht
  | u :: types, h, t, ht => by
    rcases List.mem_cons.mp ht with heq | ht
    · exact heq ▸ reads_text u h.1
    · exact reads_texts types h.2 t ht

end

theorem mem_reads_generic {gives : Bool} {place : Position} {word x : String} {inner : List Token}
    (h : x ∈ readsAll gives place [.word word, .group '[' inner]) : x = word ∨ x ∈ readsAll false .start inner := by
  rw [readsAll, readsAll, readsAll, List.append_nil, List.mem_append] at h
  exact h.imp (fun h => (mem_reads_word h).1) mem_reads_group

theorem mem_reads_check {gives : Bool} {place : Position} {x : String} {inner : List Token}
    (h : x ∈ readsAll gives place (checkTokens inner)) :
    x = "BeforeValidator" ∨ x = "TypeAdapter" ∨ x ∈ readsAll true .start inner := by
  rw [checkTokens, readsAll, readsAll, readsAll, List.append_nil, List.mem_append] at h
  refine h.imp (fun h => (mem_reads_word h).1) fun h => ?_
  have hbound : binders false [.word "lambda", .word "value", .mark ':',
      .group '(' [.word "TypeAdapter", .group '(' inner, .mark '.', .word "validate_python",
        .group '(' [.word "value"], .mark ',', .word "value"], .group '[' [.word "1"]] = ["value"] := rfl
  have hconstant : isName "lambda" = false ∧ isName "1" = false := by decide
  rw [reads, List.mem_filter, hbound] at h
  obtain ⟨h, hfree⟩ := h
  have hvalue : x ≠ "value" := by simpa using hfree
  have hnone {g : Bool} {p : Position} {b : List Token} : x ∉ reads g p b (.group '(' [.word "value"]) := by
    intro h
    have h := mem_reads_group h
    rw [readsAll, readsAll, List.append_nil] at h
    exact hvalue (mem_reads_word h).1
  simp only [readsAll, List.append_nil, List.mem_append] at h
  rcases h with h | h | h | h | h
  · exact absurd (mem_reads_word h).2 (by simp [hconstant])
  · exact absurd (mem_reads_word h).1 hvalue
  · cases h
  · have h := mem_reads_group h
    simp only [readsAll, List.append_nil, List.mem_append] at h
    rcases h with h | h | h | h | h | h | h
    · exact .inl (mem_reads_word h).1
    · exact .inr (mem_reads_group h)
    · cases h
    · simp [reads, next] at h
    · exact absurd h hnone
    · cases h
    · exact absurd (mem_reads_word h).1 hvalue
  · have h := mem_reads_group h
    simp only [readsAll, List.append_nil] at h
    exact absurd (mem_reads_word h).2 (by simp [hconstant])

mutual

theorem mem_names_of_tokens : ∀ (t : TypeExpr) {gives : Bool} {place : Position} {x : String},
    x ∈ readsAll gives place t.tokens → x ∈ t.names
  | .named name, _, _, x, h => by
    rw [tokens, readsAll, readsAll, List.append_nil] at h
    exact List.mem_singleton.mpr (mem_reads_word h).1
  | .list item, _, _, x, h => (mem_reads_generic h).elim (· ▸ List.mem_cons_self)
      fun h => List.mem_cons_of_mem _ (mem_names_of_tokens item h)
  | .dict value, _, _, x, h => by
    rcases mem_reads_generic h with rfl | h
    · exact List.mem_cons_self
    · rw [← List.singleton_append, readsAll_append_mark (by decide) (by decide), List.mem_append] at h
      rcases h with h | h
      · rw [readsAll, readsAll, List.append_nil] at h
        rw [(mem_reads_word h).1]
        exact List.mem_cons_of_mem _ List.mem_cons_self
      · exact List.mem_cons_of_mem _ (List.mem_cons_of_mem _ (mem_names_of_tokens value h))
  | .literal values, _, _, x, h => by
    rcases mem_reads_generic h with rfl | h
    · exact List.mem_cons_self
    · obtain ⟨item, hitem, h⟩ := mem_readsAll_joined h
      obtain ⟨d, -, rfl⟩ := List.mem_map.mp hitem
      rw [Document.readsAll_literalTokens] at h
      cases h
  | .optional inner, _, _, x, h => (mem_reads_generic h).elim (· ▸ List.mem_cons_self)
      fun h => List.mem_cons_of_mem _ (mem_names_of_tokens inner h)
  | .union members, _, _, x, h => by
    rcases mem_reads_generic h with rfl | h
    · exact List.mem_cons_self
    · obtain ⟨item, hitem, h⟩ := mem_readsAll_joined h
      exact List.mem_cons_of_mem _ (mem_allNames_of_tokens members hitem h)
  | .checked first others, _, _, x, h => by
    rcases mem_reads_generic h with rfl | h
    · exact List.mem_cons_self
    · rw [names, List.mem_append, List.mem_append]
      rw [readsAll_append_mark (by decide) (by decide), List.mem_append] at h
      rcases h with h | h
      · exact .inl (.inr (mem_names_of_tokens first h))
      · obtain ⟨item, hitem, h⟩ := mem_readsAll_joined h
        obtain ⟨inner, hinner, rfl⟩ := List.mem_map.mp hitem
        rcases mem_reads_check h with rfl | rfl | h
        · exact .inl (.inl (by decide))
        · exact .inl (.inl (by decide))
        · exact .inr (mem_allNames_of_tokens others hinner h)

theorem mem_allNames_of_tokens : ∀ (types : List TypeExpr) {gives : Bool} {place : Position} {x : String}
    {item : List Token}, item ∈ tokenLists types → x ∈ readsAll gives place item → x ∈ allNames types
  | [], _, _, _, _, hitem, _ => by cases hitem
  | t :: types, _, _, x, item, hitem, h => by
    rw [allNames, List.mem_append]
    rcases List.mem_cons.mp hitem with rfl | hitem
    · exact .inl (mem_names_of_tokens t h)
    · exact .inr (mem_allNames_of_tokens types hitem h)

end

theorem head?_tokens (t : TypeExpr) : ∃ name, t.tokens.head? = some (.word name) := by
  cases t <;> exact ⟨_, rfl⟩

theorem readsAll_tokens_append (t : TypeExpr) (gives : Bool) (b : List Token) :
    readsAll gives .within (t.tokens ++ b) = readsAll gives .within t.tokens ++ readsAll gives .within b := by
  cases t <;> simp [tokens, readsAll, reads, next]

theorem readsAll_annotated (name : String) (t : TypeExpr) (b : List Token) :
    readsAll true .start (.word name :: .mark ':' :: (t.tokens ++ b)) =
      readsAll true .within t.tokens ++ readsAll true .within b := by
  obtain ⟨first, hfirst⟩ := t.head?_tokens
  have htarget : isTarget (.mark ':' :: (t.tokens ++ b)) = true := by simp [isTarget, hfirst, isMark]
  have hcolon : next (.mark ':') = .within := rfl
  rw [readsAll, readsAll, hcolon, readsAll_tokens_append, reads, htarget, if_neg (by simp)]
  rfl

end TypeExpr

end ClientForge
