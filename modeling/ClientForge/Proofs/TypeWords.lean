import ClientForge.Proofs.TypeTexts

namespace ClientForge

def offsetWords (minutes : Int) : List String :=
  if minutes = 0 then ["datetime", "timezone", "utc"]
  else ["datetime", "timezone", "datetime", "timedelta"] ++ (if Int.fdiv minutes 1440 = 0 then [] else ["days"])
    ++ if Int.fmod minutes 1440 = 0 then [] else ["seconds"]

def Scalar.words : Scalar → List String
  | .real .nan => ["nan"]
  | .real (.infinite _) => ["inf"]
  | .date _ => ["datetime", "date"]
  | .moment m => ["datetime", "datetime"] ++ match m.offset with
    | none => []
    | some o => "tzinfo" :: offsetWords o
  | _ => []

namespace Document

mutual

def wordsWithin (met : List Nat) : Document → List String
  | .scalar s => s.words
  | .list items => itemWords met items
  | .map entries => entryWords met entries
  | .set [] => ["set"]
  | .set members => members.flatMap Scalar.words
  | .pair a b => wordsWithin met a ++ wordsWithin met b
  | .knot label whole => if label ∈ met then [] else wordsWithin (label :: met) whole
  | .again _ => []

def itemWords (met : List Nat) : List Document → List String
  | [] => []
  | d :: rest => wordsWithin met d ++ itemWords met rest

def entryWords (met : List Nat) : List (Scalar × Document) → List String
  | [] => []
  | (k, d) :: rest => k.words ++ wordsWithin met d ++ entryWords met rest

end

end Document

namespace TypeExpr

mutual

def asides : TypeExpr → List String
  | .named _ => []
  | .list item => asides item
  | .dict value => asides value
  | .literal values => Document.itemWords [] values
  | .optional inner => asides inner
  | .union members => allAsides members
  | .checked first others => ["value", "validate_python"] ++ asides first ++ allAsides others

def allAsides : List TypeExpr → List String
  | [] => []
  | t :: rest => asides t ++ allAsides rest

end

end TypeExpr

namespace Token

mutual

def words : Token → List String
  | .word name => [name]
  | .group _ inner => allWords inner
  | _ => []

def allWords : List Token → List String
  | [] => []
  | t :: rest => words t ++ allWords rest

end

variable {x : String}

theorem allWords_append (a b : List Token) : allWords (a ++ b) = allWords a ++ allWords b := by
  induction a with
  | nil => rfl
  | cons t a ih => rw [List.cons_append, allWords, allWords, ih, List.append_assoc]

theorem mem_allWords_joined {items : List (List Token)} (h : x ∈ allWords (joined items)) :
    ∃ item ∈ items, x ∈ allWords item :=
  exists_mem_of_joined rfl (fun a b => allWords_append a (.mark ',' :: b)) h

end Token

namespace TypeExpr

open Token

theorem isName_eq_false_of_literalTokens {d : Document} {x : String} (h : x ∈ allWords d.literalTokens) :
    isName x = false := by
  unfold Document.literalTokens at h
  split at h
  · rw [List.mem_singleton.mp h]
    decide
  · rename_i b
    rw [List.mem_singleton.mp h]
    cases b <;> decide
  · rw [allWords_append, List.mem_append] at h
    rcases h with h | h
    · split at h <;> cases h
    · rw [List.mem_singleton.mp h]
      exact Document.isName_toString _
  · cases h

theorem mem_words_of_check {inner : List Token} {x : String} (h : x ∈ allWords (checkTokens inner))
    (hx : isName x = true) :
    x ∈ ["BeforeValidator", "TypeAdapter"] ∨ x ∈ ["value", "validate_python"] ∨ x ∈ allWords inner := by
  simp only [checkTokens, allWords, words, List.append_nil, List.nil_append, List.cons_append, List.mem_cons,
    List.mem_append, List.not_mem_nil, or_false] at h ⊢
  have hfixed : x ≠ "lambda" ∧ x ≠ "1" :=
    ⟨fun heq => absurd (heq ▸ hx) (by decide), fun heq => absurd (heq ▸ hx) (by decide)⟩
  tauto

theorem mem_words_generic {word : String} {inner : List Token} {x : String}
    (h : x ∈ allWords [.word word, .group '[' inner]) : x = word ∨ x ∈ allWords inner := by
  simpa only [allWords, words, List.append_nil, List.mem_append, List.mem_singleton] using h

mutual

theorem mem_of_words : ∀ (t : TypeExpr) {x : String}, isName x = true → x ∈ allWords t.tokens →
    x ∈ t.names ∨ x ∈ t.asides
  | .named name, x, _, h => .inl h
  | .list item, x, hx, h => by
    rcases mem_words_generic h with rfl | h
    · exact .inl List.mem_cons_self
    · exact (mem_of_words item hx h).imp_left (List.mem_cons_of_mem _)
  | .dict value, x, hx, h => by
    rcases mem_words_generic h with rfl | h
    · exact .inl List.mem_cons_self
    · rcases List.mem_cons.mp h with rfl | h
      · exact .inl (List.mem_cons_of_mem _ List.mem_cons_self)
      · exact (mem_of_words value hx h).imp_left fun h => List.mem_cons_of_mem _ (List.mem_cons_of_mem _ h)
  | .literal values, x, hx, h => by
    rcases mem_words_generic h with rfl | h
    · exact .inl List.mem_cons_self
    · obtain ⟨item, hitem, h⟩ := mem_allWords_joined h
      obtain ⟨d, -, rfl⟩ := List.mem_map.mp hitem
      rw [isName_eq_false_of_literalTokens h] at hx
      cases hx
  | .optional inner, x, hx, h => by
    rcases mem_words_generic h with rfl | h
    · exact .inl List.mem_cons_self
    · exact (mem_of_words inner hx h).imp_left (List.mem_cons_of_mem _)
  | .union members, x, hx, h => by
    rcases mem_words_generic h with rfl | h
    · exact .inl List.mem_cons_self
    · obtain ⟨item, hitem, h⟩ := mem_allWords_joined h
      exact (mem_of_tokenLists members hx hitem h).imp_left (List.mem_cons_of_mem _)
  | .checked first others, x, hx, h => by
    have hnames : (x = "Annotated" ∨ x ∈ ["BeforeValidator", "TypeAdapter"]) ∨ x ∈ first.names ∨ x ∈ allNames others →
        x ∈ (checked first others).names := by
      simp only [names, List.mem_append, List.mem_cons]
      tauto
    have hasides : x ∈ ["value", "validate_python"] ∨ x ∈ first.asides ∨ x ∈ allAsides others →
        x ∈ (checked first others).asides := by
      simp only [asides, List.mem_append, or_assoc]
      exact id
    rcases mem_words_generic h with hword | h
    · exact .inl (hnames (.inl (.inl hword)))
    rw [allWords_append, List.mem_append] at h
    rcases h with h | h
    · exact (mem_of_words first hx h).imp (fun h => hnames (.inr (.inl h))) fun h => hasides (.inr (.inl h))
    · obtain ⟨item, hitem, h⟩ := mem_allWords_joined h
      obtain ⟨inner, hinner, rfl⟩ := List.mem_map.mp hitem
      rcases mem_words_of_check h hx with h | h | h
      · exact .inl (hnames (.inl (.inr h)))
      · exact .inr (hasides (.inl h))
      · exact (mem_of_tokenLists others hx hinner h).imp (fun h => hnames (.inr (.inr h)))
          fun h => hasides (.inr (.inr h))

theorem mem_of_tokenLists : ∀ (types : List TypeExpr) {x : String} {item : List Token}, isName x = true →
    item ∈ tokenLists types → x ∈ allWords item → x ∈ allNames types ∨ x ∈ allAsides types
  | [], _, _, _, hitem, _ => by cases hitem
  | t :: types, x, item, hx, hitem, h => by
    rw [allNames, allAsides, List.mem_append, List.mem_append]
    rcases List.mem_cons.mp hitem with rfl | hitem
    · exact (mem_of_words t hx h).imp .inl .inl
    · exact (mem_of_tokenLists types hx hitem h).imp .inr .inr

end

theorem names_text {t : TypeExpr} (h : t.IsReadable) : ∃ tokens, Reads t.text tokens ∧
    ∀ x ∈ allWords tokens, isName x = true → x ∈ t.names ++ t.asides :=
  ⟨t.tokens, t.reads_text h, fun _ hx hname => List.mem_append.mpr (mem_of_words t hname hx)⟩

end TypeExpr

end ClientForge
