import ClientForge.Proofs.RegistryNames

/-!
Names that are made once are made for good: each way of making names gives an identifier that is no keyword, and leaves
the names that it gives as they are.
-/

namespace ClientForge.Naming

variable {s name : String}

theorem isParameterSegment_braced (h : name ≠ "") : isParameterSegment ("\x7b" ++ name ++ "\x7d") = true := by
  have hlength : 0 < name.toList.length := List.length_pos_iff.mpr (by simpa using h)
  have hchars : ("\x7b" ++ name ++ "\x7d").toList = '\x7b' :: (name.toList ++ ['\x7d']) := by simp
  rw [isParameterSegment, hchars]
  simp only [List.length_append, List.length_singleton, List.getLast?_concat, decide_true, Bool.and_true,
    decide_eq_true_eq]
  omega

theorem IsIdentifier.isParameterSegment_eq (hs : IsIdentifier s) : isParameterSegment s = false := by
  have hbrace : '\x7b' ∉ s.toList := hs.notMem (by decide)
  unfold isParameterSegment
  split
  · rename_i hchars
    simp [hchars] at hbrace
  · rfl

theorem prefix_segmentSymbol (h : isParameterSegment s = true) : "by_".toList <+: (segmentSymbol s).toList := by
  rw [segmentSymbol, if_pos h, String.toList_append]
  exact List.prefix_append _ _

theorem segmentSymbol_notMem_keywords (segment : String) : segmentSymbol segment ∉ keywords := by
  have hmark : ∀ s ∈ keywords, ¬"by_".toList <+: s.toList := by decide
  by_cases h : isParameterSegment segment = true
  · exact fun hmem => hmark _ hmem (prefix_segmentSymbol h)
  · rw [segmentSymbol, if_neg h]
    exact identifier_notMem_keywords segment

theorem IsIdentifier.segmentSymbol_eq (hs : IsIdentifier s) (hkeyword : s ∉ keywords) : segmentSymbol s = s := by
  simp [segmentSymbol, hs.isParameterSegment_eq, hs.identifier_eq hkeyword]

theorem extendUntilFree_of_notMem {word : String} {taken : List String} (h : name ∉ taken) (steps : ℕ) :
    extendUntilFree word taken steps name = name := by
  cases steps with
  | zero => rfl
  | succ steps => rw [extendUntilFree, if_neg h]

theorem IsIdentifier.classSymbol_eq (hs : IsIdentifier s) (hkeyword : s ∉ keywords) (hreserved : s ∉ reservedSymbols) :
    classSymbol s = s := by
  rw [classSymbol, hs.identifier_eq hkeyword]
  exact extendUntilFree_of_notMem hreserved _

theorem classSymbol_settles (name : String) :
    classSymbol name ∉ reservedSymbols ∧ ∃ k,
      classSymbol name = .ofList ((identifier name).toList ++ (List.replicate k "Model".toList).flatten) ∧
      ∀ i < k, String.ofList ((identifier name).toList ++ (List.replicate i "Model".toList).flatten) ∈
        reservedSymbols := by
  obtain ⟨k, -, heq, hmem, -⟩ := extendUntilFree_spec "Model" reservedSymbols reservedSymbols.length (identifier name)
  exact ⟨free_notMem (by decide) reservedSymbols _, k, heq, hmem⟩

theorem lowerChar_of_isWordChar {c : Char} (hc : isWordChar c = true) (hlower : c.isUpper = false) :
    lowerChar c = [c] := by
  have hkelvin : c ≠ '\u212a' := by
    rintro rfl
    exact absurd hc (by decide)
  have hdotted : c ≠ '\u0130' := by
    rintro rfl
    exact absurd hc (by decide)
  rw [lowerChar, if_neg hkelvin, if_neg hdotted, toLower_of_not_isUpper hlower]

theorem IsIdentifier.moduleName_eq (hs : IsIdentifier s) (hkeyword : s ∉ keywords) (hlower : IsLowerCase s) :
    moduleName s = s := by
  have hchars : s.toList.flatMap lowerChar = s.toList := by
    rw [List.flatMap_congr fun c hc => lowerChar_of_isWordChar (hs.isWord.2 c hc) (hlower c hc)]
    exact List.flatMap_singleton' _
  rw [moduleName, hchars, String.ofList_toList, hs.identifier_eq hkeyword]

section PascalCase

variable {chars : List Char}

theorem toUpper_of_not_isLower {c : Char} (hc : c.isLower = false) : c.toUpper = c := by
  unfold Char.toUpper
  rw [dif_neg]
  exact fun h => Bool.false_ne_true (hc.symm.trans (isLower_iff.mpr ⟨h.1, h.2⟩))

theorem capitalWords_false (h : ∀ c ∈ chars, c.isAlphanum = true) : capitalWords false chars = chars := by
  induction chars with
  | nil => rfl
  | cons c chars ih =>
    rw [List.forall_mem_cons] at h
    rw [capitalWords, if_pos h.1, if_neg Bool.false_ne_true, ih h.2]

theorem capitalWords_capitalWords (chars : List Char) :
    capitalWords true (capitalWords true chars) = capitalWords true chars := by
  have hhead := head?_capitalWords chars
  have halphanum : ∀ c ∈ capitalWords true chars, c.isAlphanum = true := isAlphanum_of_mem_capitalWords
  generalize capitalWords true chars = word at hhead halphanum
  cases word with
  | nil => rfl
  | cons c word =>
    rw [List.forall_mem_cons] at halphanum
    rw [capitalWords, if_pos halphanum.1, if_pos rfl, toUpper_of_not_isLower (hhead c rfl),
      capitalWords_false halphanum.2]

theorem pascalCase_pascalCase (name : String) : pascalCase (pascalCase name) = pascalCase name := by
  have hagain := capitalWords_capitalWords name.toList
  rw [pascalCase.eq_1 name]
  cases hword : capitalWords true name.toList with
  | nil => decide
  | cons c word =>
    rw [hword] at hagain
    by_cases hdigit : c.isDigit = true
    · -- The mark in front of a digit starts no word, and is put there again.
      have hmark : capitalWords true ('_' :: c :: word) = c :: word := hagain
      simp [pascalCase, hdigit, hmark]
    · simp [pascalCase, hdigit, hagain]

end PascalCase

/-- A way of making names is settled where it gives identifiers that are no keywords and gives them back for
themselves. -/
structure IsSettled (make : String → String) (s : String) : Prop where
  isIdentifier : IsIdentifier (make s)
  notKeyword : make s ∉ keywords
  again : make (make s) = make s

theorem identifier_isSettled (s : String) : IsSettled identifier s :=
  ⟨identifier_isIdentifier s, identifier_notMem_keywords s,
    (identifier_isIdentifier s).identifier_eq (identifier_notMem_keywords s)⟩

theorem segmentSymbol_isSettled (s : String) : IsSettled segmentSymbol s :=
  ⟨segmentSymbol_isIdentifier s, segmentSymbol_notMem_keywords s,
    (segmentSymbol_isIdentifier s).segmentSymbol_eq (segmentSymbol_notMem_keywords s)⟩

theorem classSymbol_isSettled (s : String) : IsSettled classSymbol s :=
  ⟨classSymbol_isIdentifier s, classSymbol_notMem_keywords s,
    (classSymbol_isIdentifier s).classSymbol_eq (classSymbol_notMem_keywords s) (classSymbol_settles s).1⟩

theorem moduleName_isSettled (s : String) : IsSettled moduleName s :=
  ⟨moduleName_isIdentifier s, identifier_notMem_keywords _,
    (moduleName_isIdentifier s).moduleName_eq (identifier_notMem_keywords _) (moduleName_isLowerCase s)⟩

theorem fieldName_isSettled (s : String) : IsSettled fieldName s :=
  have h := fieldName_isFieldName s
  ⟨h.isIdentifier, h.notKeyword, h.fieldName_eq⟩

/-- Names of segments, classes, modules and fields are identifiers and no keywords. To make a name of one again
changes nothing. A parameter's segment keeps its mark, a class is called as nothing that is reserved, and a field can
have its name. -/
theorem names_settled (s : String) :
    (∀ make ∈ [identifier, segmentSymbol, classSymbol, moduleName, fieldName], IsSettled make s) ∧
    pascalCase (pascalCase s) = pascalCase s ∧
    (s ≠ "" → "by_".toList <+: (segmentSymbol ("\x7b" ++ s ++ "\x7d")).toList) ∧
    (classSymbol s ∉ reservedSymbols ∧ ∃ k,
      classSymbol s = .ofList ((identifier s).toList ++ (List.replicate k "Model".toList).flatten) ∧
      ∀ i < k, String.ofList ((identifier s).toList ++ (List.replicate i "Model".toList).flatten) ∈ reservedSymbols) ∧
    IsFieldName (fieldName s) := by
  refine ⟨?_, pascalCase_pascalCase s, fun h => prefix_segmentSymbol (isParameterSegment_braced h),
    classSymbol_settles s, fieldName_isFieldName s⟩
  simp only [List.forall_mem_cons, List.not_mem_nil, false_implies, implies_true, and_true]
  exact ⟨identifier_isSettled s, segmentSymbol_isSettled s, classSymbol_isSettled s, moduleName_isSettled s,
    fieldName_isSettled s⟩

theorem names_settled_reserved : "Any" ≠ "" ∧
    (∀ make ∈ [identifier, segmentSymbol, classSymbol, moduleName, fieldName], IsSettled make "Any") ∧
    "by_".toList <+: (segmentSymbol "\x7bAny\x7d").toList ∧ IsFieldName (fieldName "Any") ∧
    [segmentSymbol "\x7bAny\x7d", classSymbol "Any", moduleName "Any", fieldName "Any", pascalCase "Any"] =
      ["by_Any", "AnyModel", "any", "Any_", "Any"] := by
  obtain ⟨hsettled, -, hmark, -, hfield⟩ := names_settled "Any"
  exact ⟨by decide, hsettled, hmark (by decide), hfield, by decide +kernel⟩

end ClientForge.Naming
