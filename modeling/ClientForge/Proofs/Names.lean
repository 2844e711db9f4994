import ClientForge.Naming.Identifier
import ClientForge.Naming.Symbol
import Mathlib.Data.List.Nodup
import Mathlib.Data.List.Perm.Subperm

namespace ClientForge.Naming

theorem isLower_iff {c : Char} : c.isLower = true ↔ 97 ≤ c.toNat ∧ c.toNat ≤ 122 :=
  Bool.and_eq_true_iff.trans (and_congr decide_eq_true_iff decide_eq_true_iff)

theorem isDigit_iff {c : Char} : c.isDigit = true ↔ 48 ≤ c.toNat ∧ c.toNat ≤ 57 :=
  Bool.and_eq_true_iff.trans (and_congr decide_eq_true_iff decide_eq_true_iff)

def IsWord (s : String) : Prop := s ≠ "" ∧ ∀ c ∈ s.toList, isWordChar c = true

instance (s : String) : Decidable (IsWord s) :=
  decidable_of_iff (s ≠ "" ∧ s.toList.all isWordChar = true) (and_congr_right' List.all_eq_true)

theorem IsWord.append {s t : String} (hs : IsWord s) (ht : ∀ c ∈ t.toList, isWordChar c = true) :
    IsWord (s ++ t) := by
  refine ⟨by simp [hs.1], fun c hc => ?_⟩
  rw [String.toList_append, List.mem_append] at hc
  exact hc.elim (hs.2 c) (ht c)

theorem ne_of_isWordChar {c d : Char} (hc : isWordChar c = true) (hd : isWordChar d = false) : c ≠ d := by
  rintro rfl
  rw [hc] at hd
  cases hd

theorem IsWord.notMem {s : String} (hs : IsWord s) {c : Char} (hc : isWordChar c = false) : c ∉ s.toList :=
  fun hmem => ne_of_isWordChar (hs.2 c hmem) hc rfl

theorem IsWord.dot_notMem {s : String} (hs : IsWord s) : '.' ∉ s.toList := hs.notMem rfl

theorem identifier_isWord (name : String) : IsWord (identifier name) := by
  constructor
  · intro h
    have he := congrArg String.toList h
    rw [identifier, String.toList_ofList] at he
    exact identifierChars_ne_nil _ he
  · rw [identifier, String.toList_ofList]
    exact isWordChar_of_mem_identifierChars _

theorem segmentSymbol_isWord (segment : String) : IsWord (segmentSymbol segment) := by
  unfold segmentSymbol
  split
  · apply IsWord.append (by decide)
    intro c hc
    rw [dropUnderscores, String.toList_ofList] at hc
    exact (identifier_isWord _).2 c (List.dropWhile_subset _ hc)
  · exact identifier_isWord _

theorem moduleName_isWord (symbol : String) : IsWord (moduleName symbol) := identifier_isWord _

theorem isWordChar_of_mem_toString {k : ℕ} {c : Char} (hc : c ∈ (toString k).toList) : isWordChar c = true := by
  rw [Nat.toString_eq_repr, Nat.toList_repr] at hc
  have hd := Nat.isDigit_of_mem_toDigits (by decide) (by decide) hc
  simp [isWordChar, Char.isAlphanum, hd]

theorem numbered_injective (name separator : String) : Function.Injective (numbered name separator) := by
  intro i j h
  have hs := String.append_right_inj (name ++ separator) |>.mp h
  have hd : Nat.toDigits 10 i = Nat.toDigits 10 j := by
    rw [← Nat.toList_repr, ← Nat.toList_repr, ← Nat.toString_eq_repr, ← Nat.toString_eq_repr, hs]
  simpa using congrArg (fun digits => Nat.ofDigitChars 10 digits 0) hd

theorem exists_free_number (name separator : String) (taken : List String) :
    ∃ k < taken.length + 1, numbered name separator (k + 2) ∉ taken := by
  by_contra hall
  push Not at hall
  let names := (List.range (taken.length + 1)).map fun k => numbered name separator (k + 2)
  have hn : names.Nodup := by
    apply List.Nodup.map _ List.nodup_range
    intro i j h
    have := numbered_injective name separator h
    omega
  have hsub : names ⊆ taken := by
    intro x hx
    obtain ⟨k, hk, rfl⟩ := List.mem_map.mp hx
    exact hall k (List.mem_range.mp hk)
  have hl := (hn.subperm hsub).length_le
  simp only [names, List.length_map, List.length_range] at hl
  omega

theorem unique_notMem (name : String) (taken : List String) (separator : String) :
    unique name taken separator ∉ taken := by
  unfold unique
  split
  · obtain ⟨k, hk, hfree⟩ := exists_free_number name separator taken
    cases hf : ((List.range (taken.length + 1)).map fun k => numbered name separator (k + 2)).find? (· ∉ taken) with
    | none =>
      have hmem := List.mem_map_of_mem (f := fun k => numbered name separator (k + 2)) (List.mem_range.mpr hk)
      exact absurd hfree (by simpa using List.find?_eq_none.mp hf _ hmem)
    | some x => simpa using List.find?_some hf
  · assumption

theorem unique_isWord {name : String} (h : IsWord name) (taken : List String) : IsWord (unique name taken "_") := by
  have hnumber (k : ℕ) : IsWord (numbered name "_" k) :=
    (h.append (List.all_eq_true.mp (by decide))).append fun c hc => isWordChar_of_mem_toString hc
  unfold unique
  split
  · cases hf : ((List.range (taken.length + 1)).map fun k => numbered name "_" (k + 2)).find? (· ∉ taken) with
    | none => exact h
    | some x =>
      obtain ⟨k, -, rfl⟩ := List.mem_map.mp (List.mem_of_find?_eq_some hf)
      exact hnumber (k + 2)
  · exact h

theorem nodup_of_clashAfter {held claims : List Claim} (h : clashAfter held claims = none)
    (hheld : (held.map (·.name)).Nodup) : ((held ++ claims).map (·.name)).Nodup := by
  induction claims generalizing held with
  | nil => rwa [List.append_nil]
  | cons c claims ih =>
    unfold clashAfter at h
    split at h
    · cases h
    · rename_i hfind
      rw [← List.singleton_append, ← List.append_assoc]
      apply ih h
      rw [List.map_append, List.map_singleton, List.nodup_append_comm, List.singleton_append, List.nodup_cons]
      refine ⟨fun hmem => ?_, hheld⟩
      obtain ⟨first, hfirst, hname⟩ := List.mem_map.mp hmem
      exact List.find?_eq_none.mp hfind first hfirst (by simpa using hname)

theorem nodup_of_clash {claims : List Claim} (h : clash claims = none) : (claims.map (·.name)).Nodup :=
  nodup_of_clashAfter h List.nodup_nil

theorem isUpper_iff {c : Char} : c.isUpper = true ↔ 65 ≤ c.toNat ∧ c.toNat ≤ 90 :=
  decide_eq_true_iff.trans Iff.rfl

theorem isWordChar_of_isAlphanum {c : Char} (h : c.isAlphanum = true) : isWordChar c = true :=
  Bool.or_eq_true_iff.mpr (.inl h)

theorem isAlphanum_toUpper {c : Char} (h : c.isAlphanum = true) : c.toUpper.isAlphanum = true := by
  unfold Char.toUpper
  split
  · rename_i hrange
    have hlow : 97 ≤ c.val.toNat := hrange.1
    have hhigh : c.val.toNat ≤ 122 := hrange.2
    have hshift : (c.val + ('A'.val - 'a'.val)).toNat = (c.val.toNat + 4294967264) % 4294967296 :=
      UInt32.toNat_add _ _
    have hupper (d : Char) (hd : d.val = c.val + ('A'.val - 'a'.val)) : d.isAlphanum = true := by
      have hd : d.toNat = (c.val + ('A'.val - 'a'.val)).toNat := congrArg UInt32.toNat hd
      exact Bool.or_eq_true_iff.mpr (.inl (Bool.or_eq_true_iff.mpr (.inl (isUpper_iff.mpr (by omega)))))
    exact hupper _ rfl
  · exact h

theorem isAlphanum_of_mem_capitalWords {start : Bool} {s : List Char} :
    ∀ c ∈ capitalWords start s, c.isAlphanum = true := by
  induction s generalizing start with
  | nil => simp [capitalWords]
  | cons d s ih =>
    unfold capitalWords
    split
    · rename_i hd
      rw [List.forall_mem_cons]
      refine ⟨?_, ih⟩
      split
      · exact isAlphanum_toUpper hd
      · exact hd
    · exact ih

theorem pascalCase_isWord (name : String) : IsWord (pascalCase name) := by
  unfold pascalCase
  split
  · decide
  · rename_i c rest hwords
    have hchars : ∀ d ∈ c :: rest, isWordChar d = true := fun d hd =>
      isWordChar_of_isAlphanum (isAlphanum_of_mem_capitalWords d (hwords ▸ hd))
    split
    · exact ⟨by simp, by simpa [isWordChar] using hchars⟩
    · exact ⟨by simp, by simpa using hchars⟩

theorem fieldName_isWord (property : String) : IsWord (fieldName property) := by
  have hmark {name : String} (h : IsWord name) (p : Prop) [Decidable p] : IsWord (if p then name ++ "_" else name) := by
    split
    · exact h.append (List.all_eq_true.mp (by decide))
    · exact h
  unfold fieldName
  extract_lets name name'
  have hname : IsWord name := identifier_isWord property
  have hname' : IsWord name' := by
    unfold name'
    split
    · refine IsWord.append (by decide) fun c hc => ?_
      rw [dropUnderscores, String.toList_ofList] at hc
      exact hname.2 c (List.dropWhile_subset _ hc)
    · exact hname
  clear_value name'
  exact hmark hname' _

end ClientForge.Naming
