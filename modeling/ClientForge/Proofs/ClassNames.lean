import ClientForge.Code.Compiled
import ClientForge.Proofs.Lists
import ClientForge.Proofs.Registries

namespace ClientForge

namespace Naming

theorem append_injective {word : String} (h : word ≠ "") (name : String) :
    Function.Injective fun k => name.toList ++ (List.replicate k word.toList).flatten := by
  intro i j hij
  have hlength := congrArg List.length (List.append_cancel_left hij)
  have hpos : 0 < word.toList.length := List.length_pos_iff.mpr (by simpa using h)
  rw [List.length_flatten, List.length_flatten, List.map_replicate, List.map_replicate, List.sum_replicate_nat,
    List.sum_replicate_nat] at hlength
  exact Nat.eq_of_mul_eq_mul_right hpos hlength

theorem extendUntilFree_spec (word : String) (taken : List String) (steps : ℕ) (name : String) :
    ∃ k ≤ steps, extendUntilFree word taken steps name =
        .ofList (name.toList ++ (List.replicate k word.toList).flatten) ∧
      (∀ i < k, String.ofList (name.toList ++ (List.replicate i word.toList).flatten) ∈ taken) ∧
      (k = steps ∨ extendUntilFree word taken steps name ∉ taken) := by
  induction steps generalizing name with
  | zero => exact ⟨0, le_rfl, by simp [extendUntilFree], by simp, .inl rfl⟩
  | succ steps ih =>
    unfold extendUntilFree
    split
    · rename_i hname
      obtain ⟨k, hk, heq, hmem, hend⟩ := ih (name ++ word)
      refine ⟨k + 1, Nat.succ_le_succ hk, ?_, ?_, ?_⟩
      · simpa [List.replicate_succ] using heq
      · intro i hi
        cases i with
        | zero => simpa using hname
        | succ i => simpa [List.replicate_succ] using hmem i (by omega)
      · exact hend.imp_left (congrArg (· + 1))
    · rename_i hname
      exact ⟨0, Nat.zero_le _, by simp, by simp, .inr hname⟩

theorem toList_free (word : String) (taken : List String) (name : String) :
    ∃ k, (free word taken name).toList = name.toList ++ (List.replicate k word.toList).flatten := by
  obtain ⟨k, -, heq, -⟩ := extendUntilFree_spec word taken taken.length name
  exact ⟨k, by rw [free, heq, String.toList_ofList]⟩

theorem free_notMem {word : String} (h : word ≠ "") (taken : List String) (name : String) :
    free word taken name ∉ taken := by
  obtain ⟨k, -, heq, hmem, hend⟩ := extendUntilFree_spec word taken taken.length name
  rcases hend with rfl | hend
  · -- All names before the last one are different and taken, which leaves none for the last.
    intro hlast
    let names := (List.range (taken.length + 1)).map fun i =>
      String.ofList (name.toList ++ (List.replicate i word.toList).flatten)
    have hnodup : names.Nodup := by
      apply List.Nodup.map _ List.nodup_range
      intro i j hij
      exact append_injective h name (String.ofList_injective hij)
    have hsub : names ⊆ taken := by
      intro x hx
      obtain ⟨i, hi, rfl⟩ := List.mem_map.mp hx
      rcases (Nat.lt_succ_iff_lt_or_eq.mp (List.mem_range.mp hi)) with hi | rfl
      · exact hmem i hi
      · rw [← heq]
        exact hlast
    have hlength := (hnodup.subperm hsub).length_le
    rw [List.length_map, List.length_range] at hlength
    omega
  · exact hend

def Extends (name start : String) : Prop :=
  ∃ rest, name.toList = start.toList ++ rest ∧ ∀ c ∈ rest.head?, c.isDigit = false

theorem Extends.refl (name : String) : Extends name name := ⟨[], by simp⟩

theorem Extends.trans {a b c : String} (hab : Extends a b) (hbc : Extends b c) : Extends a c := by
  obtain ⟨rest, ha, hrest⟩ := hab
  obtain ⟨rest', hb, hrest'⟩ := hbc
  refine ⟨rest' ++ rest, by rw [ha, hb, List.append_assoc], ?_⟩
  cases rest' with
  | nil => exact hrest
  | cons c rest' => exact hrest'

theorem extends_append (start : String) {more : String} (h : ∀ c ∈ more.toList.head?, c.isDigit = false) :
    Extends (start ++ more) start :=
  ⟨more.toList, String.toList_append, h⟩

theorem Extends.length_le {a b : String} (h : Extends a b) : b.length ≤ a.length := by
  obtain ⟨rest, ha, -⟩ := h
  have hlength := congrArg List.length ha
  rw [List.length_append, String.length_toList, String.length_toList] at hlength
  omega

theorem extends_free (taken : List String) (name : String) : Extends (free "Model" taken name) name := by
  obtain ⟨k, hk⟩ := toList_free "Model" taken name
  refine ⟨_, hk, ?_⟩
  cases k with
  | zero => simp
  | succ k =>
    intro c hc
    have hmodel : "Model".toList = ['M', 'o', 'd', 'e', 'l'] := rfl
    simp only [List.replicate_succ, List.flatten_cons, hmodel, List.cons_append, List.head?_cons,
      Option.mem_def, Option.some.injEq] at hc
    subst hc
    decide

theorem free_not_extends (taken : List String) (name number : String) :
    ¬Extends (free "Model" taken name) (name ++ "Part" ++ number) := by
  rintro ⟨rest, hname, -⟩
  obtain ⟨k, hk⟩ := toList_free "Model" taken name
  have hmodel : "Model".toList = ['M', 'o', 'd', 'e', 'l'] := rfl
  have hpart : "Part".toList = ['P', 'a', 'r', 't'] := rfl
  rw [hk, String.toList_append, String.toList_append, List.append_assoc, List.append_assoc] at hname
  have hwords := List.append_cancel_left hname
  rw [hmodel, hpart] at hwords
  cases k <;> simp [List.replicate_succ] at hwords

theorem isDigit_of_mem_toString {k : ℕ} {c : Char} (hc : c ∈ (toString k).toList) : c.isDigit = true := by
  rw [Nat.toString_eq_repr, Nat.toList_repr] at hc
  exact Nat.isDigit_of_mem_toDigits (by decide) (by decide) hc

theorem toString_ne_nil (k : ℕ) : (toString k).toList ≠ [] := by
  rw [Nat.toString_eq_repr, Nat.toList_repr]
  exact Nat.toDigits_ne_nil

theorem eq_of_digits {digits digits' rest rest' : List Char} (h : digits ++ rest = digits' ++ rest')
    (hd : ∀ c ∈ digits, c.isDigit = true) (hd' : ∀ c ∈ digits', c.isDigit = true)
    (hr : ∀ c ∈ rest.head?, c.isDigit = false) (hr' : ∀ c ∈ rest'.head?, c.isDigit = false) : digits = digits' := by
  have htake {rest : List Char} (hr : ∀ c ∈ rest.head?, c.isDigit = false) : rest.takeWhile Char.isDigit = [] := by
    cases rest with
    | nil => rfl
    | cons c rest => rw [List.takeWhile_cons, hr c rfl, if_neg Bool.false_ne_true]
  have hall := congrArg (List.takeWhile Char.isDigit) h
  rwa [List.takeWhile_append_of_pos hd, List.takeWhile_append_of_pos hd', htake hr, htake hr', List.append_nil,
    List.append_nil] at hall

theorem number_eq_of_extends {name start : String} {i j : ℕ} (hi : Extends name (start ++ toString i))
    (hj : Extends name (start ++ toString j)) : i = j := by
  obtain ⟨rest, hname, hrest⟩ := hi
  obtain ⟨rest', hname', hrest'⟩ := hj
  rw [hname, String.toList_append, String.toList_append, List.append_assoc, List.append_assoc] at hname'
  have hdigits := eq_of_digits (List.append_cancel_left hname') (fun c => isDigit_of_mem_toString)
    (fun c => isDigit_of_mem_toString) hrest hrest'
  apply numbered_injective "" ""
  rw [numbered, numbered, String.toList_injective hdigits]

def digitEnd (name : String) : ℕ := (name.toList.rdropWhile (!·.isDigit)).length

theorem digitEnd_le (name : String) : digitEnd name ≤ name.length := by
  have hle := (List.rdropWhile_prefix (fun c : Char => !c.isDigit) name.toList).length_le
  rwa [String.length_toList] at hle

theorem digitEnd_free (taken : List String) (name : String) : digitEnd (free "Model" taken name) = digitEnd name := by
  obtain ⟨k, hk⟩ := toList_free "Model" taken name
  have hmodel : ∀ c ∈ "Model".toList, (!c.isDigit) = true := by simp
  rw [digitEnd, hk, rdropWhile_append_of_pos, digitEnd]
  intro c hc
  obtain ⟨word, hword, hc⟩ := List.mem_flatten.mp hc
  rw [List.eq_of_mem_replicate hword] at hc
  exact hmodel c hc

theorem digitEnd_numbered (start : String) (k : ℕ) : digitEnd (start ++ toString k) = (start ++ toString k).length := by
  rw [digitEnd, ← String.length_toList]
  congr 1
  rw [List.rdropWhile_eq_self_iff]
  intro hne
  have hlast : (start ++ toString k).toList.getLast hne ∈ (toString k).toList := by
    simp only [String.toList_append]
    rw [List.getLast_append_of_ne_nil _ (toString_ne_nil k)]
    exact List.getLast_mem _
  rw [isDigit_of_mem_toString hlast, Bool.not_true]
  exact Bool.false_ne_true

theorem isLower_toUpper (c : Char) : c.toUpper.isLower = false := by
  rw [← Bool.not_eq_true, isLower_iff]
  unfold Char.toUpper
  split
  · rename_i h
    have hlow : 97 ≤ c.val.toNat := h.1
    have hhigh : c.val.toNat ≤ 122 := h.2
    have hshift : (c.val + ('A'.val - 'a'.val)).toNat = (c.val.toNat + 4294967264) % 4294967296 :=
      UInt32.toNat_add _ _
    change ¬(97 ≤ (c.val + ('A'.val - 'a'.val)).toNat ∧ (c.val + ('A'.val - 'a'.val)).toNat ≤ 122)
    omega
  · rename_i h
    exact h

def IsRaised (s : String) : Prop := s ≠ "" ∧ ∀ c ∈ s.toList.head?, c.isDigit = false ∧ c.isLower = false

instance (s : String) : Decidable (IsRaised s) :=
  decidable_of_iff (s ≠ "" ∧ s.toList.head?.all (fun c => !c.isDigit && !c.isLower) = true) <| by
    rw [Option.all_eq_true]
    exact and_congr_right' (forall₂_congr fun c _ => by simp)

theorem IsRaised.append {s : String} (h : IsRaised s) (t : String) : IsRaised (s ++ t) := by
  refine ⟨by simp [h.1], ?_⟩
  rw [String.toList_append, List.head?_append_of_ne_nil _ (by simpa using h.1)]
  exact h.2

theorem head?_capitalWords (s : List Char) : ∀ c ∈ (capitalWords true s).head?, c.isLower = false := by
  induction s with
  | nil => simp [capitalWords]
  | cons d s ih =>
    unfold capitalWords
    split
    · rintro c ⟨⟩
      exact isLower_toUpper d
    · exact ih

theorem pascalCase_isRaised (name : String) : IsRaised (pascalCase name) := by
  unfold pascalCase
  split
  · decide
  · rename_i c rest hwords
    have hlower := head?_capitalWords name.toList c (by rw [hwords]; rfl)
    split
    · exact ⟨by simp, by simp⟩
    · rename_i hc
      refine ⟨by simp, ?_⟩
      simpa using ⟨by simpa using hc, hlower⟩

/-- One name goes on where the other ends, with a word of its own. -/
def Inside (name start : String) : Prop := ∃ word, name = start ++ word ∧ IsRaised word

theorem Inside.extends {name start : String} (h : Inside name start) : Extends name start := by
  obtain ⟨word, rfl, -, hhead⟩ := h
  exact extends_append start fun c hc => (hhead c hc).1

theorem Inside.length_lt {name start : String} (h : Inside name start) : start.length < name.length := by
  obtain ⟨word, rfl, hne, -⟩ := h
  have hpos : 0 < word.length := by
    rw [← String.length_toList]
    exact List.length_pos_iff.mpr (by simpa using hne)
  rw [String.length_append]
  omega

theorem inside_append (start : String) {word : String} (h : IsRaised word) : Inside (start ++ word) start :=
  ⟨word, rfl, h⟩

theorem unique_eq (name : String) (taken : List String) (separator : String) :
    unique name taken separator = name ∨ ∃ k, unique name taken separator = numbered name separator k := by
  unfold unique
  split
  · cases hf : ((List.range (taken.length + 1)).map fun k => numbered name separator (k + 2)).find? (· ∉ taken) with
    | none => exact .inl rfl
    | some x =>
      obtain ⟨k, -, rfl⟩ := List.mem_map.mp (List.mem_of_find?_eq_some hf)
      exact .inr ⟨k + 2, rfl⟩
  · exact .inl rfl

end Naming

open Naming

namespace Registry

theorem numbered_notMem_reserved (name separator : String) (k : ℕ) : numbered name separator k ∉ reservedSymbols := by
  intro hmem
  have hend := digitEnd_numbered (name ++ separator) k
  have hpos : 0 < (toString k).length := by
    rw [← String.length_toList]
    exact List.length_pos_iff.mpr (toString_ne_nil k)
  have hnone : ∀ s ∈ reservedSymbols, digitEnd s ≠ s.length := by decide
  exact hnone _ hmem hend

theorem symbol_notMem_reserved (name : String) (taken : List String) :
    unique (classSymbol name) taken "_" ∉ reservedSymbols := by
  rcases unique_eq (classSymbol name) taken "_" with heq | ⟨k, heq⟩
  · rw [heq]
    exact free_notMem (by decide) _ _
  · rw [heq]
    exact numbered_notMem_reserved _ _ k

theorem symbols_notMem_reserved {d : Document} {r : Registry} (h : ofDocument d = .ok r) :
    ∀ e ∈ r.entries, e.symbol ∉ reservedSymbols :=
  forall_entries h fun name _ _ symbols _ _ => symbol_notMem_reserved name symbols

end Registry

end ClientForge
