import ClientForge.Options.Resolution
import ClientForge.Proofs.ModulePaths

namespace ClientForge.Options

open Naming

def IsImportable (s : String) : Prop :=
  ∃ parts : List String, parts ≠ [] ∧ s = ".".intercalate parts ∧ ∀ p ∈ parts, IsIdentifier p ∧ p ∉ keywords

variable {s : String} {parts : List String}

theorem isWord_iff {chars : List Char} : isWord chars = true ↔ IsIdentifier (.ofList chars) := by
  cases chars with
  | nil => decide
  | cons c chars =>
    rw [isWord, Bool.and_eq_true, Bool.and_eq_true, List.all_eq_true]
    constructor
    · rintro ⟨⟨hc, hdigit⟩, hchars⟩
      refine ⟨⟨by simp, ?_⟩, ?_⟩
      · rw [String.toList_ofList]
        exact List.forall_mem_cons.mpr ⟨hc, hchars⟩
      · rw [String.toList_ofList]
        simpa using hdigit
    · rintro ⟨⟨-, hword⟩, hhead⟩
      rw [String.toList_ofList] at hword hhead
      rw [List.forall_mem_cons] at hword
      exact ⟨⟨hword.1, by simpa using hhead⟩, hword.2⟩

theorem toList_intercalate (parts : List String) :
    (".".intercalate parts).toList = ['.'].intercalate (parts.map String.toList) := by
  rw [String.toList_intercalate]
  rfl

theorem pieces_intercalate (hne : parts ≠ []) (h : ∀ p ∈ parts, IsIdentifier p) :
    Text.pieces '.' (".".intercalate parts).toList = parts.map String.toList := by
  obtain ⟨first, rest, rfl⟩ := List.exists_cons_of_ne_nil hne
  rw [List.forall_mem_cons] at h
  have hpieces := ModuleName.pieces_intercalate_cons first fun p hp => (h.2 p hp).isWord
  have hfirst : first.pieces '.' = [first] := by
    rw [String.pieces, Text.pieces_of_notMem h.1.isWord.dot_notMem]
    simp
  rw [hfirst, String.pieces] at hpieces
  have hmap := congrArg (List.map String.toList) hpieces
  simpa [List.map_map, Function.comp_def] using hmap

theorem all_isWord_iff (chars : List Char) : (Text.pieces '.' chars).all isWord = true ↔
    ∃ parts : List String, parts ≠ [] ∧ (∀ p ∈ parts, IsIdentifier p) ∧ chars = (".".intercalate parts).toList := by
  rw [List.all_eq_true]
  constructor
  · intro h
    refine ⟨(Text.pieces '.' chars).map .ofList, by simpa using Text.pieces_ne_nil '.' chars, ?_, ?_⟩
    · simp only [List.forall_mem_map]
      exact fun piece hpiece => isWord_iff.mp (h piece hpiece)
    · rw [toList_intercalate, List.map_map]
      simpa [Function.comp_def] using (Text.intercalate_pieces '.' chars).symm
  · rintro ⟨parts, hne, hparts, rfl⟩ piece hpiece
    rw [pieces_intercalate hne hparts, List.mem_map] at hpiece
    obtain ⟨p, hp, rfl⟩ := hpiece
    rw [isWord_iff, String.ofList_toList]
    exact hparts p hp

theorem feed_notMem (h : ∀ p ∈ parts, IsIdentifier p) : '\n' ∉ (".".intercalate parts).toList := by
  induction parts with
  | nil => simp
  | cons p parts ih =>
    rw [List.forall_mem_cons] at h
    cases parts with
    | nil => simpa using h.1.notMem (by decide)
    | cons q parts =>
      rw [String.intercalate_cons_cons, String.toList_append, String.toList_append, List.mem_append, List.mem_append,
        not_or, not_or]
      exact ⟨⟨h.1.notMem (by decide), by decide⟩, ih h.2⟩

theorem isPackageName_iff : isPackageName s = true ↔ ∃ parts : List String, parts ≠ [] ∧
    (∀ p ∈ parts, IsIdentifier p) ∧ (s = ".".intercalate parts ∨ s = ".".intercalate parts ++ "\n") := by
  unfold isPackageName
  dsimp only
  rw [all_isWord_iff]
  refine exists_congr fun parts => and_congr_right fun _ => and_congr_right fun hparts => ?_
  have hfeed := feed_notMem hparts
  split
  · rename_i hlast
    have hs : s.toList.dropLast ++ ['\n'] = s.toList := List.dropLast_append_getLast? _ hlast
    constructor
    · intro h
      refine .inr (String.toList_injective ?_)
      rw [String.toList_append, ← h]
      exact hs.symm
    · rintro (rfl | rfl)
      · exact absurd (List.mem_of_getLast? hlast) hfeed
      · simp
  · rename_i hlast
    constructor
    · intro h
      exact .inl (String.toList_injective h)
    · rintro (rfl | rfl)
      · rfl
      · simp at hlast

theorem passes_unimportable_iff : isPackageName s = true ∧ ¬IsImportable s ↔ ∃ parts : List String, parts ≠ [] ∧
    (∀ p ∈ parts, IsIdentifier p) ∧
      (s = ".".intercalate parts ++ "\n" ∨ s = ".".intercalate parts ∧ ∃ p ∈ parts, p ∈ keywords) := by
  rw [isPackageName_iff]
  constructor
  · rintro ⟨⟨parts, hne, hparts, rfl | rfl⟩, hnot⟩
    · refine ⟨parts, hne, hparts, .inr ⟨rfl, ?_⟩⟩
      by_contra hkeyword
      push Not at hkeyword
      exact hnot ⟨parts, hne, rfl, fun p hp => ⟨hparts p hp, hkeyword p hp⟩⟩
    · exact ⟨parts, hne, hparts, .inl rfl⟩
  · rintro ⟨parts, hne, hparts, rfl | ⟨rfl, p, hp, hkeyword⟩⟩
    · refine ⟨⟨parts, hne, hparts, .inr rfl⟩, ?_⟩
      rintro ⟨parts', -, heq, hparts'⟩
      exact feed_notMem (fun p hp => (hparts' p hp).1) (heq ▸ by simp)
    · refine ⟨⟨parts, hne, hparts, .inl rfl⟩, ?_⟩
      rintro ⟨parts', hne', heq, hparts'⟩
      have hmap := congrArg (Text.pieces '.' ·.toList) heq
      rw [pieces_intercalate hne hparts, pieces_intercalate hne' fun p hp => (hparts' p hp).1] at hmap
      have hsame : parts = parts' := List.map_injective_iff.mpr (fun _ _ => String.toList_injective) hmap
      exact (hparts' p (hsame ▸ hp)).2 hkeyword

end ClientForge.Options
