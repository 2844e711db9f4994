import ClientForge.Document.Reference
import ClientForge.Proofs.ClassNames
import ClientForge.Proofs.DocumentPaths
import ClientForge.Proofs.ModuleNames

namespace ClientForge

open Document Naming

namespace Text

section Digits

variable {c : Char} {s : List Char}

theorem decimalValue?_of_isDigit (hc : c.isDigit = true) : decimalValue? c = some (c.toNat - '0'.toNat) := by
  obtain ⟨hlow, hhigh⟩ := isDigit_iff.mp hc
  have hzero : (decide (0x30 ≤ c.toNat) && decide (c.toNat < 0x30 + 10)) = true := by
    rw [Bool.and_eq_true, decide_eq_true_eq, decide_eq_true_eq]
    omega
  rw [decimalValue?, decimalZeros, List.find?_cons, hzero]
  rfl

theorem digitValue?_of_isDigit (hc : c.isDigit = true) : digitValue? 10 c = some (c.toNat - '0'.toNat) := by
  obtain ⟨hlow, hhigh⟩ := isDigit_iff.mp hc
  have hlt : c.toNat - '0'.toNat < 10 := by
    change c.toNat - 48 < 10
    omega
  rw [digitValue?, decimalValue?_of_isDigit hc, Option.some_or, Option.filter_some, decide_eq_true hlt, if_pos rfl]

theorem furtherDigits?_of_digits (hs : ∀ c ∈ s, c.isDigit = true) (value : ℕ) :
    furtherDigits? 10 value s = some (Nat.ofDigitChars 10 s value) := by
  induction s generalizing value with
  | nil => rfl
  | cons c s ih =>
    obtain ⟨hc, hs⟩ := List.forall_mem_cons.mp hs
    have hmark : c ≠ '_' := by
      rintro rfl
      cases hc
    rw [furtherDigits?, digitValue?_of_isDigit hc, Option.bind_eq_bind, Option.bind_some, ih hs,
      Nat.ofDigitChars_cons, Nat.mul_comm]
    exact fun _ _ heq => absurd heq hmark

theorem digits?_of_digits (hne : s ≠ []) (hs : ∀ c ∈ s, c.isDigit = true) :
    digits? 10 s = some (Nat.ofDigitChars 10 s 0) := by
  cases s with
  | nil => exact absurd rfl hne
  | cons c s =>
    obtain ⟨hc, hs⟩ := List.forall_mem_cons.mp hs
    rw [digits?, digitValue?_of_isDigit hc, Option.bind_eq_bind, Option.bind_some, furtherDigits?_of_digits hs,
      Nat.ofDigitChars_cons, Nat.mul_zero, Nat.zero_add]

theorem isMargin_of_isDigit (hc : c.isDigit = true) : isMargin c = false := by
  have hall : ∀ k < 10, isMargin (Char.ofNat (48 + k)) = false := by decide
  obtain ⟨hlow, hhigh⟩ := isDigit_iff.mp hc
  have hchar := hall (c.toNat - 48) (by omega)
  rwa [Nat.add_sub_cancel' hlow, Char.ofNat_toNat] at hchar

theorem dropWhile_isMargin (hs : ∀ c ∈ s, c.isDigit = true) : s.dropWhile isMargin = s := by
  cases s with
  | nil => rfl
  | cons c s => rw [List.dropWhile_cons, isMargin_of_isDigit (hs c List.mem_cons_self), if_neg Bool.false_ne_true]

theorem trimMargins_of_digits (hs : ∀ c ∈ s, c.isDigit = true) : trimMargins s = s := by
  rw [trimMargins, dropWhile_isMargin hs, dropWhile_isMargin, List.reverse_reverse]
  exact fun c hc => hs c (List.mem_reverse.mp hc)

theorem dropBaseMark_ten (s : List Char) : dropBaseMark 10 s = s := by
  unfold dropBaseMark
  split
  · simp
  · rfl

theorem readInt?_of_digits (hne : s ≠ []) (hs : ∀ c ∈ s, c.isDigit = true) :
    readInt? 10 s = some (Nat.ofDigitChars 10 s 0 : ℤ) := by
  have hsign (sign : Char) (hsign : sign.isDigit = false) (rest : List Char) : s ≠ sign :: rest := by
    rintro rfl
    rw [hs sign List.mem_cons_self] at hsign
    cases hsign
  unfold readInt?
  rw [trimMargins_of_digits hs]
  split
  · exact absurd rfl (hsign '-' rfl _)
  · exact absurd rfl (hsign '+' rfl _)
  · rw [dropBaseMark_ten, digits?_of_digits hne hs]
    rfl

theorem decimalCount_le_length (s : List Char) : decimalCount s ≤ s.length := List.length_filter_le _ _

theorem pow_le_ofDigitChars (hc : c.isDigit = true) (hzero : c ≠ '0') :
    Nat.pow 10 s.length ≤ Nat.ofDigitChars 10 (c :: s) 0 := by
  have hvalue : 0 < c.toNat - '0'.toNat := by
    obtain ⟨hlow, -⟩ := isDigit_iff.mp hc
    have hne : c.toNat ≠ '0'.toNat := mt Char.toNat_inj.mp hzero
    exact Nat.sub_pos_of_lt (Nat.lt_of_le_of_ne hlow hne.symm)
  rw [Nat.ofDigitChars_cons, Nat.mul_zero, Nat.zero_add, Nat.ofDigitChars_eq_ofDigitChars_zero]
  exact Nat.le_add_right_of_le (Nat.le_mul_of_pos_right _ hvalue)

theorem head?_toDigits {n : ℕ} (hn : 0 < n) : (Nat.toDigits 10 n).head? ≠ some '0' := by
  induction n using Nat.strongRecOn with
  | ind n ih =>
    rw [Nat.toDigits_eq_if (by decide)]
    split
    · simpa using Nat.ne_of_gt hn
    · rw [List.head?_append_of_ne_nil _ Nat.toDigits_ne_nil]
      exact ih _ (by omega) (by omega)

end Digits

section Pieces

variable {sep : Char}

theorem notMem_of_mem_pieces {s piece : List Char} (h : piece ∈ pieces sep s) : sep ∉ piece := by
  induction s generalizing piece with
  | nil =>
    rw [List.mem_singleton.mp h]
    exact List.not_mem_nil
  | cons c s ih =>
    rw [pieces] at h
    split at h
    · rcases List.mem_cons.mp h with rfl | h
      · exact List.not_mem_nil
      · exact ih h
    · rename_i hc
      split at h
      · rw [List.mem_singleton.mp h]
        simpa using Ne.symm hc
      · rename_i first more heq
        rw [heq] at ih
        rcases List.mem_cons.mp h with rfl | h
        · simpa using ⟨Ne.symm hc, ih List.mem_cons_self⟩
        · exact ih (List.mem_cons_of_mem _ h)

theorem pieces_intercalate {parts : List (List Char)} (hne : parts ≠ []) (h : ∀ s ∈ parts, sep ∉ s) :
    pieces sep ([sep].intercalate parts) = parts := by
  rw [pieces_eq_splitOn, List.splitOn_intercalate sep h hne]

end Pieces

end Text

namespace Pointer

section Escapes

def restore (mark c : Char) : List Char → List Char
  | '~' :: d :: rest => if d = mark then c :: restore mark c rest else '~' :: restore mark c (d :: rest)
  | d :: rest => d :: restore mark c rest
  | [] => []

def decoded (segment : List Char) : List Char := restore '0' '~' (restore '1' '/' segment)

def escapeTildes (s : List Char) : List Char := s.flatMap fun c => if c = '~' then ['~', '0'] else [c]

def escapeSlashes (s : List Char) : List Char := s.flatMap fun c => if c = '/' then ['~', '1'] else [c]

def escape (s : List Char) : List Char := escapeSlashes (escapeTildes s)

variable {mark c d : Char} {s rest : List Char}

theorem restore_cons (hd : d ≠ '~') : restore mark c (d :: rest) = d :: restore mark c rest := by
  rw [restore]
  intro d' rest' heq _
  exact hd heq

theorem restore_tilde : restore mark c ('~' :: mark :: rest) = c :: restore mark c rest := by
  rw [restore, if_pos rfl]

theorem restore_other (hd : d ≠ mark) : restore mark c ('~' :: d :: rest) = '~' :: restore mark c (d :: rest) := by
  rw [restore, if_neg hd]

theorem restore_escapeTildes (s : List Char) : restore '0' '~' (escapeTildes s) = s := by
  induction s with
  | nil => rfl
  | cons c s ih =>
    rw [escapeTildes, List.flatMap_cons, ← escapeTildes]
    split
    · rename_i hc
      rw [List.cons_append, List.singleton_append, restore_tilde, ih, hc]
    · rename_i hc
      rw [List.singleton_append, restore_cons hc, ih]

theorem restore_escapeSlashes (s : List Char) : restore '1' '/' (escape s) = escapeTildes s := by
  induction s with
  | nil => rfl
  | cons c s ih =>
    rw [escapeTildes, List.flatMap_cons, ← escapeTildes, ← ih]
    by_cases htilde : c = '~'
    · subst htilde
      have hescape : escape ('~' :: s) = '~' :: '0' :: escape s := rfl
      rw [hescape, restore_other (by decide), restore_cons (by decide)]
      rfl
    · rw [if_neg htilde, List.singleton_append]
      by_cases hslash : c = '/'
      · subst hslash
        exact restore_tilde
      · have hescape : escape (c :: s) = c :: escape s := by
          simp [escape, escapeTildes, escapeSlashes, htilde, hslash]
        rw [hescape, restore_cons htilde]

theorem decoded_escape (s : List Char) : decoded (escape s) = s := by
  rw [decoded, restore_escapeSlashes, restore_escapeTildes]

theorem slash_notMem_escape (s : List Char) : '/' ∉ escape s := by
  intro h
  obtain ⟨c, -, hc⟩ := List.mem_flatMap.mp h
  split at hc
  · simp at hc
  · rename_i hne
    exact hne (List.mem_singleton.mp hc).symm

theorem decoded_of_notMem (h : '~' ∉ s) : decoded s = s := by
  have hrestore (mark c : Char) : restore mark c s = s := by
    induction s with
    | nil => rfl
    | cons d s ih =>
      rw [List.mem_cons, not_or] at h
      rw [restore_cons (Ne.symm h.1), ih h.2]
  rw [decoded, hrestore, hrestore]

theorem head?_restore (s : List Char) (h : s.head? ≠ some '0') : (restore '1' '/' s).head? ≠ some '0' := by
  induction s using restore.induct '1' with
  | case1 rest ih =>
    rw [restore_tilde]
    simp
  | case2 d rest hd ih =>
    rw [restore_other hd]
    simp
  | case3 d rest hd ih =>
    rw [restore]
    · exact h
    · exact hd
  | case4 => exact h

theorem decoded_cons (hslash : ∀ rest', c = '~' → rest = '1' :: rest' → False)
    (htilde : ∀ rest', c = '~' → rest = '0' :: rest' → False) : decoded (c :: rest) = c :: decoded rest := by
  by_cases hc : c = '~'
  · subst hc
    cases rest with
    | nil => rfl
    | cons d rest =>
      have hd : d ≠ '1' := fun hd => hslash rest rfl (hd ▸ rfl)
      have hhead : (restore '1' '/' (d :: rest)).head? ≠ some '0' := head?_restore _ fun hd =>
        htilde rest rfl (by rw [List.head?_cons, Option.some.injEq] at hd; rw [hd])
      rw [decoded, decoded, restore_other hd]
      cases hrest : restore '1' '/' (d :: rest) with
      | nil => rfl
      | cons e rest' =>
        rw [hrest] at hhead
        exact restore_other fun he => hhead (congrArg some he)
  · rw [decoded, restore_cons hc, restore_cons hc, decoded]

theorem unescape_eq_decoded (s : List Char) : unescape s = decoded s := by
  induction s using unescape.induct with
  | case1 => rfl
  | case2 rest ih =>
    rw [unescape, ih]
    unfold decoded
    rw [restore_tilde, restore_cons (by decide)]
  | case3 rest ih =>
    have hzero : '0' ≠ '~' := by decide
    rw [unescape, ih]
    unfold decoded
    rw [restore_other (by decide), restore_cons hzero, restore_tilde]
  | case4 c rest hslash htilde ih =>
    rw [unescape, ih, decoded_cons hslash htilde]
    · exact hslash
    · exact htilde

end Escapes

end Pointer

end ClientForge
