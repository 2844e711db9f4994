import ClientForge.Proofs.Literals
import ClientForge.Text.Quoted
import Mathlib.Data.List.DropRight

namespace ClientForge

namespace Text

theorem lines_cons_eq (c : Char) (s : List Char) : lines (c :: s) =
    if isLineBreak c = true then if c = '\r' ∧ s.head? = some '\n' then lines s else [] :: lines s
    else (c :: (lines s).headD []) :: (lines s).tail := by
  by_cases hfeed : c = '\r' ∧ s.head? = some '\n'
  · obtain ⟨rfl, hhead⟩ := hfeed
    obtain ⟨rest, rfl⟩ := List.head?_eq_some_iff.mp hhead
    rw [lines, lines, if_pos (by decide)]
    · rfl
    · rintro rest ⟨⟩
  · rw [if_neg hfeed, lines]
    · cases lines s <;> rfl
    · rintro rest rfl rfl
      exact hfeed ⟨rfl, rfl⟩

theorem lines_feed (s : List Char) : lines ('\n' :: s) = [] :: lines s := by
  rw [lines_cons_eq, if_pos (by decide), if_neg (by simp)]

theorem lines_cons {c : Char} (h : isLineBreak c = false) (s : List Char) :
    lines (c :: s) = (c :: (lines s).headD []) :: (lines s).tail := by
  rw [lines_cons_eq, if_neg (by simp [h])]

theorem lines_ne_nil {s : List Char} (h : s ≠ []) : lines s ≠ [] := by
  induction s with
  | nil => exact absurd rfl h
  | cons c s ih =>
    rw [lines_cons_eq]
    split_ifs with hbreak hfeed
    · exact ih (by rintro rfl; cases hfeed.2)
    · simp
    · simp

theorem stripEnd_cons (c : Char) (s : List Char) :
    stripEnd (c :: s) = if stripEnd s = [] ∧ isBlank c = true then [] else c :: stripEnd s := by
  unfold stripEnd
  rw [List.reverse_cons, List.dropWhile_append]
  by_cases hs : s.reverse.dropWhile isBlank = []
  · by_cases hc : isBlank c = true <;> simp [hs, hc]
  · simp [hs]

theorem stripEnd_visible {c : Char} (h : isBlank c = false) (s : List Char) : stripEnd (c :: s) = c :: stripEnd s := by
  rw [stripEnd_cons, if_neg (by simp [h])]

def finalSlashes (s : List Char) : ℕ := (s.reverse.takeWhile (· = '\\')).length

theorem finalSlashes_append (a : List Char) {c : Char} (h : c ≠ '\\') (s : List Char) :
    finalSlashes (a ++ c :: s) = finalSlashes s := by
  rw [finalSlashes, List.reverse_append, List.reverse_cons, List.append_assoc, List.takeWhile_append]
  split
  · rename_i hall
    simp [h, hall, finalSlashes]
  · rfl

theorem finalSlashes_slashes (s : List Char) : finalSlashes ('\\' :: '\\' :: s) % 2 = finalSlashes s % 2 := by
  rw [finalSlashes, List.reverse_cons, List.reverse_cons, List.append_assoc, List.takeWhile_append]
  split
  · rename_i hall
    simp [hall, finalSlashes]
  · rfl

/-- Text that stands in a block between three quotes: each backslash escapes a backslash or a quote, and no three
other quotes follow each other. The numbers are those of such quotes right before the text and at its end. -/
inductive Blocked : ℕ → List Char → ℕ → Prop
  | nil (n : ℕ) : Blocked n [] n
  | plain {n m : ℕ} {c : Char} {s : List Char} (hslash : c ≠ '\\') (hquote : c ≠ '"') (h : Blocked 0 s m) :
    Blocked n (c :: s) m
  | escaped {n m : ℕ} {c : Char} {s : List Char} (hc : c = '\\' ∨ c = '"') (h : Blocked 0 s m) :
    Blocked n ('\\' :: c :: s) m
  | quote {n m : ℕ} {s : List Char} (hn : n < 2) (h : Blocked (n + 1) s m) : Blocked n ('"' :: s) m

namespace Blocked

variable {n m k : ℕ} {c : Char} {a b s : List Char}

theorem append (ha : Blocked n a m) (hb : Blocked m b k) : Blocked n (a ++ b) k := by
  induction ha with
  | nil => exact hb
  | plain hslash hquote _ ih => exact .plain hslash hquote (ih hb)
  | escaped hc _ ih => exact .escaped hc (ih hb)
  | quote hn _ ih => exact .quote hn (ih hb)

theorem isPlain_of_isBlank {c : Char} (h : isBlank c = true) : c ≠ '\\' ∧ c ≠ '"' := by
  constructor <;> rintro rfl <;> cases h

theorem blanks_append {blanks : List Char} (h : Blocked 0 s m) (hblanks : ∀ b ∈ blanks, isBlank b = true) :
    Blocked 0 (blanks ++ s) m := by
  induction blanks with
  | nil => exact h
  | cons b blanks ih =>
    obtain ⟨hb, hblanks⟩ := List.forall_mem_cons.mp hblanks
    exact .plain (isPlain_of_isBlank hb).1 (isPlain_of_isBlank hb).2 (ih hblanks)

theorem stripEnd (h : Blocked n s m) : ∃ k, Blocked n (stripEnd s) k := by
  induction h with
  | nil n => exact ⟨n, .nil n⟩
  | plain hslash hquote _ ih =>
    obtain ⟨k, hk⟩ := ih
    rw [stripEnd_cons]
    split
    · exact ⟨_, .nil _⟩
    · exact ⟨k, .plain hslash hquote hk⟩
  | @escaped n m c s hc _ ih =>
    obtain ⟨k, hk⟩ := ih
    have hvisible : isBlank c = false := by rcases hc with rfl | rfl <;> rfl
    rw [stripEnd_visible (by rfl), stripEnd_visible hvisible]
    exact ⟨k, .escaped hc hk⟩
  | quote hn _ ih =>
    obtain ⟨k, hk⟩ := ih
    rw [stripEnd_visible (by rfl)]
    exact ⟨k, .quote hn hk⟩

theorem of_feed (h : Blocked n (c :: s) m) (hbreak : isLineBreak c = true) : Blocked 0 s m := by
  cases h with
  | plain _ _ h => exact h
  | escaped => cases hbreak
  | quote => cases hbreak

theorem feed (h : Blocked 0 s m) : Blocked n ('\n' :: s) m := .plain (by decide) (by decide) h

theorem of_lines (h : Blocked n s m) :
    (∃ k, Blocked n ((lines s).headD []) k) ∧ ∀ l ∈ (lines s).tail, ∃ k, Blocked 0 l k := by
  induction h with
  | nil n => exact ⟨⟨n, .nil n⟩, by simp [lines]⟩
  | @plain n m c s hslash hquote _ ih =>
    obtain ⟨⟨k, hk⟩, htail⟩ := ih
    rw [lines_cons_eq]
    split_ifs with hbreak hfeed
    · obtain ⟨rest, rfl⟩ := List.head?_eq_some_iff.mp hfeed.2
      refine ⟨⟨n, ?_⟩, htail⟩
      rw [lines_feed]
      exact .nil n
    · refine ⟨⟨n, .nil n⟩, fun l hl => ?_⟩
      match hs : lines s with
      | [] => simp [hs] at hl
      | line :: more =>
        rw [hs] at hk htail hl
        rcases List.mem_cons.mp hl with rfl | hl
        · exact ⟨k, hk⟩
        · exact htail l hl
    · exact ⟨⟨k, .plain hslash hquote hk⟩, htail⟩
  | @escaped n m c s hc _ ih =>
    obtain ⟨⟨k, hk⟩, htail⟩ := ih
    have hplain : isLineBreak c = false := by rcases hc with rfl | rfl <;> rfl
    rw [lines_cons (by rfl), lines_cons hplain]
    exact ⟨⟨k, .escaped hc hk⟩, htail⟩
  | @quote n m s hn _ ih =>
    obtain ⟨⟨k, hk⟩, htail⟩ := ih
    rw [lines_cons (by rfl)]
    exact ⟨⟨k, .quote hn hk⟩, htail⟩

theorem of_mem_lines (h : Blocked 0 s m) {line : List Char} (hline : line ∈ lines s) : ∃ k, Blocked 0 line k := by
  obtain ⟨hhead, htail⟩ := h.of_lines
  match hs : lines s with
  | [] => simp [hs] at hline
  | first :: more =>
    rw [hs] at hhead htail hline
    rcases List.mem_cons.mp hline with rfl | hline
    · exact hhead
    · exact htail line hline

theorem of_joined {ls : List (List Char)} (h : ∀ l ∈ ls, ∃ k, Blocked 0 l k) :
    Blocked 0 (['\n'].intercalate ls ++ ['\n']) 0 := by
  induction ls with
  | nil => exact .feed (.nil 0)
  | cons l ls ih =>
    obtain ⟨⟨k, hk⟩, hls⟩ := List.forall_mem_cons.mp h
    cases ls with
    | nil =>
      rw [List.intercalate_singleton]
      exact hk.append (.feed (.nil 0))
    | cons l' ls =>
      rw [List.intercalate_cons_cons, List.append_assoc, List.append_assoc]
      exact hk.append (.feed (ih hls))

theorem of_append_quote (h : Blocked n (s ++ ['"']) m) :
    finalSlashes s % 2 = 1 ∧ m = 0 ∨ finalSlashes s % 2 = 0 ∧ ∃ k, Blocked n s k := by
  -- Only a backslash that escapes the last quote takes a step with it; all others stand in front of it.
  generalize ht : s ++ ['"'] = t at h
  induction h generalizing s with
  | nil n => simp at ht
  | @plain n m c t hslash hquote _ ih =>
    cases s with
    | nil => exact absurd (List.cons.inj ht).1.symm hquote
    | cons d s =>
      simp only [List.cons_append, List.cons.injEq] at ht
      obtain ⟨rfl, ht⟩ := ht
      rw [← List.nil_append (d :: s), finalSlashes_append [] hslash]
      exact (ih ht).imp_right fun ⟨heven, k, hk⟩ => ⟨heven, k, .plain hslash hquote hk⟩
  | @escaped n m c t hc h ih =>
    match s with
    | [] => cases (List.cons.inj ht).1
    | [d] =>
      simp only [List.cons_append, List.nil_append, List.cons.injEq] at ht
      obtain ⟨rfl, -, rfl⟩ := ht
      cases h
      exact .inl ⟨rfl, rfl⟩
    | d :: e :: s =>
      simp only [List.cons_append, List.cons.injEq] at ht
      obtain ⟨rfl, rfl, ht⟩ := ht
      have hsame : finalSlashes ('\\' :: e :: s) % 2 = finalSlashes s % 2 := by
        rcases hc with rfl | rfl
        · exact finalSlashes_slashes s
        · exact congrArg (· % 2) (finalSlashes_append ['\\'] (by decide) s)
      rw [hsame]
      exact (ih ht).imp_right fun ⟨heven, k, hk⟩ => ⟨heven, k, .escaped hc hk⟩
  | @quote n m t hn _ ih =>
    cases s with
    | nil => exact .inr ⟨rfl, n, .nil n⟩
    | cons d s =>
      simp only [List.cons_append, List.cons.injEq] at ht
      obtain ⟨rfl, ht⟩ := ht
      rw [← List.nil_append ('"' :: s), finalSlashes_append [] (by decide)]
      exact (ih ht).imp_right fun ⟨heven, k, hk⟩ => ⟨heven, k, .quote hn hk⟩

theorem getLast?_of_pos (h : Blocked n s m) (hm : m ≠ 0) : s = [] ∧ m = n ∨ s.getLast? = some '"' := by
  have hcons {c : Char} {s : List Char} (h : s = [] ∧ m = 0 ∨ s.getLast? = some '"') :
      (c :: s).getLast? = some '"' := by
    rcases h with ⟨-, hzero⟩ | hlast
    · exact absurd hzero hm
    · rw [List.getLast?_cons, hlast, Option.getD_some]
  induction h with
  | nil => exact .inl ⟨rfl, rfl⟩
  | plain _ _ _ ih => exact .inr (hcons (ih hm hcons))
  | escaped _ _ ih => exact .inr (by rw [List.getLast?_cons, hcons (ih hm hcons), Option.getD_some])
  | quote _ _ ih =>
    rcases ih hm hcons with ⟨rfl, -⟩ | hlast
    · exact .inr rfl
    · exact .inr (hcons (.inr hlast))

theorem escapeFinalQuote (h : Blocked 0 s m) : Blocked 0 (escapeFinalQuote s) 0 := by
  unfold Text.escapeFinalQuote
  split
  · rename_i body hbody
    have hs : s = body.reverse ++ ['"'] := by rw [← List.reverse_reverse s, hbody, List.reverse_cons]
    have hend := of_append_quote (hs ▸ h)
    rw [finalSlashes, List.reverse_reverse] at hend
    rcases hend with ⟨hodd, rfl⟩ | ⟨heven, k, hk⟩
    · rw [if_pos hodd]
      exact h
    · rw [if_neg (by omega)]
      exact hk.append (.escaped (.inr rfl) (.nil 0))
  · rename_i hlast
    by_cases hm : m = 0
    · exact hm ▸ h
    · rcases h.getLast?_of_pos hm with ⟨-, hzero⟩ | hquote
      · exact absurd hzero hm
      · obtain ⟨body, rfl⟩ := List.getLast?_eq_some_iff.mp hquote
        exact (hlast body.reverse (by simp)).elim

end Blocked

theorem escapeTripleQuotes_cons {c : Char} {s : List Char} (h : ∀ rest, c = '"' → s ≠ '"' :: '"' :: rest) :
    escapeTripleQuotes (c :: s) = c :: escapeTripleQuotes s := by
  rw [escapeTripleQuotes]
  rintro rest rfl hs
  exact h rest rfl hs

theorem doubleBackslashes_cons {c : Char} (h : c ≠ '\\') (s : List Char) :
    doubleBackslashes (c :: s) = c :: doubleBackslashes s := by
  simp [doubleBackslashes, h]

theorem eq_quote_of_doubled {s rest : List Char} (h : doubleBackslashes s = '"' :: rest) :
    ∃ more, s = '"' :: more ∧ doubleBackslashes more = rest := by
  cases s with
  | nil => cases h
  | cons c s =>
    by_cases hslash : c = '\\'
    · subst hslash
      cases h
    · rw [doubleBackslashes_cons hslash] at h
      obtain ⟨rfl, rfl⟩ := List.cons.inj h
      exact ⟨s, rfl, rfl⟩

theorem escaped_cons (c : Char) (s : List Char) :
    c = '\\' ∧ escapeTripleQuotes (doubleBackslashes (c :: s)) =
        '\\' :: '\\' :: escapeTripleQuotes (doubleBackslashes s) ∨
      (∃ rest, c :: s = '"' :: '"' :: '"' :: rest ∧ escapeTripleQuotes (doubleBackslashes (c :: s)) =
        '\\' :: '"' :: '\\' :: '"' :: '\\' :: '"' :: escapeTripleQuotes (doubleBackslashes rest)) ∨
      c ≠ '\\' ∧ (∀ rest, c :: s ≠ '"' :: '"' :: '"' :: rest) ∧
        escapeTripleQuotes (doubleBackslashes (c :: s)) = c :: escapeTripleQuotes (doubleBackslashes s) := by
  by_cases hslash : c = '\\'
  · subst hslash
    have hpair : doubleBackslashes ('\\' :: s) = '\\' :: '\\' :: doubleBackslashes s := rfl
    rw [hpair, escapeTripleQuotes_cons (by rintro rest ⟨⟩), escapeTripleQuotes_cons (by rintro rest ⟨⟩)]
    exact .inl ⟨rfl, rfl⟩
  by_cases htriple : ∃ rest, c :: s = '"' :: '"' :: '"' :: rest
  · obtain ⟨rest, heq⟩ := htriple
    refine .inr (.inl ⟨rest, heq, ?_⟩)
    rw [heq, doubleBackslashes_cons (by decide), doubleBackslashes_cons (by decide), doubleBackslashes_cons (by decide),
      escapeTripleQuotes]
  · refine .inr (.inr ⟨hslash, not_exists.mp htriple, ?_⟩)
    rw [doubleBackslashes_cons hslash, escapeTripleQuotes_cons]
    rintro rest rfl heq
    obtain ⟨more, rfl, hmore⟩ := eq_quote_of_doubled heq
    obtain ⟨more', rfl, -⟩ := eq_quote_of_doubled hmore
    exact htriple ⟨more', rfl⟩

theorem blocked_escaped (s : List Char) (n : ℕ) (h : n = 0 ∨ n + (s.takeWhile (· = '"')).length ≤ 2) :
    ∃ m, Blocked n (escapeTripleQuotes (doubleBackslashes s)) m := by
  induction hlength : s.length using Nat.strong_induction_on generalizing s n with
  | h length ih =>
    subst hlength
    cases s with
    | nil => exact ⟨n, .nil n⟩
    | cons c s =>
      rcases escaped_cons c s with ⟨rfl, heq⟩ | ⟨rest, hs, heq⟩ | ⟨hslash, hsingle, heq⟩
      · obtain ⟨m, hm⟩ := ih s.length (by simp) s 0 (.inl rfl) rfl
        exact ⟨m, heq ▸ .escaped (.inl rfl) hm⟩
      · obtain ⟨m, hm⟩ := ih rest.length (by simp only [hs, List.length_cons]; omega) rest 0 (.inl rfl) rfl
        exact ⟨m, heq ▸ .escaped (.inr rfl) (.escaped (.inr rfl) (.escaped (.inr rfl) hm))⟩
      rw [heq]
      by_cases hquote : c = '"'
      · subst hquote
        have hcount : (s.takeWhile (· = '"')).length ≤ 1 := by
          match s with
          | [] => simp
          | [d] => exact (List.takeWhile_prefix _).length_le
          | d :: e :: s =>
            by_cases hd : d = '"'
            · have he : e ≠ '"' := fun he => hsingle s (by rw [hd, he])
              simp [hd, he]
            · simp [hd]
        rw [List.takeWhile_cons, if_pos (by decide), List.length_cons] at h
        obtain ⟨m, hm⟩ := ih s.length (by simp) s (n + 1) (.inr (by omega)) rfl
        exact ⟨m, .quote (by omega) hm⟩
      · obtain ⟨m, hm⟩ := ih s.length (by simp) s 0 (.inl rfl) rfl
        exact ⟨m, .plain hslash hquote hm⟩

theorem blocked_lines (s : List Char) :
    ∀ l ∈ (lines (escapeTripleQuotes (doubleBackslashes s))).map stripEnd, ∃ k, Blocked 0 l k := by
  obtain ⟨m, hm⟩ := blocked_escaped s 0 (.inl rfl)
  intro l hl
  obtain ⟨line, hline, rfl⟩ := List.mem_map.mp hl
  obtain ⟨k, hk⟩ := hm.of_mem_lines hline
  exact hk.stripEnd

theorem docstring_eq (s : List Char) :
    ∃ body, docstring s = tripleQuote ++ (body ++ tripleQuote) ∧ Blocked 0 body 0 := by
  have hlines := blocked_lines (strip s)
  unfold docstring
  split
  · rename_i line hone
    obtain ⟨k, hk⟩ := hlines line (by simp [hone])
    exact ⟨_, List.append_assoc _ _ _, hk.escapeFinalQuote⟩
  · refine ⟨_, ?_, .of_joined hlines⟩
    simp

def shifted (ls : List (List Char)) : List Char :=
  ls.headD [] ++ ls.tail.flatMap fun l => '\n' :: (if l.isEmpty then l else [' ', ' ', ' ', ' '] ++ l)

theorem intercalate_eq (a : List Char) (ls : List (List Char)) :
    ['\n'].intercalate (a :: ls) = a ++ ls.flatMap ('\n' :: ·) := by
  induction ls generalizing a with
  | nil => simp
  | cons l ls ih => rw [List.intercalate_cons_cons, ih, List.flatMap_cons, List.append_assoc]; rfl

theorem indentRest_eq (s : List Char) : indentRest s = shifted (lines (s ++ ['\n'])) := by
  unfold indentRest
  split
  · rename_i hnil
    exact absurd hnil (lines_ne_nil (by simp))
  · rename_i line more hlines
    rw [hlines, intercalate_eq, List.flatMap_map]
    rfl

theorem indentRest_cons {c : Char} (h : isLineBreak c = false) (s : List Char) :
    indentRest (c :: s) = c :: indentRest s := by
  rw [indentRest_eq, List.cons_append, lines_cons h, indentRest_eq]
  rfl

theorem indentRest_break {c : Char} (h : isLineBreak c = true) (s : List Char) :
    (∃ blanks, (∀ b ∈ blanks, b = ' ') ∧ indentRest (c :: s) = '\n' :: (blanks ++ indentRest s)) ∨
      c = '\r' ∧ (∀ d ∈ s.head?, d = '\n') ∧ indentRest (c :: s) = indentRest s := by
  rw [indentRest_eq, indentRest_eq, List.cons_append, lines_cons_eq, if_pos h]
  split_ifs with hfeed
  · refine .inr ⟨hfeed.1, ?_, rfl⟩
    cases s with
    | nil => simp
    | cons d s => simpa using hfeed.2
  · obtain ⟨l, ls, hls⟩ := List.exists_cons_of_ne_nil (lines_ne_nil (s := s ++ ['\n']) (by simp))
    refine .inl ⟨if l = [] then [] else [' ', ' ', ' ', ' '], by split <;> simp, ?_⟩
    rw [hls]
    by_cases hempty : l = [] <;> simp [shifted, hempty]

theorem indentRest_block {n m : ℕ} {s : List Char} (h : Blocked n s m) :
    ∃ body, indentRest (s ++ tripleQuote) = body ++ tripleQuote ∧ Blocked n body m := by
  induction h with
  | nil n => exact ⟨[], rfl, .nil n⟩
  | @plain n m c s hslash hquote _ ih =>
    obtain ⟨body, hbody, hblocked⟩ := ih
    rw [List.cons_append]
    by_cases hbreak : isLineBreak c = true
    · rcases indentRest_break hbreak (s ++ tripleQuote) with ⟨blanks, hblanks, heq⟩ | ⟨-, hhead, heq⟩
      · refine ⟨'\n' :: (blanks ++ body), by rw [heq, hbody]; simp, .feed ?_⟩
        exact hblocked.blanks_append fun b hb => hblanks b hb ▸ rfl
      · -- The carriage return goes, and the line feed behind it ends the line.
        refine ⟨body, heq.trans hbody, ?_⟩
        obtain ⟨s, rfl⟩ : ∃ rest, s = '\n' :: rest := by
          cases s with
          | nil => cases hhead '"' rfl
          | cons d s => exact ⟨s, by rw [hhead d rfl]⟩
        rw [List.cons_append] at hbody
        rcases indentRest_break (c := '\n') rfl (s ++ tripleQuote) with ⟨blanks, -, hfeed⟩ | ⟨hreturn, -⟩
        · rw [hfeed] at hbody
          cases body with
          | nil => cases hbody
          | cons d body =>
            cases (List.cons.inj hbody).1
            exact .feed (hblocked.of_feed rfl)
        · cases hreturn
    · refine ⟨c :: body, ?_, .plain hslash hquote hblocked⟩
      rw [indentRest_cons (by simpa using hbreak), hbody, List.cons_append]
  | @escaped n m c s hc _ ih =>
    obtain ⟨body, hbody, hblocked⟩ := ih
    have hplain : isLineBreak c = false := by rcases hc with rfl | rfl <;> rfl
    refine ⟨'\\' :: c :: body, ?_, .escaped hc hblocked⟩
    rw [List.cons_append, List.cons_append, indentRest_cons (by rfl), indentRest_cons hplain, hbody]
    rfl
  | @quote n m s hn _ ih =>
    obtain ⟨body, hbody, hblocked⟩ := ih
    refine ⟨'"' :: body, ?_, .quote hn hblocked⟩
    rw [List.cons_append, indentRest_cons (by rfl), hbody, List.cons_append]

theorem indentRest_docstring (s : List Char) :
    ∃ body, indentRest (docstring s) = tripleQuote ++ (body ++ tripleQuote) ∧ Blocked 0 body 0 := by
  obtain ⟨body, hbody, hblocked⟩ := docstring_eq s
  obtain ⟨body', hbody', hblocked'⟩ := indentRest_block hblocked
  refine ⟨body', ?_, hblocked'⟩
  have hquote : isLineBreak '"' = false := rfl
  rw [hbody, tripleQuote, List.cons_append, List.cons_append, List.cons_append, List.nil_append,
    indentRest_cons hquote, indentRest_cons hquote, indentRest_cons hquote, ← tripleQuote, hbody']
  rfl

end Text

open CodeReader Text

theorem read_blocked {brackets : List OpenBracket} {done : List Token} {n m : ℕ} {s : List Char} (h : Blocked n s m) :
    read ⟨brackets, done, .block .double n false⟩ s = ⟨brackets, done, .block .double m false⟩ := by
  induction h with
  | nil => rfl
  | @plain n m c s hslash hquote _ ih =>
    have hstep : step ⟨brackets, done, .block .double n false⟩ c = ⟨brackets, done, .block .double 0 false⟩ := by
      simp [step, stepBlock, hslash, hquote, Quote.char]
    rw [read_cons, hstep, ih]
  | escaped _ _ ih => exact ih
  | @quote n m s hn _ ih =>
    have hstep : step ⟨brackets, done, .block .double n false⟩ '"' =
        ⟨brackets, done, .block .double (n + 1) false⟩ := by
      simp [step, stepBlock, Quote.char, (Nat.ne_of_lt hn)]
    rw [read_cons, hstep, ih]

theorem closed_docstring (s : String) : Closed s.docstring.indentRest [.literal] := by
  intro brackets done
  obtain ⟨body, hbody, hblocked⟩ := indentRest_docstring s.toList
  have hopen : read (between brackets done) tripleQuote = ⟨brackets, done, .block .double 0 false⟩ := rfl
  rw [String.indentRest, String.docstring, String.toList_ofList, String.toList_ofList, hbody, read_append, hopen,
    read_append, read_blocked hblocked]
  rfl

end ClientForge
