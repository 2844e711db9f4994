import ClientForge.Proofs.Docstrings
import ClientForge.Proofs.LiteralValues

/-!
What documentation blocks stand for: the lines of the text that they are made of.
-/

namespace ClientForge

namespace Text

def documented (s : List Char) : List Char :=
  let ls := (lines (strip s)).map stripEnd
  ['\n'].intercalate ls ++ if ls.length = 1 then [] else ['\n']

/-- `StandsFor e s` if `e` is the text `s`, in which any backslash and some quotes are escaped. -/
inductive StandsFor : List Char → List Char → Prop
  | nil : StandsFor [] []
  | plain {c : Char} {e s : List Char} (hslash : c ≠ '\\') (h : StandsFor e s) : StandsFor (c :: e) (c :: s)
  | escaped {c : Char} {e s : List Char} (hc : c = '\\' ∨ c = '"') (h : StandsFor e s) :
    StandsFor ('\\' :: c :: e) (c :: s)

namespace StandsFor

variable {n m : ℕ} {e e' s s' : List Char}

theorem append (h : StandsFor e s) (h' : StandsFor e' s') : StandsFor (e ++ e') (s ++ s') := by
  induction h with
  | nil => exact h'
  | plain hslash _ ih => exact .plain hslash ih
  | escaped hc _ ih => exact .escaped hc ih

theorem unique (h : StandsFor e s) (h' : StandsFor e s') : s = s' := by
  induction h generalizing s' with
  | nil =>
    cases h'
    rfl
  | plain hslash _ ih =>
    cases h' with
    | plain _ h' => rw [ih h']
    | escaped => exact absurd rfl hslash
  | escaped _ _ ih =>
    cases h' with
    | plain hslash => exact absurd rfl hslash
    | escaped _ h' => rw [ih h']

theorem exists_of_blocked (h : Blocked n e m) : ∃ s, StandsFor e s := by
  induction h with
  | nil => exact ⟨[], .nil⟩
  | plain hslash _ _ ih => exact ih.imp' (_ :: ·) fun _ => .plain hslash
  | escaped hc _ ih => exact ih.imp' (_ :: ·) fun _ => .escaped hc
  | quote _ _ ih => exact ih.imp' ('"' :: ·) fun _ => .plain (by decide)

theorem contentValue?_eq (h : StandsFor e s) : contentValue? none e = some (s.map codePoint) := by
  have hread (value : List CodePoint) :
      LiteralReader.read none ⟨value, .text⟩ e = some ⟨value ++ s.map codePoint, .text⟩ := by
    induction h generalizing value with
    | nil => simp [LiteralReader.read]
    | @plain c e s hslash _ ih =>
      have hc : LiteralReader.step none ⟨value, .text⟩ c = some ⟨value ++ [codePoint c], .text⟩ := by
        simp [LiteralReader.step, hslash, LiteralReader.add]
      rw [LiteralReader.read_cons, hc, Option.bind_some, ih, List.append_assoc, List.map_cons, List.singleton_append]
    | @escaped c e s hc _ ih =>
      have hstep : LiteralReader.read none ⟨value, .text⟩ ['\\', c] = some ⟨value ++ [codePoint c], .text⟩ := by
        rcases hc with rfl | rfl <;> rfl
      refine (LiteralReader.read_append ⟨value, .text⟩ ['\\', c] e).trans ?_
      rw [hstep, Option.bind_some, ih, List.append_assoc, List.map_cons, List.singleton_append]
  rw [contentValue?, hread]
  rfl

theorem escapes (s : List Char) : StandsFor (escapeTripleQuotes (doubleBackslashes s)) s := by
  induction hlength : s.length using Nat.strong_induction_on generalizing s with
  | h length ih =>
    subst hlength
    cases s with
    | nil => exact .nil
    | cons c s =>
      rcases escaped_cons c s with ⟨rfl, heq⟩ | ⟨rest, hs, heq⟩ | ⟨hslash, -, heq⟩
      · exact heq ▸ .escaped (.inl rfl) (ih s.length (by simp) s rfl)
      · have hrest := ih rest.length (by simp only [hs, List.length_cons]; omega) rest rfl
        rw [heq, hs]
        exact .escaped (.inr rfl) (.escaped (.inr rfl) (.escaped (.inr rfl) hrest))
      · exact heq ▸ .plain hslash (ih s.length (by simp) s rfl)

theorem head?_feed (h : StandsFor e s) : e.head? = some '\n' ↔ s.head? = some '\n' := by
  cases h with
  | nil => rfl
  | plain => rfl
  | escaped hc => rcases hc with rfl | rfl <;> simp

theorem lines (h : StandsFor e s) : List.Forall₂ StandsFor (lines e) (lines s) := by
  have hparts {ls ls' : List (List Char)} (h : List.Forall₂ StandsFor ls ls') :
      StandsFor (ls.headD []) (ls'.headD []) ∧ List.Forall₂ StandsFor ls.tail ls'.tail := by
    cases h with
    | nil => exact ⟨.nil, .nil⟩
    | cons hhead htail => exact ⟨hhead, htail⟩
  induction h with
  | nil => exact .nil
  | @plain c e s hslash h ih =>
    obtain ⟨hhead, htail⟩ := hparts ih
    simp only [lines_cons_eq, h.head?_feed]
    split_ifs
    · exact ih
    · exact .cons .nil ih
    · exact .cons (.plain hslash hhead) htail
  | @escaped c e s hc _ ih =>
    obtain ⟨hhead, htail⟩ := hparts ih
    have hplain : isLineBreak c = false := by rcases hc with rfl | rfl <;> rfl
    rw [lines_cons (by rfl), lines_cons hplain, lines_cons hplain]
    exact .cons (.escaped hc hhead) htail

theorem stripEnd (h : StandsFor e s) : StandsFor (stripEnd e) (stripEnd s) := by
  have hnil {e s : List Char} (h : StandsFor e s) : e = [] ↔ s = [] := by cases h <;> simp
  induction h with
  | nil => exact .nil
  | plain hslash _ ih =>
    simp only [stripEnd_cons, hnil ih]
    split
    · exact .nil
    · exact .plain hslash ih
  | @escaped c e s hc _ ih =>
    have hvisible : isBlank c = false := by rcases hc with rfl | rfl <;> rfl
    rw [stripEnd_visible (by rfl), stripEnd_visible hvisible, stripEnd_visible hvisible]
    exact .escaped hc ih

theorem escapeFinalQuote (h : StandsFor e s) (hblocked : Blocked n e m) : StandsFor (escapeFinalQuote e) s := by
  unfold Text.escapeFinalQuote
  split
  · rename_i body hbody
    obtain rfl : e = body.reverse ++ ['"'] := by rw [← List.reverse_reverse e, hbody, List.reverse_cons]
    have hend := hblocked.of_append_quote
    rw [finalSlashes, List.reverse_reverse] at hend
    rcases hend with ⟨hodd, -⟩ | ⟨heven, k, hk⟩
    · rwa [if_pos hodd]
    · -- What stands before the quote is a block itself, and stands for one text only.
      obtain ⟨s', hs'⟩ := exists_of_blocked hk
      rw [if_neg (by omega), h.unique (hs'.append (.plain (by decide) .nil))]
      exact hs'.append (.escaped (.inr rfl) .nil)
  · exact h

theorem joined {ls ls' : List (List Char)} (h : List.Forall₂ StandsFor ls ls') :
    StandsFor (['\n'].intercalate ls) (['\n'].intercalate ls') := by
  induction h with
  | nil => exact .nil
  | @cons l l' ls ls' hl hls ih =>
    cases hls with
    | nil => simpa using hl
    | cons =>
      rw [List.intercalate_cons_cons, List.intercalate_cons_cons]
      exact (hl.append (.plain (by decide) .nil)).append ih

end StandsFor

theorem docstring_standsFor (s : List Char) : ∃ body, docstring s = tripleQuote ++ (body ++ tripleQuote) ∧
    Blocked 0 body 0 ∧ StandsFor body (documented s) := by
  obtain ⟨body, hbody, hblocked⟩ := docstring_eq s
  refine ⟨body, hbody, hblocked, ?_⟩
  have hlines : List.Forall₂ StandsFor ((lines (escapeTripleQuotes (doubleBackslashes (strip s)))).map stripEnd)
      ((lines (strip s)).map stripEnd) := by
    rw [List.forall₂_map_left_iff, List.forall₂_map_right_iff]
    exact (StandsFor.escapes (strip s)).lines.imp fun _ _ h => h.stripEnd
  have hplain := blocked_lines (strip s)
  unfold docstring at hbody
  rw [documented, ← hlines.length_eq]
  split at hbody
  · rename_i line hone
    rw [hone] at hlines hplain ⊢
    obtain ⟨l, ls, hline, hnone, hls⟩ := List.forall₂_cons_left_iff.mp hlines
    obtain rfl := List.forall₂_nil_left_iff.mp hnone
    obtain ⟨k, hk⟩ := hplain line (List.mem_singleton_self line)
    rw [List.append_assoc] at hbody
    rw [← List.append_cancel_right (List.append_cancel_left hbody), hls, if_pos List.length_singleton, List.append_nil,
      List.intercalate_singleton]
    exact hline.escapeFinalQuote hk
  · rename_i hseveral
    have hlength : ((lines (escapeTripleQuotes (doubleBackslashes (strip s)))).map stripEnd).length ≠ 1 := by
      rw [Ne, List.length_eq_one_iff]
      exact fun ⟨line, hone⟩ => hseveral line hone
    rw [List.append_assoc, List.append_cons] at hbody
    rw [← List.append_cancel_right (List.append_cancel_left hbody), if_neg hlength]
    exact (StandsFor.joined hlines).append (.plain (by decide) .nil)

theorem Blocked.not_triple {n m : ℕ} {s rest : List Char} (h : Blocked n s m) (hn : n ≤ 2) (hm : m = 0) (hs : s ≠ []) :
    ¬List.replicate (3 - n) '"' <+: s ++ rest := by
  have hhead {n : ℕ} {c : Char} {s : List Char} (hn : n ≤ 2) (hc : c ≠ '"') :
      ¬List.replicate (3 - n) '"' <+: c :: s := by
    obtain ⟨k, hk⟩ : ∃ k, 3 - n = k + 1 := ⟨2 - n, by omega⟩
    rw [hk, List.replicate_succ, List.cons_prefix_cons]
    exact fun hprefix => hc hprefix.1.symm
  induction h with
  | nil => exact absurd rfl hs
  | plain _ hquote _ _ => exact hhead hn hquote
  | escaped _ _ _ => exact hhead hn (by decide)
  | @quote n m s hless h ih =>
    have hcount : 3 - n = 3 - (n + 1) + 1 := by omega
    rw [hcount, List.replicate_succ, List.cons_append, List.cons_prefix_cons]
    cases s with
    | nil =>
      cases h
      cases hm
    | cons c s => exact fun hprefix => ih hless hm (by simp) hprefix.2

theorem splitAtQuotes_block {n m : ℕ} {s : List Char} (h : Blocked n s m) (hm : m = 0) :
    splitAtQuotes tripleQuote false (s ++ tripleQuote) = some (s, []) := by
  have hhead {c : Char} (hc : c ≠ '"') (s : List Char) : tripleQuote.isPrefixOf (c :: s) = false := by
    simp [tripleQuote, List.isPrefixOf, hc.symm]
  induction h with
  | nil => rfl
  | plain hslash hquote _ ih => exact splitAtQuotes_plain hslash (hhead hquote _) (ih hm)
  | escaped _ _ ih => exact splitAtQuotes_escaped (hhead (by decide) _) (ih hm)
  | @quote n m s hn h ih =>
    refine splitAtQuotes_plain (by decide) ?_ (ih hm)
    rw [Bool.eq_false_iff, Ne, List.isPrefixOf_iff_prefix]
    intro hprefix
    have hfewer : List.replicate (3 - n) '"' <+: tripleQuote := by
      rw [show tripleQuote = List.replicate (3 - n + n) '"' by rw [Nat.sub_add_cancel (by omega)]; rfl,
        ← List.replicate_append_replicate]
      exact List.prefix_append _ _
    exact (Blocked.quote hn h).not_triple (by omega) hm (by simp) (hfewer.trans hprefix)

section Kept

variable {c : Char} {e s : List Char}

theorem isLineBreak_eq_false (hc : isBlank c = false) : isLineBreak c = false := by
  rw [isBlank, Bool.or_eq_false_iff, Bool.or_eq_false_iff] at hc
  exact hc.1.1

theorem StandsFor.mem_iff (hc : c ≠ '\\') (h : StandsFor e s) : c ∈ e ↔ c ∈ s := by
  induction h with
  | nil => rfl
  | plain _ _ ih => rw [List.mem_cons, List.mem_cons, ih]
  | escaped _ _ ih => rw [List.mem_cons, List.mem_cons, List.mem_cons, ih, or_iff_right hc]

theorem mem_stripEnd (hc : isBlank c = false) : c ∈ stripEnd s ↔ c ∈ s := by
  induction s with
  | nil => rfl
  | cons d s ih =>
    rw [stripEnd_cons]
    split
    · rename_i hblank
      rw [hblank.1] at ih
      have hne : c ≠ d := fun heq => Bool.false_ne_true (hc.symm.trans (heq ▸ hblank.2))
      rw [List.mem_cons, or_iff_right hne, ih]
    · rw [List.mem_cons, List.mem_cons, ih]

theorem mem_strip (hc : isBlank c = false) : c ∈ strip s ↔ c ∈ s := by
  rw [strip, mem_stripEnd hc]
  induction s with
  | nil => rfl
  | cons d s ih =>
    rw [stripStart, List.dropWhile_cons]
    split
    · rename_i hblank
      have hne : c ≠ d := fun heq => Bool.false_ne_true (hc.symm.trans (heq ▸ hblank))
      rw [← stripStart, ih, List.mem_cons, or_iff_right hne]
    · rfl

theorem exists_mem_lines (hc : isLineBreak c = false) : (∃ l ∈ lines s, c ∈ l) ↔ c ∈ s := by
  induction s with
  | nil => simp [lines]
  | cons d s ih =>
    rw [lines_cons_eq, List.mem_cons, ← ih]
    split
    · rename_i hbreak
      have hne : c ≠ d := fun heq => Bool.false_ne_true (hc.symm.trans (heq ▸ hbreak))
      rw [or_iff_right hne]
      split
      · rfl
      · simp
    · cases lines s <;> simp [or_assoc]

theorem mem_intercalate_feed {ls : List (List Char)} (hc : c ≠ '\n') :
    c ∈ ['\n'].intercalate ls ↔ ∃ l ∈ ls, c ∈ l := by
  cases ls with
  | nil => simp
  | cons l ls => simp [intercalate_eq, hc]

theorem mem_documented (hc : isBlank c = false) : c ∈ documented s ↔ c ∈ s := by
  have hfeed : c ≠ '\n' := by
    rintro rfl
    cases hc
  have hend : c ∉ if ((lines (strip s)).map stripEnd).length = 1 then [] else ['\n'] := by split <;> simp [hfeed]
  rw [documented, List.mem_append, or_iff_left hend, mem_intercalate_feed hfeed]
  simp only [List.mem_map, exists_exists_and_eq_and, mem_stripEnd hc]
  rw [exists_mem_lines (isLineBreak_eq_false hc), mem_strip hc]

theorem mem_indentRest (hc : isBlank c = false) : c ∈ indentRest s ↔ c ∈ s := by
  have hbreak {d : Char} (hd : isLineBreak d = true) : c ≠ d :=
    fun heq => Bool.false_ne_true ((isLineBreak_eq_false hc).symm.trans (heq ▸ hd))
  have hblank : c ≠ ' ' := by
    rintro rfl
    cases hc
  induction s with
  | nil => rfl
  | cons d s ih =>
    cases hd : isLineBreak d with
    | false =>
      rw [indentRest_cons hd, List.mem_cons, List.mem_cons]
      exact or_congr_right ih
    | true =>
      rw [List.mem_cons, or_iff_right (hbreak hd)]
      refine Iff.trans ?_ ih
      obtain ⟨blanks, hblanks, heq⟩ | ⟨-, -, heq⟩ := indentRest_break hd s
      · have hnot : c ∉ blanks := fun hmem => hblank (hblanks c hmem)
        rw [heq, List.mem_cons, List.mem_append, or_iff_right (hbreak (by decide)), or_iff_right hnot]
      · rw [heq]

end Kept

theorem literalValue?_block {body s : List Char} (hblocked : Blocked 0 body 0) (h : StandsFor body s) :
    literalValue? (tripleQuote ++ (body ++ tripleQuote)) =
      if '\x00' ∈ s then none else some (s.map codePoint) := by
  have hnull : '\x00' ∈ tripleQuote ++ (body ++ tripleQuote) ↔ '\x00' ∈ s := by
    rw [← h.mem_iff (by decide)]
    simp [tripleQuote]
  have hmark : quoteMarks.find? (·.isPrefixOf (tripleQuote ++ (body ++ tripleQuote))) = some tripleQuote := rfl
  rw [literalValue?, content?, hmark]
  simp only [hnull, Option.bind_eq_bind, Option.bind_some, List.drop_left, splitAtQuotes_block hblocked rfl]
  split
  · rfl
  · exact h.contentValue?_eq

/-- A block begins with three quotes, and the next three in which none is escaped are at its end. What stands between
them is read as the lines of its text. The block, also if it is moved to the right, is a literal unless the text holds a
null character. -/
theorem docstring_reads (s : List Char) :
    (∃ body, docstring s = tripleQuote ++ (body ++ tripleQuote) ∧
      splitAtQuotes tripleQuote false (body ++ tripleQuote) = some (body, []) ∧
      contentValue? none body = some ((documented s).map codePoint)) ∧
    literalValue? (docstring s) = (if '\x00' ∈ s then none else some ((documented s).map codePoint)) ∧
    ((∃ value, literalValue? (indentRest (docstring s)) = some value) ↔ '\x00' ∉ s) := by
  -- The block and the moved block have the same null characters, though not the same text.
  have hvisible : isBlank '\x00' = false := by decide
  obtain ⟨body, hbody, hblocked, hvalue⟩ := docstring_standsFor s
  have hread : literalValue? (docstring s) = if '\x00' ∈ s then none else some ((documented s).map codePoint) := by
    rw [hbody, literalValue?_block hblocked hvalue]
    simp only [mem_documented hvisible]
  refine ⟨⟨body, hbody, splitAtQuotes_block hblocked rfl, hvalue.contentValue?_eq⟩, hread, ?_⟩
  obtain ⟨body', hbody', hblocked'⟩ := indentRest_docstring s
  obtain ⟨s', hvalue'⟩ := StandsFor.exists_of_blocked hblocked'
  have hnull : '\x00' ∈ s' ↔ '\x00' ∈ s := by
    rw [← hvalue'.mem_iff (by decide), ← mem_documented hvisible (s := s), ← hvalue.mem_iff (by decide)]
    have hsame := mem_indentRest hvisible (s := docstring s)
    rw [hbody', hbody] at hsame
    simpa [tripleQuote] using hsame
  rw [hbody', literalValue?_block hblocked' hvalue', ← hnull]
  by_cases hmem : '\x00' ∈ s' <;> simp [hmem]

/-- A null character is left as it is, where code can hold none. -/
theorem null_in_docstring :
    docstring ['a', '\x00', 'b'] = tripleQuote ++ ['a', '\x00', 'b'] ++ tripleQuote ∧
      literalValue? (docstring ['a', '\x00', 'b']) = none := by
  decide +kernel

end Text

end ClientForge
