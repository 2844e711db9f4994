import ClientForge.Proofs.Tokens
import ClientForge.Proofs.Placeholders

namespace ClientForge

namespace Text

theorem isPrintable_of_range {c : Char} (h : 0x20 ≤ c.toNat ∧ c.toNat < 0x7f) : isPrintable c = true := by
  have hruns : unprintableRuns.all (fun run => decide (run.2 < 0x20 ∨ 0x7f ≤ run.1)) = true := by decide +kernel
  simp only [isPrintable, Runs.holds, Bool.not_eq_true', List.any_eq_false, Bool.and_eq_true, decide_eq_true_eq]
  intro run hrun hin
  have hout := of_decide_eq_true (List.all_eq_true.mp hruns run hrun)
  omega

theorem isPrintable_of_isWordChar {c : Char} (h : Naming.isWordChar c = true) : isPrintable c = true := by
  apply isPrintable_of_range
  have hchain {low high : ℕ} (hin : low ≤ c.toNat ∧ c.toNat ≤ high) (hlow : 0x20 ≤ low) (hhigh : high < 0x7f) :
      0x20 ≤ c.toNat ∧ c.toNat < 0x7f :=
    ⟨Nat.le_trans hlow hin.1, Nat.lt_of_le_of_lt hin.2 hhigh⟩
  rcases Bool.or_eq_true_iff.mp h with h | h
  · rcases Bool.or_eq_true_iff.mp h with h | h
    · rcases Bool.or_eq_true_iff.mp h with h | h
      · exact hchain (of_decide_eq_true h) (by decide) (by decide)
      · exact hchain (Naming.isLower_iff.mp h) (by decide) (by decide)
    · exact hchain (Naming.isDigit_iff.mp h) (by decide) (by decide)
  · rw [of_decide_eq_true h]
    decide

theorem ne_quote_of_isWordChar {quote : Quote} {c : Char} (h : Naming.isWordChar c = true) : c ≠ quote.char :=
  Naming.ne_of_isWordChar h (by cases quote <;> rfl)

theorem isWordChar_hexDigit (n : ℕ) : Naming.isWordChar (hexDigit (n % 16)) = true := by
  have hn : n % 16 < 16 := Nat.mod_lt n (by decide)
  generalize n % 16 = k at hn
  revert k
  decide

theorem isWordChar_hexDigits (width n : ℕ) : ∀ c ∈ hexDigits width n, Naming.isWordChar c = true := by
  induction width generalizing n with
  | zero => simp [hexDigits]
  | succ width ih =>
    intro c hc
    rcases List.mem_append.mp hc with hc | hc
    · exact ih _ c hc
    · exact List.mem_singleton.mp hc ▸ isWordChar_hexDigit n

theorem escape_of_isWordChar {quote : Quote} {c : Char} (h : Naming.isWordChar c = true) :
    escape quote.char c = [c] := by
  have hne (d : Char) (hd : Naming.isWordChar d = false) : c ≠ d := Naming.ne_of_isWordChar h hd
  have hquote : c ≠ quote.char := ne_quote_of_isWordChar h
  simp [escape, hne '\\' rfl, hquote, hne '\n' rfl, hne '\r' rfl, hne '\t' rfl, isPrintable_of_isWordChar h]

theorem head?_escape (quote : Quote) (c : Char) : ∃ d rest, escape quote.char c = d :: rest ∧ d ≠ quote.char := by
  have hslash : '\\' ≠ quote.char := by cases quote <;> decide
  unfold escape
  split
  · exact ⟨_, _, rfl, hslash⟩
  · rename_i hc
    split_ifs
    · exact ⟨_, _, rfl, hslash⟩
    · exact ⟨_, _, rfl, hslash⟩
    · exact ⟨_, _, rfl, hslash⟩
    · exact ⟨_, _, rfl, fun h => hc (by simp [h])⟩
    · exact ⟨_, _, rfl, hslash⟩
    · exact ⟨_, _, rfl, hslash⟩
    · exact ⟨_, _, rfl, hslash⟩

theorem quotedPoints_eq (s : List CodePoint) : ∃ quote : Quote,
    quotedPoints s = quote.char :: (s.flatMap (escapePoint quote.char) ++ [quote.char]) := by
  unfold quotedPoints
  split
  · exact ⟨.single, rfl⟩
  · exact ⟨.double, rfl⟩

theorem flatMap_escapePoint (quote : Char) (s : List Char) :
    (s.map codePoint).flatMap (escapePoint quote) = s.flatMap (escape quote) := by
  rw [List.flatMap_map]
  exact List.flatMap_congr fun c _ => escapePoint_codePoint quote c

theorem quoted_eq (s : List Char) : ∃ quote : Quote, quoted s = quoteWith quote.char s := by
  obtain ⟨quote, hquote⟩ := quotedPoints_eq (s.map codePoint)
  exact ⟨quote, by rw [quoted, hquote, flatMap_escapePoint, quoteWith]⟩

end Text

namespace CodeReader

open Text

variable {brackets : List OpenBracket} {done : List Token} {quote : Quote} {formatted : Bool}

theorem read_plain (text : List Char) (h : ∀ c ∈ text, Naming.isWordChar c = true) :
    read ⟨brackets, done, .inside quote formatted false⟩ text = ⟨brackets, done, .inside quote formatted false⟩ := by
  induction text with
  | nil => rfl
  | cons c text ih =>
    obtain ⟨hc, htext⟩ := List.forall_mem_cons.mp h
    have hslash : c ≠ '\\' := Naming.ne_of_isWordChar hc rfl
    have hbrace : c ≠ '\x7b' := Naming.ne_of_isWordChar hc rfl
    have hquote : c ≠ quote.char := ne_quote_of_isWordChar hc
    have hstep : step ⟨brackets, done, .inside quote formatted false⟩ c
        = ⟨brackets, done, .inside quote formatted false⟩ := by
      simp [step, stepInside, hslash, hquote, hbrace]
    rw [read_cons, hstep, ih htext]

theorem read_escaped (c : Char) (rest : List Char) : read ⟨brackets, done, .inside quote formatted false⟩
    ('\\' :: c :: rest) = read ⟨brackets, done, .inside quote formatted false⟩ rest := rfl

theorem read_escape (c : Char) (h : formatted = true → c ≠ '\x7b') :
    read ⟨brackets, done, .inside quote formatted false⟩ (escape quote.char c)
      = ⟨brackets, done, .inside quote formatted false⟩ := by
  unfold escape
  by_cases hspecial : c = '\\' ∨ c = quote.char
  · simp only [hspecial, Bool.or_eq_true, decide_eq_true_eq, if_true]
    exact read_escaped c []
  have hspecial' := not_or.mp hspecial
  simp only [Bool.or_eq_true, decide_eq_true_eq, hspecial, if_false]
  split_ifs
  · exact read_escaped 'n' []
  · exact read_escaped 'r' []
  · exact read_escaped 't' []
  · cases formatted with
    | false => simp [step, stepInside, hspecial']
    | true => simp [step, stepInside, hspecial', h rfl]
  · rw [read_escaped, read_plain _ (isWordChar_hexDigits _ _)]
  · rw [read_escaped, read_plain _ (isWordChar_hexDigits _ _)]
  · rw [read_escaped, read_plain _ (isWordChar_hexDigits _ _)]

theorem read_escapes (text : List Char) : read ⟨brackets, done, .inside quote false false⟩
    (text.flatMap (escape quote.char)) = ⟨brackets, done, .inside quote false false⟩ := by
  induction text with
  | nil => rfl
  | cons c text ih => rw [List.flatMap_cons, read_append, read_escape c (by simp), ih]

theorem read_close : read ⟨brackets, done, .inside quote formatted false⟩ [quote.char]
    = between brackets (.literal :: done) := by
  have hslash : quote.char ≠ '\\' := by cases quote <;> decide
  simp [step, stepInside, hslash, between]

theorem read_quote : step (between brackets done) quote.char = ⟨brackets, done, .opened quote false⟩ := by
  cases quote <;> rfl

theorem read_opened (c : Char) (text rest : List Char) :
    read ⟨brackets, done, .opened quote formatted⟩ ((c :: text).flatMap (escape quote.char) ++ rest)
      = read ⟨brackets, done, .inside quote formatted false⟩ ((c :: text).flatMap (escape quote.char) ++ rest) := by
  obtain ⟨d, more, hd, hne⟩ := head?_escape quote c
  rw [List.flatMap_cons, hd, List.cons_append, List.cons_append, read_cons, read_cons]
  simp [step, hne]

end CodeReader

open CodeReader Text

theorem reads_quoted (s : String) : Reads s.quoted [.literal] := by
  intro brackets done
  obtain ⟨quote, hquote⟩ := quoted_eq s.toList
  have hlist : s.quoted.toList = quote.char :: (s.toList.flatMap (escape quote.char) ++ [quote.char]) := by
    rw [String.quoted, String.toList_ofList, hquote, quoteWith]
  rw [hlist, read_cons, read_quote]
  cases s.toList with
  | nil =>
    refine ⟨⟨brackets, done, .twice quote⟩, ?_, rfl, rfl⟩
    simp [step]
  | cons c text => exact ⟨_, by rw [read_opened, read_append, read_escapes, read_close], rfl, rfl⟩

namespace Route

def fieldTokens (argument : String → String) : TemplatePiece → List Token
  | .plain _ => []
  | .placeholder name =>
    let name := argument (.ofList name)
    [.group '\x7b' (if name = "" then [] else [.word name])]

variable {brackets : List OpenBracket} {done : List Token} {quote : Quote} {argument : String → String}

theorem escape_brace (quote : Quote) {c : Char} (hc : c = '\x7b' ∨ c = '\x7d') : escape quote.char c = [c] := by
  rcases hc with rfl | rfl <;> cases quote <;> decide +kernel

theorem flatMap_escape_field (quote : Quote) {name : List Char}
    (h : ∀ c ∈ (argument (.ofList name)).toList, Naming.isWordChar c = true) :
    (formatPiece argument (.placeholder name)).flatMap (escape quote.char) =
      '\x7b' :: ((argument (.ofList name)).toList ++ ['\x7d']) := by
  rw [formatPiece, List.flatMap_cons, List.flatMap_append, escape_brace quote (.inl rfl), List.flatMap_singleton,
    escape_brace quote (.inr rfl), List.singleton_append]
  congr 2
  rw [List.flatMap_congr fun c hc => escape_of_isWordChar (h c hc)]
  exact List.flatMap_singleton' _

theorem read_doubled (text : List Char) : read ⟨brackets, done, .inside quote true false⟩
    ((doubleBraces text).flatMap (escape quote.char)) = ⟨brackets, done, .inside quote true false⟩ := by
  have hopening : escape quote.char '\x7b' = ['\x7b'] := escape_brace quote (.inl rfl)
  have hclosing : escape quote.char '\x7d' = ['\x7d'] := escape_brace quote (.inr rfl)
  have hquote : '\x7b' ≠ quote.char ∧ '\x7d' ≠ quote.char := by cases quote <;> decide
  induction text with
  | nil => rfl
  | cons c text ih =>
    rw [doubleBraces, List.flatMap_cons, ← doubleBraces, List.flatMap_append, read_append]
    by_cases ho : c = '\x7b'
    · subst ho
      simpa [hopening, step, stepInside, hquote] using ih
    · by_cases hc : c = '\x7d'
      · subst hc
        simpa [hclosing, step, stepInside, hquote] using ih
      · simp only [ho, hc, decide_false, Bool.or_self, Bool.false_eq_true, if_false, List.flatMap_singleton]
        rw [read_escape c fun _ => ho, ih]

theorem read_field (name : String) (h : ∀ c ∈ name.toList, Naming.isWordChar c = true) :
    read ⟨brackets, done, .inside quote true false⟩ ('\x7b' :: (name.toList ++ ['\x7d']))
      = ⟨brackets, .group '\x7b' (if name = "" then [] else [.word name]) :: done, .inside quote true false⟩ := by
  have hquote : '\x7b' ≠ quote.char := by cases quote <;> decide
  have hopened : step ⟨brackets, done, .inside quote true false⟩ '\x7b' = ⟨brackets, done, .brace quote⟩ := by
    simp [step, stepInside, hquote]
  rw [read_cons, hopened]
  cases hname : name.toList with
  | nil =>
    have hempty : name = "" := by simpa using hname
    simp [hempty, step, stepCode, isNameChar, Naming.isWordChar, quote?, isOpening, openingOf?, close, endWord]
  | cons c rest =>
    obtain ⟨hc, hrest⟩ := List.forall_mem_cons.mp (hname ▸ h)
    have hbrace : c ≠ '\x7b' := by
      rintro rfl
      cases hc
    have hnames (d : Char) (hd : Naming.isWordChar d = true) : isNameChar d = true := by simp [isNameChar, hd]
    have hfirst : step ⟨brackets, done, .brace quote⟩ c
        = ⟨⟨'\x7b', done, some quote⟩ :: brackets, [], .code [c]⟩ := by
      simp [step, stepCode, hbrace, hnames c hc]
    have hword : name ≠ "" := fun h => by simp [h] at hname
    rw [List.cons_append, read_cons, hfirst, CodeReader.read_append, read_word rest fun d hd => hnames d (hrest d hd),
      List.singleton_append, ← hname]
    simp [hword, step, stepCode, isNameChar, Naming.isWordChar, quote?, isOpening, openingOf?, close, endWord_toList]

theorem read_pieces (pieces : List TemplatePiece)
    (h : ∀ name, .placeholder name ∈ pieces → ∀ c ∈ (argument (.ofList name)).toList, Naming.isWordChar c = true) :
    read ⟨brackets, done, .inside quote true false⟩
        ((pieces.flatMap (formatPiece argument)).flatMap (escape quote.char)) =
      ⟨brackets, (pieces.flatMap (fieldTokens argument)).reverse ++ done, .inside quote true false⟩ := by
  induction pieces generalizing done with
  | nil => rfl
  | cons piece pieces ih =>
    have hpieces := fun name hname => h name (List.mem_cons_of_mem _ hname)
    rw [List.flatMap_cons, List.flatMap_append, CodeReader.read_append, List.flatMap_cons, List.reverse_append,
      List.append_assoc]
    cases piece with
    | plain text => exact (congrArg (read · _) (read_doubled text)).trans (ih hpieces)
    | placeholder name =>
      have hname := h name List.mem_cons_self
      rw [flatMap_escape_field quote hname, read_field _ hname]
      exact ih hpieces

def urlTokens (path : String) (argument : String → String) : List Token :=
  (template path).flatMap (fieldTokens argument) ++ [.literal]

theorem reads_urlExpression {path : String}
    (h : ∀ name ∈ placeholders path, ∀ c ∈ (argument name).toList, Naming.isWordChar c = true) :
    Reads (urlExpression path argument) (urlTokens path argument) := by
  have hmem (text : List Char) (ht : .placeholder text ∈ template path) : .ofList text ∈ placeholders path := by
    rwa [placeholder_mem_iff, String.toList_ofList]
  unfold urlExpression
  split
  · rename_i hnone
    have hcode : (template path).flatMap (fieldTokens argument) = [] := by
      rw [List.flatMap_eq_nil_iff]
      intro piece hpiece
      cases piece with
      | plain => rfl
      | placeholder text =>
        have := hmem text hpiece
        simp [List.isEmpty_iff.mp hnone] at this
    rw [urlTokens, hcode]
    exact reads_quoted path
  · rename_i hsome
    intro brackets done
    obtain ⟨quote, hquote⟩ := quoted_eq ((template path).flatMap (formatPiece argument))
    have hne : (template path).flatMap (formatPiece argument) ≠ [] := by
      intro hnil
      apply hsome
      rw [List.isEmpty_iff, placeholders, List.filterMap_eq_nil_iff]
      intro piece hpiece
      cases piece with
      | plain => rfl
      | placeholder text =>
        have := List.flatMap_eq_nil_iff.mp hnil _ hpiece
        cases this
    have hread := @read_pieces brackets done quote argument (template path) fun text ht => h _ (hmem text ht)
    obtain ⟨c, text, hcons⟩ := List.exists_cons_of_ne_nil hne
    rw [hcons] at hquote hread ⊢
    have hlist : ("f" ++ (String.ofList (c :: text)).quoted).toList
        = 'f' :: quote.char :: ((c :: text).flatMap (escape quote.char) ++ [quote.char]) := by
      simp only [String.toList_append, String.quoted, String.toList_ofList, hquote, quoteWith]
      rfl
    have hbegins : ((between brackets done).step 'f').step quote.char = ⟨brackets, done, .opened quote true⟩ := by
      cases quote <;> rfl
    refine ⟨between brackets ((urlTokens path argument).reverse ++ done), ?_, rfl, rfl⟩
    rw [hlist, read_cons, read_cons, hbegins, read_opened, CodeReader.read_append, hread, read_close, urlTokens,
      List.reverse_append]
    rfl

end Route

end ClientForge
