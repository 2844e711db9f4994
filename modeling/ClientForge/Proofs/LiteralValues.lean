import ClientForge.Proofs.Literals
import ClientForge.Text.Quoted
import Mathlib.Tactic.Ring

/-!
What string literals in generated code stand for. A literal is taken apart at its quotes, and the escapes between these
are undone. What is written for a text is one literal, stands for that text, and is visible and on one line.
-/

namespace ClientForge

namespace Text

def escapes : List (Char × Char) := [
  ('\\', '\\'), ('\'', '\''), ('"', '"'), ('a', '\x07'), ('b', '\x08'), ('f', '\x0c'), ('n', '\n'), ('r', '\r'),
  ('t', '\t'), ('v', '\x0b')]

def numberWidths : List (Char × ℕ) := [('x', 2), ('u', 4), ('U', 8)]

def hexValue? (c : Char) : Option ℕ :=
  if c.isDigit then some (c.toNat - 48)
  else if 'a' ≤ c ∧ c ≤ 'f' then some (c.toNat - 87)
  else if 'A' ≤ c ∧ c ≤ 'F' then some (c.toNat - 55)
  else none

def codePoint? (n : ℕ) : Option CodePoint := if h : n < 0x110000 then some ⟨n, h⟩ else none

end Text

open Text

inductive LiteralMode
  | text
  | escape
  | number (value left : ℕ)
  | opening
  | closing
  | field (code : List Char)

/-- `value` is what has been read so far stands for. -/
structure LiteralReader where
  value : List CodePoint
  mode : LiteralMode

namespace LiteralReader

def add (s : LiteralReader) (value : List CodePoint) : LiteralReader := ⟨s.value ++ value, .text⟩

abbrev Fields := Option (List Char → Option (List CodePoint))

def stepField (fields : Fields) (s : LiteralReader) (code : List Char) (c : Char) : Option LiteralReader :=
  if c = '\x7d' then (fields.bind (· code)).map s.add else some ⟨s.value, .field (code ++ [c])⟩

def step (fields : Fields) (s : LiteralReader) (c : Char) : Option LiteralReader :=
  match s.mode with
  | .text =>
    if c = '\\' then some ⟨s.value, .escape⟩
    else if fields.isSome && c = '\x7b' then some ⟨s.value, .opening⟩
    else if fields.isSome && c = '\x7d' then some ⟨s.value, .closing⟩
    else some (s.add [codePoint c])
  | .escape =>
    match numberWidths.lookup c with
    | some width => some ⟨s.value, .number 0 width⟩
    | none => (escapes.lookup c).map fun d => s.add [codePoint d]
  | .number value left => do
    let value := 16 * value + (← hexValue? c)
    if left = 1 then (codePoint? value).map fun n => s.add [n] else some ⟨s.value, .number value (left - 1)⟩
  | .opening => if c = '\x7b' then some (s.add [codePoint c]) else stepField fields s [] c
  | .closing => if c = '\x7d' then some (s.add [codePoint c]) else none
  | .field code => stepField fields s code c

def read (fields : Fields) (s : LiteralReader) (text : List Char) : Option LiteralReader :=
  text.foldlM (step fields) s

def settled? (s : LiteralReader) : Option (List CodePoint) :=
  match s.mode with
  | .text => some s.value
  | _ => none

end LiteralReader

namespace Text

def contentValue? (fields : LiteralReader.Fields) (content : List Char) : Option (List CodePoint) :=
  (LiteralReader.read fields ⟨[], .text⟩ content).bind LiteralReader.settled?

def splitAtQuotes (quotes : List Char) : Bool → List Char → Option (List Char × List Char)
  | _, [] => none
  | true, c :: rest => (splitAtQuotes quotes false rest).map fun parts => (c :: parts.1, parts.2)
  | false, c :: rest =>
    if quotes.isPrefixOf (c :: rest) then some ([], (c :: rest).drop quotes.length)
    else (splitAtQuotes quotes (c = '\\') rest).map fun parts => (c :: parts.1, parts.2)

def quoteMarks : List (List Char) := [tripleQuote, ['\'', '\'', '\''], ['"'], ['\'']]

/-- What stands between the quotes of a literal, if the literal is the whole of a text. Code holds no null character. -/
def content? (source : List Char) : Option (List Char) := if '\x00' ∈ source then none else do
  let quotes ← quoteMarks.find? (·.isPrefixOf source)
  let (content, rest) ← splitAtQuotes quotes false (source.drop quotes.length)
  if rest.isEmpty && (quotes.length = 3 || content.all fun c => c ≠ '\n' && c ≠ '\r') then some content else none

def literalValue? (source : List Char) : Option (List CodePoint) := (content? source).bind (contentValue? none)

inductive Written (quote : Char) : CodePoint → List Char → Prop
  | plain {c : Char} (hslash : c ≠ '\\') (hquote : c ≠ quote) (h : isPrintable c = true) :
    Written quote (codePoint c) [c]
  | mark {c d : Char} (h : escapes.lookup d = some c) (hprint : isPrintable d = true) :
    Written quote (codePoint c) ['\\', d]
  | number {n : CodePoint} {letter : Char} {width : ℕ} (h : numberWidths.lookup letter = some width)
    (hn : n.val < 16 ^ width) : Written quote n ('\\' :: letter :: hexDigits width n)

theorem escape_written (quote : Quote) (c : Char) : Written quote.char (codePoint c) (escape quote.char c) := by
  have hc : c.toNat < 0x110000 := (codePoint c).isLt
  unfold escape
  split
  · rename_i h
    rcases (Bool.or_eq_true_iff.mp h).imp of_decide_eq_true of_decide_eq_true with rfl | rfl
    · exact .mark rfl (isPrintable_of_range (by decide))
    · cases quote
      · exact .mark rfl (isPrintable_of_range (by decide))
      · exact .mark rfl (isPrintable_of_range (by decide))
  · rename_i h
    simp only [Bool.or_eq_true, decide_eq_true_eq, not_or] at h
    split_ifs with hfeed hreturn htab hprint hbyte hword
    · exact hfeed ▸ .mark rfl (isPrintable_of_range (by decide))
    · exact hreturn ▸ .mark rfl (isPrintable_of_range (by decide))
    · exact htab ▸ .mark rfl (isPrintable_of_range (by decide))
    · exact .plain h.1 h.2 hprint
    · exact .number rfl hbyte
    · exact .number rfl hword
    · exact .number rfl (Nat.lt_trans hc (by decide))

theorem escapePoint_written (quote : Quote) (n : CodePoint) : Written quote.char n (escapePoint quote.char n) := by
  unfold escapePoint
  split
  · rename_i h
    have hchar : Char.ofNat n = Char.ofNatAux n h := dif_pos h
    rw [hchar]
    exact escape_written quote (Char.ofNatAux n h)
  · rename_i h
    have hn := n.isLt
    simp only [Nat.isValidChar] at h
    exact .number rfl (by omega)

end Text

namespace LiteralReader

variable {fields : Fields} {value : List CodePoint} {quote : Char} {n : CodePoint}
  {text : List Char}

theorem read_append (s : LiteralReader) (a b : List Char) :
    read fields s (a ++ b) = (read fields s a).bind (read fields · b) := List.foldlM_append

theorem read_cons (s : LiteralReader) (c : Char) (text : List Char) :
    read fields s (c :: text) = (step fields s c).bind (read fields · text) := List.foldlM_cons

theorem hexValue?_hexDigit {d : ℕ} (h : d < 16) : hexValue? (hexDigit d) = some d := by
  revert d
  decide

theorem read_hexDigits (width k before n : ℕ) :
    read fields ⟨value, .number before (width + (k + 1))⟩ (hexDigits width n) =
      some ⟨value, .number (before * 16 ^ width + n % 16 ^ width) (k + 1)⟩ := by
  -- The last digit is written last, so what is still to come grows while the number before it stays.
  induction width generalizing k n with
  | zero => simp [hexDigits, read, Nat.mod_one]
  | succ width ih =>
    have hwidth : width + 1 + (k + 1) = width + (k + 1 + 1) := by omega
    have hlast : 16 * (before * 16 ^ width + n / 16 % 16 ^ width) + n % 16 =
        before * 16 ^ (width + 1) + n % 16 ^ (width + 1) := by
      rw [pow_succ', Nat.mod_mul]
      ring
    rw [hexDigits, read_append, hwidth, ih, Option.bind_some]
    simp [read, step, hexValue?_hexDigit (Nat.mod_lt n (by decide : 0 < 16)), hlast]

theorem read_number {width : ℕ} (hn : n.val < 16 ^ (width + 1)) :
    read fields ⟨value, .number 0 (width + 1)⟩ (hexDigits (width + 1) n) = some ⟨value ++ [n], .text⟩ := by
  have hlast : 16 * (n.val / 16 % 16 ^ width) + n.val % 16 = n.val := by
    have hdiv : n.val / 16 < 16 ^ width := Nat.div_lt_of_lt_mul (by rwa [← pow_succ'])
    rw [Nat.mod_eq_of_lt hdiv]
    exact Nat.div_add_mod n.val 16
  rw [hexDigits, read_append, read_hexDigits width 0 0, Option.bind_some]
  simp [read, step, hexValue?_hexDigit (Nat.mod_lt n.val (by decide : 0 < 16)), hlast, codePoint?, n.isLt, add]

theorem read_written (h : Written quote n text)
    (hbrace : fields.isSome = true → n ≠ codePoint '\x7b' ∧ n ≠ codePoint '\x7d') :
    read fields ⟨value, .text⟩ text = some ⟨value ++ [n], .text⟩ := by
  cases h with
  | @plain c hslash _ _ =>
    have hopening : (fields.isSome && decide (c = '\x7b')) = false := by
      rw [Bool.and_eq_false_imp]
      exact fun hfields => decide_eq_false fun hc => (hbrace hfields).1 (congrArg codePoint hc)
    have hclosing : (fields.isSome && decide (c = '\x7d')) = false := by
      rw [Bool.and_eq_false_imp]
      exact fun hfields => decide_eq_false fun hc => (hbrace hfields).2 (congrArg codePoint hc)
    simp [read, step, hslash, hopening, hclosing, add]
  | @mark c d h _ =>
    have hnumber : ∀ e ∈ escapes, numberWidths.lookup e.1 = none := by decide
    obtain ⟨before, after, hmem, -⟩ := List.lookup_eq_some_iff.mp h
    have hd : numberWidths.lookup d = none := hnumber (d, c) (by simp [hmem])
    simp [read, step, hd, h, add]
  | @number _ letter width h hn =>
    have hpos : ∀ e ∈ numberWidths, e.2 ≠ 0 := by decide
    obtain ⟨before, after, hmem, -⟩ := List.lookup_eq_some_iff.mp h
    obtain ⟨width, rfl⟩ := Nat.exists_eq_succ_of_ne_zero (hpos (letter, width) (by simp [hmem]))
    have hslash : step fields ⟨value, .text⟩ '\\' = some ⟨value, .escape⟩ := rfl
    have hletter : step fields ⟨value, .escape⟩ letter = some ⟨value, .number 0 (width + 1)⟩ := by simp [step, h]
    rw [read_cons, hslash, Option.bind_some, read_cons, hletter, Option.bind_some]
    exact read_number hn

theorem read_points (quote : Quote) (points : List CodePoint)
    (hbrace : fields.isSome = true → ∀ n ∈ points, n ≠ codePoint '\x7b' ∧ n ≠ codePoint '\x7d') :
    read fields ⟨value, .text⟩ (points.flatMap (escapePoint quote.char)) = some ⟨value ++ points, .text⟩ := by
  induction points generalizing value with
  | nil => simp [read]
  | cons n points ih =>
    have hhead : read fields ⟨value, .text⟩ (escapePoint quote.char n) = some ⟨value ++ [n], .text⟩ :=
      read_written (escapePoint_written quote n) fun h => hbrace h n List.mem_cons_self
    have htail := fun h m hm => hbrace h m (List.mem_cons_of_mem n hm)
    rw [List.flatMap_cons, read_append, hhead, Option.bind_some, ih htail, List.append_assoc, List.singleton_append]

end LiteralReader

namespace Text

section Quotes

variable {quotes rest content after text : List Char} {c : Char} {n : CodePoint}

theorem splitAtQuotes_plain (hslash : c ≠ '\\') (h : quotes.isPrefixOf (c :: rest) = false)
    (hrest : splitAtQuotes quotes false rest = some (content, after)) :
    splitAtQuotes quotes false (c :: rest) = some (c :: content, after) := by
  simp [splitAtQuotes, h, hslash, hrest]

theorem splitAtQuotes_escaped (h : quotes.isPrefixOf ('\\' :: c :: rest) = false)
    (hrest : splitAtQuotes quotes false rest = some (content, after)) :
    splitAtQuotes quotes false ('\\' :: c :: rest) = some ('\\' :: c :: content, after) := by
  simp [splitAtQuotes, h, hrest]

theorem isPrefixOf_singleton {quote : Char} (h : c ≠ quote) : [quote].isPrefixOf (c :: rest) = false := by
  simp [List.isPrefixOf, h.symm]

theorem isPrintable_of_written {quote : Char} (h : Written quote n text) : ∀ c ∈ text, isPrintable c = true := by
  have hslash : isPrintable '\\' = true := isPrintable_of_range (by decide)
  cases h with
  | plain _ _ h => exact List.forall_mem_singleton.mpr h
  | mark _ h => exact List.forall_mem_cons.mpr ⟨hslash, List.forall_mem_singleton.mpr h⟩
  | @number _ letter width h _ =>
    have hletters : ∀ e ∈ numberWidths, Naming.isWordChar e.1 = true := by decide
    obtain ⟨before, after, hmem, -⟩ := List.lookup_eq_some_iff.mp h
    have hletter : Naming.isWordChar letter = true := hletters (letter, width) (by simp [hmem])
    refine List.forall_mem_cons.mpr ⟨hslash, List.forall_mem_cons.mpr ⟨isPrintable_of_isWordChar hletter, ?_⟩⟩
    exact fun c hc => isPrintable_of_isWordChar (isWordChar_hexDigits _ _ c hc)

theorem isPrintable_of_isLineBreak (h : isLineBreak c = true) : isPrintable c = false := by
  simp only [isLineBreak, List.contains_eq_mem, decide_eq_true_eq, List.mem_cons, List.not_mem_nil, or_false] at h
  rcases h with rfl | rfl | rfl | rfl | rfl | rfl | rfl | rfl | rfl | rfl <;> decide +kernel

theorem not_isLineBreak_of_isPrintable (h : isPrintable c = true) : isLineBreak c = false :=
  Bool.eq_false_iff.mpr fun hbreak => Bool.false_ne_true ((isPrintable_of_isLineBreak hbreak).symm.trans h)

theorem splitAtQuotes_word {quote : Quote} (h : ∀ c ∈ text, Naming.isWordChar c = true)
    (hrest : splitAtQuotes [quote.char] false rest = some (content, after)) :
    splitAtQuotes [quote.char] false (text ++ rest) = some (text ++ content, after) := by
  induction text with
  | nil => exact hrest
  | cons c text ih =>
    obtain ⟨hc, htext⟩ := List.forall_mem_cons.mp h
    have hslash : c ≠ '\\' := Naming.ne_of_isWordChar hc rfl
    exact splitAtQuotes_plain hslash (isPrefixOf_singleton (ne_quote_of_isWordChar hc)) (ih htext)

theorem splitAtQuotes_written {quote : Quote} (h : Written quote.char n text)
    (hrest : splitAtQuotes [quote.char] false rest = some (content, after)) :
    splitAtQuotes [quote.char] false (text ++ rest) = some (text ++ content, after) := by
  have hslash : '\\' ≠ quote.char := by cases quote <;> decide
  cases h with
  | plain hplain hquote _ => exact splitAtQuotes_plain hplain (isPrefixOf_singleton hquote) hrest
  | mark => exact splitAtQuotes_escaped (isPrefixOf_singleton hslash) hrest
  | number =>
    apply splitAtQuotes_escaped (isPrefixOf_singleton hslash)
    exact splitAtQuotes_word (isWordChar_hexDigits _ _) hrest

theorem splitAtQuotes_points (quote : Quote) (points : List CodePoint) :
    splitAtQuotes [quote.char] false (points.flatMap (escapePoint quote.char) ++ [quote.char]) =
      some (points.flatMap (escapePoint quote.char), []) := by
  induction points with
  | nil => simp [splitAtQuotes]
  | cons n points ih =>
    rw [List.flatMap_cons, List.append_assoc]
    exact splitAtQuotes_written (escapePoint_written quote n) ih

theorem find?_quoteMarks (quote : Quote) (h : content.head? ≠ some quote.char) :
    quoteMarks.find? (·.isPrefixOf (quote.char :: (content ++ [quote.char]))) = some [quote.char] := by
  cases content with
  | nil => cases quote <;> rfl
  | cons c content =>
    have hc : quote.char ≠ c := fun hc => h (congrArg some hc.symm)
    cases quote with
    | single => simp [quoteMarks, tripleQuote, List.isPrefixOf, Quote.char, show '\'' ≠ c from hc]
    | double => simp [quoteMarks, tripleQuote, List.isPrefixOf, Quote.char, show '"' ≠ c from hc]

theorem head?_points (quote : Quote) (points : List CodePoint) :
    (points.flatMap (escapePoint quote.char)).head? ≠ some quote.char := by
  have hslash : '\\' ≠ quote.char := by cases quote <;> decide
  cases points with
  | nil => simp
  | cons n points =>
    have h := escapePoint_written quote n
    rw [List.flatMap_cons]
    generalize escapePoint quote.char n = text at h
    cases h with
    | plain _ hquote _ => simpa using hquote
    | mark => simpa using hslash
    | number => simpa using hslash

theorem isPrintable_points (quote : Quote) (points : List CodePoint) :
    ∀ c ∈ points.flatMap (escapePoint quote.char), isPrintable c = true := by
  intro c hc
  obtain ⟨n, -, hc⟩ := List.mem_flatMap.mp hc
  exact isPrintable_of_written (escapePoint_written quote n) c hc

theorem content?_points (quote : Quote) (points : List CodePoint) :
    content? (quote.char :: (points.flatMap (escapePoint quote.char) ++ [quote.char])) =
      some (points.flatMap (escapePoint quote.char)) := by
  have hline : (points.flatMap (escapePoint quote.char)).all (fun c => c ≠ '\n' && c ≠ '\r') = true := by
    rw [List.all_eq_true]
    intro c hc
    have hbreak := not_isLineBreak_of_isPrintable (isPrintable_points quote points c hc)
    have hfeed : c ≠ '\n' := by
      rintro rfl
      cases hbreak
    have hreturn : c ≠ '\r' := by
      rintro rfl
      cases hbreak
    simp [hfeed, hreturn]
  have hnull : '\x00' ∉ quote.char :: (points.flatMap (escapePoint quote.char) ++ [quote.char]) := by
    have hquote : '\x00' ≠ quote.char := by cases quote <;> decide
    have hpoints : '\x00' ∉ points.flatMap (escapePoint quote.char) := fun hmem =>
      absurd (isPrintable_points quote points _ hmem) (by decide +kernel)
    simp [hquote, hpoints]
  rw [content?, if_neg hnull, find?_quoteMarks quote (head?_points quote points)]
  simp only [Option.bind_eq_bind, Option.bind_some, List.length_singleton, List.drop_succ_cons, List.drop_zero,
    splitAtQuotes_points, hline, List.isEmpty_nil, Bool.or_true, Bool.and_self, if_true]

theorem literalValue?_quotedPoints (points : List CodePoint) : literalValue? (quotedPoints points) = some points := by
  obtain ⟨quote, hquote⟩ := quotedPoints_eq points
  rw [hquote, literalValue?, content?_points, Option.bind_some, contentValue?,
    LiteralReader.read_points quote points (by simp)]
  rfl

end Quotes

/-- The literal for a text of any code points ends at its second quote, stands for the text, has double quotes unless
the text holds one, and is visible on a single line. -/
theorem quotedPoints_reads (points : List CodePoint) : literalValue? (quotedPoints points) = some points ∧
    (codePoint '"' ∉ points → (quotedPoints points).head? = some '"') ∧
    ∀ c ∈ quotedPoints points, isPrintable c = true ∧ isLineBreak c = false := by
  refine ⟨literalValue?_quotedPoints points, fun h => ?_, fun c hc => ?_⟩
  · rw [quotedPoints, if_neg (by simpa using h), List.head?_cons]
  · suffices hprint : isPrintable c = true from ⟨hprint, not_isLineBreak_of_isPrintable hprint⟩
    obtain ⟨quote, hquote⟩ := quotedPoints_eq points
    have hmark : isPrintable quote.char = true := isPrintable_of_range (by cases quote <;> decide)
    rw [hquote, List.mem_cons, List.mem_append, List.mem_singleton] at hc
    rcases hc with rfl | hc | rfl
    · exact hmark
    · exact isPrintable_points quote points c hc
    · exact hmark

example : literalValue? "\"a\" b\"".toList = none ∧ literalValue? "'\\q'".toList = none := by decide +kernel

end Text

end ClientForge
