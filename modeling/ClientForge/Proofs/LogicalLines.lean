import ClientForge.Proofs.LiteralValues
import ClientForge.Proofs.Tokens

/-!
Code line by line: a line goes on as long as a bracket is open, and spaces in front of it are its indentation. Only
words, dotted or not, literals without fields, brackets, commas, colons and equals signs are understood.
-/

namespace ClientForge

open Text
open CodeReader (isNameChar quote? openingOf?)

inductive Lexeme
  | word (name : String)
  | literal (value : List CodePoint)
  | mark (c : Char)
deriving DecidableEq, Repr

structure LogicalLine where
  indent : ℕ
  lexemes : List Lexeme
deriving DecidableEq, Repr

inductive LineMode
  | margin
  | code (word : List Char)
  | inside (quote : Quote) (escaped : Bool) (content : List Char)

structure LineReader where
  lines : List LogicalLine
  indent : ℕ
  line : List Lexeme
  brackets : List Char
  mode : LineMode

namespace LineReader

def isDottedChar (c : Char) : Bool := isNameChar c || c = '.'

def start (lines : List LogicalLine) : LineReader := ⟨lines, 0, [], [], .margin⟩

def add (s : LineReader) (lexemes : List Lexeme) : LineReader := { s with line := s.line ++ lexemes }

def settle (s : LineReader) (word : List Char) : LineReader :=
  { s with line := if word.isEmpty then s.line else s.line ++ [.word (.ofList word)], mode := .code [] }

def stepBetween (s : LineReader) (c : Char) : Option LineReader :=
  if c = ' ' then some s
  else if c = '\n' then some (if s.brackets.isEmpty then start (s.lines ++ [⟨s.indent, s.line⟩]) else s)
  else if [',', ':', '='].contains c then some (s.add [.mark c])
  else if ['(', '['].contains c then some { s.add [.mark c] with brackets := c :: s.brackets }
  else match openingOf? c, s.brackets with
    | some opening, bracket :: rest =>
      if bracket = opening then some { s.add [.mark c] with brackets := rest } else none
    | _, _ => none

def stepCode (s : LineReader) (word : List Char) (c : Char) : Option LineReader :=
  if isDottedChar c then some { s with mode := .code (word ++ [c]) }
  else match quote? c with
    | some quote => if word.isEmpty then some { s with mode := .inside quote false [] } else none
    | none => stepBetween (s.settle word) c

def stepInside (s : LineReader) (quote : Quote) (content : List Char) (c : Char) : Option LineReader :=
  if c = '\\' then some { s with mode := .inside quote true (content ++ [c]) }
  else if c = quote.char then
    (contentValue? none content).map fun value => { s.add [.literal value] with mode := .code [] }
  else if c = '\n' then none
  else some { s with mode := .inside quote false (content ++ [c]) }

def step (s : LineReader) (c : Char) : Option LineReader :=
  match s.mode with
  | .margin =>
    if c = ' ' then some { s with indent := s.indent + 1 }
    else if c = '\n' then some (start s.lines)
    else stepCode s [] c
  | .code word => stepCode s word c
  | .inside quote true content => some { s with mode := .inside quote false (content ++ [c]) }
  | .inside quote false content => stepInside s quote content c

def read (s : LineReader) (text : List Char) : Option LineReader := text.foldlM step s

def ended? (s : LineReader) : Option (List LogicalLine) :=
  match s.mode with
  | .margin => some s.lines
  | _ => none

end LineReader

def logicalLines? (text : List Char) : Option (List LogicalLine) := ((LineReader.start []).read text).bind (·.ended?)

namespace LineReader

variable {s : LineReader} {a b text inner : List Char} {la lb lc lexemes : List Lexeme}
  {lines new new' : List LogicalLine} {c opening closing : Char} {inside : Bool}

@[simp] theorem read_nil (s : LineReader) : s.read [] = some s := rfl

theorem read_cons (s : LineReader) (c : Char) (text : List Char) :
    s.read (c :: text) = (s.step c).bind (·.read text) := List.foldlM_cons

theorem read_append (s : LineReader) (a b : List Char) : s.read (a ++ b) = (s.read a).bind (·.read b) :=
  List.foldlM_append

theorem add_add (s : LineReader) (la lb : List Lexeme) : (s.add la).add lb = s.add (la ++ lb) := by
  simp [add]

theorem add_nil (s : LineReader) : s.add [] = s := by simp [add]

theorem settle_nil (h : s.mode = .code []) : s.settle [] = s := by
  cases s
  cases h
  rfl

/-- Between words, or at least inside of a bracket, a text is read as lexemes, of which the last may be a word that is
not ended yet. -/
def Spells (inside : Bool) (text : List Char) (lexemes : List Lexeme) : Prop :=
  ∀ s : LineReader, s.mode = .code [] → (inside = true → s.brackets ≠ []) →
    ∃ s' word, s.read text = some s' ∧ s'.mode = .code word ∧ s'.settle word = s.add lexemes

theorem spells_nil : Spells inside [] [] := fun s hs _ => ⟨s, [], rfl, hs, by rw [settle_nil hs, add_nil]⟩

theorem read_dotted (s : LineReader) {word : List Char} (hs : s.mode = .code word)
    (htext : ∀ c ∈ text, isDottedChar c = true) : s.read text = some { s with mode := .code (word ++ text) } := by
  induction text generalizing s word with
  | nil =>
    rw [List.append_nil, ← hs]
    rfl
  | cons c text ih =>
    obtain ⟨hc, htext⟩ := List.forall_mem_cons.mp htext
    have hstep : s.step c = some { s with mode := .code (word ++ [c]) } := by
      rw [step, hs]
      exact if_pos hc
    rw [read_cons, hstep, Option.bind_some, ih _ rfl htext, List.append_assoc, List.singleton_append]

theorem spells_word {name : String} (hne : name ≠ "") (hname : ∀ c ∈ name.toList, isDottedChar c = true) :
    Spells inside name.toList [.word name] := by
  intro s hs _
  refine ⟨_, _, read_dotted s hs hname, rfl, ?_⟩
  have hempty : name.toList.isEmpty = false := by simpa using hne
  simp [settle, add, hempty, hs]

theorem step_ended {word : List Char} (hs : s.mode = .code word) (hc : isDottedChar c = false)
    (hquote : quote? c = none) : s.step c = (s.settle word).stepBetween c := by
  rw [step, hs]
  simp only [stepCode, hc, hquote, Bool.false_eq_true, if_false]

theorem Spells.delimited (ha : Spells inside a la) (hb : Spells inside b lb) (c : Char) (lc : List Lexeme)
    (hc : isDottedChar c = false) (hquote : quote? c = none)
    (hstep : ∀ s : LineReader, (inside = true → s.brackets ≠ []) → s.stepBetween c = some (s.add lc)) :
    Spells inside (a ++ c :: b) (la ++ (lc ++ lb)) := by
  intro s hs hinside
  obtain ⟨s', word, hread, hmode, hsettle⟩ := ha s hs hinside
  have hend : s'.step c = some (s.add (la ++ lc)) := by
    rw [step_ended hmode hc hquote, hsettle, hstep (s.add la) hinside, add_add]
  obtain ⟨s'', word', hread', hmode', hsettle'⟩ := hb (s.add (la ++ lc)) hs hinside
  refine ⟨s'', word', ?_, hmode', ?_⟩
  · rw [read_append, hread, Option.bind_some, read_cons, hend, Option.bind_some, hread']
  · rw [hsettle', add_add, List.append_assoc]

theorem Spells.spaced (ha : Spells inside a la) (hb : Spells inside b lb) : Spells inside (a ++ ' ' :: b) (la ++ lb) :=
  ha.delimited hb ' ' [] rfl rfl fun s _ => by rw [add_nil]; rfl

theorem Spells.marked (ha : Spells inside a la) (hb : Spells inside b lb) (hc : c ∈ [',', ':', '=']) :
    Spells inside (a ++ c :: b) (la ++ .mark c :: lb) := by
  simp only [List.mem_cons, List.not_mem_nil, or_false] at hc
  rcases hc with rfl | rfl | rfl <;> exact ha.delimited hb _ [.mark _] rfl rfl fun s _ => rfl

theorem Spells.feed (ha : Spells true a la) (hb : Spells true b lb) : Spells true (a ++ '\n' :: b) (la ++ lb) := by
  refine ha.delimited hb '\n' [] rfl rfl fun s hs => ?_
  have hbrackets : s.brackets.isEmpty = false := by simpa using hs rfl
  simp [stepBetween, hbrackets, add_nil]

theorem Spells.bracketed (ha : Spells inside a la) (hinner : Spells true inner lexemes) (hb : Spells inside b lb)
    (hpair : (opening, closing) ∈ [('(', ')'), ('[', ']')]) :
    Spells inside (a ++ opening :: (inner ++ closing :: b))
      (la ++ .mark opening :: (lexemes ++ .mark closing :: lb)) := by
  intro s hs hinside
  obtain ⟨s₁, word₁, hread₁, hmode₁, hsettle₁⟩ := ha s hs hinside
  let within : LineReader := { s.add (la ++ [.mark opening]) with brackets := opening :: s.brackets }
  obtain ⟨s₂, word₂, hread₂, hmode₂, hsettle₂⟩ := hinner within hs fun _ => List.cons_ne_nil _ _
  obtain ⟨s₃, word₃, hread₃, hmode₃, hsettle₃⟩ :=
    hb (s.add (la ++ .mark opening :: (lexemes ++ [.mark closing]))) hs hinside
  have hopen : s₁.step opening = some within := by
    simp only [List.mem_cons, List.not_mem_nil, or_false, Prod.mk.injEq] at hpair
    rcases hpair with ⟨rfl, -⟩ | ⟨rfl, -⟩ <;> simp [step_ended hmode₁, hsettle₁, isDottedChar, isNameChar,
      Naming.isWordChar, quote?, stepBetween, add, within]
  have hclose : s₂.step closing = some (s.add (la ++ .mark opening :: (lexemes ++ [.mark closing]))) := by
    simp only [List.mem_cons, List.not_mem_nil, or_false, Prod.mk.injEq] at hpair
    rcases hpair with ⟨rfl, rfl⟩ | ⟨rfl, rfl⟩ <;> simp [step_ended hmode₂, hsettle₂, isDottedChar, isNameChar,
      Naming.isWordChar, quote?, stepBetween, openingOf?, add, within]
  refine ⟨s₃, word₃, ?_, hmode₃, ?_⟩
  · rw [read_append, hread₁, Option.bind_some, read_cons, hopen, Option.bind_some, read_append, hread₂,
      Option.bind_some, read_cons, hclose, Option.bind_some, hread₃]
  · rw [hsettle₃, add_add]
    simp

section Literals

variable {quote : Quote} {content : List Char} {n : CodePoint}

theorem read_plain (htext : ∀ c ∈ text, c ≠ '\\' ∧ c ≠ quote.char ∧ c ≠ '\n') :
    read { s with mode := .inside quote false content } text =
      some { s with mode := .inside quote false (content ++ text) } := by
  induction text generalizing content with
  | nil => simp
  | cons c text ih =>
    obtain ⟨⟨hslash, hquote, hfeed⟩, htext⟩ := List.forall_mem_cons.mp htext
    have hstep : step { s with mode := .inside quote false content } c =
        some { s with mode := .inside quote false (content ++ [c]) } := by
      simp [step, stepInside, hslash, hquote, hfeed]
    rw [read_cons, hstep, Option.bind_some, ih htext, List.append_assoc, List.singleton_append]

theorem read_escaped (c : Char) : read { s with mode := .inside quote false content } ['\\', c] =
    some { s with mode := .inside quote false (content ++ ['\\', c]) } := by
  simp [read, step, stepInside]

theorem ne_feed_of_isPrintable (h : isPrintable c = true) : c ≠ '\n' := by
  rintro rfl
  cases not_isLineBreak_of_isPrintable h

theorem plain_of_isWordChar (h : Naming.isWordChar c = true) : c ≠ '\\' ∧ c ≠ quote.char ∧ c ≠ '\n' := by
  exact ⟨Naming.ne_of_isWordChar h rfl, ne_quote_of_isWordChar h, Naming.ne_of_isWordChar h rfl⟩

theorem read_written (h : Written quote.char n text) : read { s with mode := .inside quote false content } text =
    some { s with mode := .inside quote false (content ++ text) } := by
  cases h with
  | plain hslash hquote hprint =>
    exact read_plain (List.forall_mem_singleton.mpr ⟨hslash, hquote, ne_feed_of_isPrintable hprint⟩)
  | mark => exact read_escaped _
  | @number _ letter width =>
    have hsplit (digits : List Char) : '\\' :: letter :: digits = ['\\', letter] ++ digits := rfl
    rw [hsplit, read_append, read_escaped, Option.bind_some,
      read_plain fun c hc => plain_of_isWordChar (isWordChar_hexDigits _ _ c hc), List.append_assoc]

theorem read_content (points : List CodePoint) : read { s with mode := .inside quote false content }
    (points.flatMap (escapePoint quote.char)) =
      some { s with mode := .inside quote false (content ++ points.flatMap (escapePoint quote.char)) } := by
  induction points generalizing content with
  | nil => simp
  | cons n points ih =>
    rw [List.flatMap_cons, read_append, read_written (escapePoint_written quote n), Option.bind_some, ih,
      List.append_assoc]

theorem spells_literal (name : String) : Spells inside name.quoted.toList [.literal (name.toList.map codePoint)] := by
  intro s hs _
  obtain ⟨quote, hquote⟩ := quotedPoints_eq (name.toList.map codePoint)
  have hvalue : contentValue? none ((name.toList.map codePoint).flatMap (escapePoint quote.char)) =
      some (name.toList.map codePoint) := by
    rw [contentValue?, LiteralReader.read_points quote _ (by simp)]
    rfl
  have hopen : s.step quote.char = some { s with mode := .inside quote false [] } := by
    rw [step, hs]
    cases quote <;> rfl
  have hclose : step { s with mode := .inside quote false ((name.toList.map codePoint).flatMap
      (escapePoint quote.char)) } quote.char = some { s.add [.literal (name.toList.map codePoint)] with
        mode := .code [] } := by
    have hslash : quote.char ≠ '\\' := by cases quote <;> decide
    simp [step, stepInside, hslash, hvalue, add]
  refine ⟨{ s.add [.literal (name.toList.map codePoint)] with mode := .code [] }, [], ?_, rfl, ?_⟩
  · rw [String.quoted, String.toList_ofList, quoted, hquote, read_cons, hopen, Option.bind_some, read_append,
      read_content, Option.bind_some, List.nil_append, read_cons, hclose, Option.bind_some, read_nil]
  · rw [settle_nil rfl, ← hs]
    rfl

end Literals

section Lines

def ReadsLines (text : List Char) (new : List LogicalLine) : Prop :=
  ∀ lines, (start lines).read text = some (start (lines ++ new))

theorem readsLines_nil : ReadsLines [] [] := fun lines => by rw [List.append_nil]; rfl

theorem ReadsLines.append (ha : ReadsLines a new) (hb : ReadsLines b new') : ReadsLines (a ++ b) (new ++ new') := by
  intro lines
  rw [read_append, ha, Option.bind_some, hb, List.append_assoc]

theorem readsLines_feed : ReadsLines ['\n'] [] := fun lines => by rw [List.append_nil]; rfl

theorem read_margin (indent : ℕ) : (start lines).read (List.replicate indent ' ') =
    some ⟨lines, indent, [], [], .margin⟩ := by
  induction indent with
  | zero => rfl
  | succ indent ih =>
    rw [List.replicate_succ', read_append, ih]
    rfl

theorem Spells.line (h : Spells false text lexemes) (hhead : ∃ c ∈ text.head?, c ≠ ' ' ∧ c ≠ '\n') (indent : ℕ) :
    ReadsLines (List.replicate indent ' ' ++ text ++ ['\n']) [⟨indent, lexemes⟩] := by
  intro lines
  obtain ⟨c, hc, hspace, hfeed⟩ := hhead
  obtain ⟨rest, rfl⟩ := List.head?_eq_some_iff.mp hc
  let margin : LineReader := ⟨lines, indent, [], [], .margin⟩
  obtain ⟨s, word, hread, hmode, hsettle⟩ := h { margin with mode := .code [] } rfl fun hfalse => nomatch hfalse
  have hfirst : margin.step c = step { margin with mode := .code [] } c := by
    simp [step, margin, hspace, hfeed, stepCode, settle]
  have hend : s.step '\n' = some (start (lines ++ [⟨indent, lexemes⟩])) := by
    rw [step_ended hmode rfl rfl, hsettle]
    rfl
  rw [List.append_assoc, read_append, read_margin, Option.bind_some, read_append, read_cons, hfirst, ← read_cons,
    hread, Option.bind_some, read_cons, hend, Option.bind_some, read_nil]

theorem logicalLines?_eq (h : ReadsLines text new) : logicalLines? text = some new := by
  rw [logicalLines?, h, Option.bind_some]
  rfl

end Lines

end LineReader

end ClientForge
