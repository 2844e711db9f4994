import ClientForge.Proofs.Names
import ClientForge.Text.Quoted

/-!
Generated code, read character by character: words, string literals, brackets, and all other characters one by one.
-/

namespace ClientForge

/-- A group is what stands between two brackets, also where these open and close a field of a formatted literal. -/
inductive Token
  | word (name : String)
  | literal
  | mark (c : Char)
  | group (opening : Char) (inner : List Token)
deriving Repr, Inhabited

inductive Quote
  | single
  | double
deriving DecidableEq, Repr

def Quote.char : Quote → Char
  | .single => '\''
  | .double => '"'

structure OpenBracket where
  opening : Char
  before : List Token
  within : Option Quote

inductive ReaderMode
  | code (word : List Char)
  | opened (quote : Quote) (formatted : Bool)
  | twice (quote : Quote)
  | inside (quote : Quote) (formatted escaped : Bool)
  | brace (quote : Quote)
  | block (quote : Quote) (count : Nat) (escaped : Bool)

structure CodeReader where
  brackets : List OpenBracket
  done : List Token
  mode : ReaderMode

namespace CodeReader

def quote? (c : Char) : Option Quote := if c = '"' then some .double else if c = '\'' then some .single else none

def isNameChar (c : Char) : Bool := Naming.isWordChar c || 128 ≤ c.toNat

def isOpening (c : Char) : Bool := ['(', '[', '\x7b'].contains c

def openingOf? (c : Char) : Option Char :=
  if c = ')' then some '(' else if c = ']' then some '[' else if c = '\x7d' then some '\x7b' else none

def endWord (word : List Char) (done : List Token) : List Token :=
  if word.isEmpty then done else .word (.ofList word) :: done

def close (brackets : List OpenBracket) (done : List Token) (opening c : Char) : CodeReader :=
  match brackets with
  | bracket :: rest =>
    if bracket.opening = opening then
      ⟨rest, .group opening done.reverse :: bracket.before,
        match bracket.within with
        | none => .code []
        | some quote => .inside quote true false⟩
    else ⟨bracket :: rest, .mark c :: done, .code []⟩
  | [] => ⟨[], .mark c :: done, .code []⟩

def stepCode (brackets : List OpenBracket) (done : List Token) (word : List Char) (c : Char) : CodeReader :=
  if isNameChar c then ⟨brackets, done, .code (word ++ [c])⟩
  else match quote? c with
    | some quote =>
      if word = ['f'] then ⟨brackets, done, .opened quote true⟩
      else ⟨brackets, endWord word done, .opened quote false⟩
    | none =>
      if isOpening c then ⟨⟨c, endWord word done, none⟩ :: brackets, [], .code []⟩
      else match openingOf? c with
        | some opening => close brackets (endWord word done) opening c
        | none => ⟨brackets, if c = ' ' then endWord word done else .mark c :: endWord word done, .code []⟩

def stepInside (brackets : List OpenBracket) (done : List Token) (quote : Quote) (formatted : Bool) (c : Char) :
    CodeReader :=
  if c = '\\' then ⟨brackets, done, .inside quote formatted true⟩
  else if c = quote.char then ⟨brackets, .literal :: done, .code []⟩
  else if formatted && c = '\x7b' then ⟨brackets, done, .brace quote⟩
  else ⟨brackets, done, .inside quote formatted false⟩

def stepBlock (brackets : List OpenBracket) (done : List Token) (quote : Quote) (count : Nat) (c : Char) :
    CodeReader :=
  if c = '\\' then ⟨brackets, done, .block quote 0 true⟩
  else if c = quote.char then
    if count = 2 then ⟨brackets, .literal :: done, .code []⟩ else ⟨brackets, done, .block quote (count + 1) false⟩
  else ⟨brackets, done, .block quote 0 false⟩

def step (s : CodeReader) (c : Char) : CodeReader :=
  match s.mode with
  | .code word => stepCode s.brackets s.done word c
  | .opened quote formatted =>
    if c = quote.char then ⟨s.brackets, s.done, .twice quote⟩ else stepInside s.brackets s.done quote formatted c
  | .twice quote =>
    if c = quote.char then ⟨s.brackets, s.done, .block quote 0 false⟩
    else stepCode s.brackets (.literal :: s.done) [] c
  | .inside quote formatted true => ⟨s.brackets, s.done, .inside quote formatted false⟩
  | .inside quote formatted false => stepInside s.brackets s.done quote formatted c
  | .brace quote =>
    if c = '\x7b' then ⟨s.brackets, s.done, .inside quote true false⟩
    else stepCode (⟨'\x7b', s.done, some quote⟩ :: s.brackets) [] [] c
  | .block quote _ true => ⟨s.brackets, s.done, .block quote 0 false⟩
  | .block quote count false => stepBlock s.brackets s.done quote count c

def read (s : CodeReader) (text : List Char) : CodeReader := text.foldl step s

def settled? (s : CodeReader) : Option (List Token) :=
  match s.mode with
  | .code word => some (endWord word s.done)
  | .twice _ => some (.literal :: s.done)
  | _ => none

def between (brackets : List OpenBracket) (done : List Token) : CodeReader := ⟨brackets, done, .code []⟩

def tokens? (text : String) : Option (List Token) :=
  let s := (between [] []).read text.toList
  if s.brackets.isEmpty then s.settled?.map List.reverse else none

section Reading

variable {brackets : List OpenBracket} {done : List Token} {c : Char} {word : List Char} {s : CodeReader}

@[simp] theorem read_nil (s : CodeReader) : s.read [] = s := rfl

@[simp] theorem read_cons (s : CodeReader) (c : Char) (text : List Char) : s.read (c :: text) = (s.step c).read text :=
  rfl

theorem read_append (s : CodeReader) (a b : List Char) : s.read (a ++ b) = (s.read a).read b := List.foldl_append

def isDelimiter (c : Char) : Bool := !isNameChar c && (quote? c).isNone

theorem step_nameChar (h : isNameChar c = true) :
    step ⟨brackets, done, .code word⟩ c = ⟨brackets, done, .code (word ++ [c])⟩ := by
  simp [step, stepCode, h]

theorem read_word (text : List Char) (h : ∀ c ∈ text, isNameChar c = true) :
    read ⟨brackets, done, .code word⟩ text = ⟨brackets, done, .code (word ++ text)⟩ := by
  induction text generalizing word with
  | nil => simp
  | cons c text ih =>
    obtain ⟨hc, htext⟩ := List.forall_mem_cons.mp h
    rw [read_cons, step_nameChar hc, ih htext, List.append_assoc, List.singleton_append]

theorem endWord_nil (done : List Token) : endWord [] done = done := rfl

theorem endWord_toList {name : String} (h : name ≠ "") (done : List Token) :
    endWord name.toList done = .word name :: done := by
  have hne : name.toList ≠ [] := by simpa using h
  simp [endWord, hne]

theorem step_delimiter (hs : s.settled? = some done) (hc : isDelimiter c = true) :
    s.step c = (between s.brackets done).step c := by
  obtain ⟨brackets, before, mode⟩ := s
  simp only [isDelimiter, Bool.and_eq_true, Bool.not_eq_true', Option.isNone_iff_eq_none] at hc
  obtain ⟨hname, hquote⟩ := hc
  cases mode with
  | code word =>
    cases hs
    simp [step, between, stepCode, hname, hquote, endWord_nil]
  | twice quote =>
    cases hs
    have hne : c ≠ quote.char := by
      rintro rfl
      cases quote <;> cases hquote
    simp [step, between, hne]
  | opened => cases hs
  | inside => cases hs
  | brace => cases hs
  | block => cases hs

end Reading

end CodeReader

open CodeReader

def Reads (text : String) (tokens : List Token) : Prop :=
  ∀ brackets done, ∃ s, (between brackets done).read text.toList = s ∧ s.brackets = brackets
    ∧ s.settled? = some (tokens.reverse ++ done)

def Closed (text : String) (tokens : List Token) : Prop :=
  ∀ brackets done, (between brackets done).read text.toList = between brackets (tokens.reverse ++ done)

def Apart (text : String) : Prop := text.toList.head?.any isDelimiter = true

section Composition

variable {a b : String} {ta tb : List Token}

theorem Closed.reads (h : Closed a ta) : Reads a ta := fun brackets done => ⟨_, h brackets done, rfl, rfl⟩

theorem closed_empty : Closed "" [] := fun _ _ => rfl

theorem Closed.append (ha : Closed a ta) (hb : Closed b tb) : Closed (a ++ b) (ta ++ tb) := by
  intro brackets done
  rw [String.toList_append, read_append, ha, hb, List.reverse_append, List.append_assoc]

theorem Closed.append_reads (ha : Closed a ta) (hb : Reads b tb) : Reads (a ++ b) (ta ++ tb) := by
  intro brackets done
  rw [String.toList_append, read_append, ha, List.reverse_append, List.append_assoc]
  exact hb _ _

theorem Reads.read_append (ha : Reads a ta) (hb : Apart b) (brackets : List OpenBracket) (done : List Token) :
    (between brackets done).read (a ++ b).toList = (between brackets (ta.reverse ++ done)).read b.toList := by
  obtain ⟨s, hs, hbrackets, hsettled⟩ := ha brackets done
  rw [String.toList_append, CodeReader.read_append, hs]
  unfold Apart at hb
  match hlist : b.toList with
  | [] => simp [hlist] at hb
  | c :: rest =>
    have hc : isDelimiter c = true := by simpa [hlist] using hb
    rw [read_cons, read_cons, step_delimiter hsettled hc, hbrackets]

theorem Reads.append_closed (ha : Reads a ta) (hb : Closed b tb) (hapart : Apart b) : Closed (a ++ b) (ta ++ tb) := by
  intro brackets done
  rw [ha.read_append hapart, hb, List.reverse_append, List.append_assoc]

theorem closed_join {α : Type} {l : List α} {text : α → String} {tokens : α → List Token}
    (h : ∀ x ∈ l, Closed (text x) (tokens x)) : Closed (String.join (l.map text)) (l.flatMap tokens) := by
  induction l with
  | nil => exact closed_empty
  | cons x l ih =>
    rw [List.map_cons, String.join_cons, List.flatMap_cons]
    exact (h x List.mem_cons_self).append (ih fun y hy => h y (List.mem_cons_of_mem _ hy))

theorem reads_word (h : Naming.IsWord a) : Reads a [.word a] := by
  intro brackets done
  have hname : ∀ c ∈ a.toList, isNameChar c = true := fun c hc => by simp [isNameChar, h.2 c hc]
  refine ⟨_, read_word a.toList hname, rfl, ?_⟩
  simp [settled?, endWord_toList h.1]

theorem tokens?_of_reads (h : Reads a ta) : tokens? a = some ta := by
  obtain ⟨s, hs, hbrackets, hsettled⟩ := h [] []
  simp [tokens?, hs, hbrackets, hsettled]

end Composition

end ClientForge
