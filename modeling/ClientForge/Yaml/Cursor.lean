import ClientForge.Failure

namespace ClientForge.Yaml

inductive Fault
  | unreadable
  | malformed (fault : Malformed)
deriving DecidableEq, Repr

def isBreak (c : Char) : Bool := ['\n', '\r', '\u0085', '\u2028', '\u2029'].contains c

def isEnd (c : Char) : Bool := c = '\x00'

def isBreakOrEnd (c : Char) : Bool := isBreak c || isEnd c

def isSpaceOrEnd (c : Char) : Bool := c = ' ' || isBreakOrEnd c

def isBlankOrEnd (c : Char) : Bool := c = '\t' || isSpaceOrEnd c

def isNameChar (c : Char) : Bool := c.isAlphanum || c = '-' || c = '_'

def isAllowed (c : Char) : Bool :=
  c = '\t' || c = '\n' || c = '\r' || (' ' ≤ c && c ≤ '~') || c = '\u0085' || ('\u00a0' ≤ c && c.toNat < 0xD800)
    || (0xE000 ≤ c.toNat && c.toNat < 0xFFFE) || 0x10000 ≤ c.toNat

structure Cursor where
  rest : List Char
  index : Nat
  line : Nat
  column : Nat

namespace Cursor

def start (s : List Char) : Cursor := ⟨s, 0, 0, 0⟩

def peek (c : Cursor) (k : Nat) : Char := (c.rest[k]?).getD '\x00'

def head (c : Cursor) : Char := c.peek 0

def next (c : Cursor) : Cursor :=
  match c.rest with
  | [] => c
  | x :: rest =>
    if isBreak x && !(x = '\r' && rest.head? = some '\n') then ⟨rest, c.index + 1, c.line + 1, 0⟩
    else ⟨rest, c.index + 1, c.line, if x = '\ufeff' then c.column else c.column + 1⟩

def skip (c : Cursor) : Nat → Cursor
  | 0 => c
  | n + 1 => c.next.skip n

def span (c : Cursor) (p : Char → Bool) : List Char × Cursor :=
  let found := c.rest.takeWhile p
  (found, c.skip found.length)

def skipWhile (c : Cursor) (p : Char → Bool) : Cursor := (c.span p).2

def lineBreak (c : Cursor) : List Char × Cursor :=
  match c.rest with
  | '\r' :: '\n' :: _ => (['\n'], c.skip 2)
  | x :: _ =>
    if x = '\u2028' || x = '\u2029' then ([x], c.next)
    else if isBreak x then (['\n'], c.next)
    else ([], c)
  | [] => ([], c)

def isMark (c : Cursor) (sign : Char) : Bool :=
  c.peek 0 = sign && c.peek 1 = sign && c.peek 2 = sign && isBlankOrEnd (c.peek 3)

def isDocumentMark (c : Cursor) : Bool := c.isMark '-' || c.isMark '.'

@[irreducible] def skipBlanks (c : Cursor) : Cursor :=
  let c := c.skipWhile (· = ' ')
  if c.head = '#' then c.skipWhile (!isBreakOrEnd ·) else c

def finishLine (c : Cursor) : Except Fault Cursor :=
  let c := c.skipBlanks
  if isBreakOrEnd c.head then .ok c.lineBreak.2 else .error .unreadable

end Cursor

inductive Directive
  | version (major : Nat)
  | tag (handle start : String)
  | other
deriving DecidableEq, Repr

/-- A tag token holds its handle, if it has one, and the rest. `broken` stands where the text cannot be read on. -/
inductive Token
  | textEnd
  | broken (fault : Fault)
  | directive (d : Directive)
  | documentStart
  | documentEnd
  | blockSequence
  | blockMapping
  | blockEnd
  | flowSequence
  | flowSequenceEnd
  | flowMapping
  | flowMappingEnd
  | blockEntry
  | flowEntry
  | key
  | value
  | alias (name : String)
  | anchor (name : String)
  | tag (handle : Option String) (rest : String)
  | scalar (text : String) (isPlain : Bool)
deriving DecidableEq, Repr

end ClientForge.Yaml
