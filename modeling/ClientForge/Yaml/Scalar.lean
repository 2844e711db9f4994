import ClientForge.Text.Numeral
import ClientForge.Yaml.Cursor

namespace ClientForge.Yaml

open Cursor

def flowMarks : List Char := [',', '[', ']', '\x7b', '\x7d']

def endsPlain (inFlow : Bool) (x next : Char) : Bool :=
  isBlankOrEnd x || (x = ':' && (isBlankOrEnd next || (inFlow && flowMarks.contains next)))
    || (inFlow && (x = '?' || flowMarks.contains x))

def plainWord (inFlow : Bool) : List Char → List Char
  | [] => []
  | x :: rest => if endsPlain inFlow x (rest.head?.getD '\x00') then [] else x :: plainWord inFlow rest

def plainBreaks (c : Cursor) : Nat → List Char → Option (List Char × Cursor)
  | 0, done => some (done, c)
  | fuel + 1, done =>
    if c.head = ' ' then plainBreaks c.next fuel done
    else if isBreak c.head then
      let (found, c) := c.lineBreak
      if c.isDocumentMark then none else plainBreaks c fuel (done ++ found)
    else some (done, c)

def plainGap (c : Cursor) : Option (List Char) × Bool × Cursor :=
  let (spaces, c) := c.span (· = ' ')
  if isBreak c.head then
    let (first, c) := c.lineBreak
    if c.isDocumentMark then (none, true, c)
    else match plainBreaks c c.rest.length [] with
      | none => (none, true, c)
      | some (more, c) =>
        (some ((if first ≠ ['\n'] then first else if more.isEmpty then [' '] else []) ++ more), true, c)
  else if spaces.isEmpty then (none, false, c)
  else (some spaces, false, c)

structure PlainText where
  text : List Char
  brokenLine : Bool
  after : Cursor

def plainFrom (inFlow : Bool) (indent : Int) : Nat → List Char → List Char → Bool → Cursor → PlainText
  | 0, done, _, broken, c => ⟨done, broken, c⟩
  | fuel + 1, done, gap, broken, c =>
    let word := if c.head = '#' then [] else plainWord inFlow c.rest
    if word.isEmpty then ⟨done, broken, c⟩
    else
      let done := done ++ gap ++ word
      match plainGap (c.skip word.length) with
      | (none, broken, c) => ⟨done, broken, c⟩
      | (some gap, broken, c) =>
        if c.head = '#' || (!inFlow && c.column < indent) then ⟨done, broken, c⟩
        else plainFrom inFlow indent fuel done gap broken c

def plain (inFlow : Bool) (indent : Int) (c : Cursor) : PlainText :=
  plainFrom inFlow (indent + 1) (c.rest.length + 1) [] [] false c

def simpleEscapes : List (Char × Char) := [
  ('0', '\x00'), ('a', '\x07'), ('b', '\x08'), ('t', '\t'), ('\t', '\t'), ('n', '\n'), ('v', '\x0b'), ('f', '\x0c'),
  ('r', '\r'), ('e', '\x1b'), (' ', ' '), ('"', '"'), ('\\', '\\'), ('/', '/'), ('N', '\u0085'), ('_', '\u00a0'),
  ('L', '\u2028'), ('P', '\u2029')]

def codeLength? (x : Char) : Option Nat := [('x', 2), ('u', 4), ('U', 8)].lookup x

def hexValue? (digits : List Char) : Option Nat :=
  digits.foldl (fun n? d => do
    let n ← n?
    let k ← if d.toNat < 128 then Text.digitValue? 16 d else none
    return n * 16 + k) (some 0)

/-- The character of a number; halves of pairs stand for the replacement character. -/
def characterOf (n : Nat) : Except Fault Char :=
  if 0x7FFFFFFF < n then .error (.malformed .numberTooLarge)
  else if 0x10FFFF < n then .error (.malformed .noSuchCharacter)
  else .ok (if 0xD800 ≤ n && n < 0xE000 then '\ufffd' else Char.ofNat n)

def quotedBreaks : Nat → List Char → Cursor → Except Fault (List Char × Cursor)
  | 0, done, c => .ok (done, c)
  | fuel + 1, done, c =>
    if c.isDocumentMark then .error .unreadable
    else
      let c := c.skipWhile fun x => x = ' ' || x = '\t'
      if isBreak c.head then
        let (found, c) := c.lineBreak
        quotedBreaks fuel (done ++ found) c
      else .ok (done, c)

def breaksHere (c : Cursor) : Except Fault (List Char × Cursor) := quotedBreaks (c.rest.length + 1) [] c

def quotedGap (c : Cursor) : Except Fault (List Char × Cursor) := do
  let (spaces, c) := c.span fun x => x = ' ' || x = '\t'
  if isEnd c.head then throw .unreadable
  else if isBreak c.head then
    let (first, c) := c.lineBreak
    let (more, c) ← breaksHere c
    return ((if first ≠ ['\n'] then first else if more.isEmpty then [' '] else []) ++ more, c)
  else return (spaces, c)

def quotedEscape (c : Cursor) : Except Fault (List Char × Cursor) :=
  let x := c.head
  match simpleEscapes.lookup x, codeLength? x with
  | some y, _ => .ok ([y], c.next)
  | none, some n =>
    let digits := (c.next.rest.take n)
    match if digits.length = n then hexValue? digits else none with
    | none => .error .unreadable
    | some code => do return ([← characterOf code], c.next.skip n)
  | none, none => if isBreak x then breaksHere c.lineBreak.2 else .error .unreadable

def quotedFrom (quote : Char) : Nat → List Char → Cursor → Except Fault (List Char × Cursor)
  | 0, _, _ => .error .unreadable
  | fuel + 1, done, c =>
    let x := c.head
    if x = quote then
      if quote = '\'' && c.peek 1 = '\'' then quotedFrom quote fuel (done ++ ['\'']) (c.skip 2)
      else .ok (done, c.next)
    else if isBlankOrEnd x then do
      let (found, c) ← quotedGap c
      quotedFrom quote fuel (done ++ found) c
    else if quote = '"' && x = '\\' then do
      let (found, c) ← quotedEscape c.next
      quotedFrom quote fuel (done ++ found) c
    else
      let (word, after) := c.span fun y => !(y = '\'' || y = '"' || y = '\\' || isBlankOrEnd y)
      if word.isEmpty then quotedFrom quote fuel (done ++ [x]) c.next
      else quotedFrom quote fuel (done ++ word) after

def quoted (c : Cursor) : Except Fault (List Char × Cursor) :=
  quotedFrom c.head (2 * c.rest.length + 2) [] c.next

inductive Chomping
  | clip
  | strip
  | keep
deriving DecidableEq

def chomping? (x : Char) : Option Chomping :=
  if x = '+' then some .keep else if x = '-' then some .strip else none

def blockMarks (c : Cursor) : Except Fault (Chomping × Option Nat × Cursor) := do
  let increment? (c : Cursor) : Except Fault (Option Nat × Cursor) :=
    if c.head = '0' then .error .unreadable
    else if c.head.isDigit then .ok (some (c.head.toNat - 48), c.next)
    else .ok (none, c)
  let (chomp, increment, c) ← match chomping? c.head with
    | some chomp => do
      let (increment, c) ← increment? c.next
      pure (chomp, increment, c)
    | none => do
      let (increment, c) ← increment? c
      match increment, chomping? c.head with
      | some _, some chomp => pure (chomp, increment, c.next)
      | _, _ => pure (.clip, increment, c)
  if isSpaceOrEnd c.head then return (chomp, increment, c) else throw .unreadable

def leadingLines : Nat → List Char → Nat → Cursor → List Char × Nat × Cursor
  | 0, done, widest, c => (done, widest, c)
  | fuel + 1, done, widest, c =>
    if c.head = ' ' then leadingLines fuel done (max widest c.next.column) c.next
    else if isBreak c.head then
      let (found, c) := c.lineBreak
      leadingLines fuel (done ++ found) widest c
    else (done, widest, c)

def skipIndent (indent : Int) : Nat → Cursor → Cursor
  | 0, c => c
  | fuel + 1, c => if c.column < indent && c.head = ' ' then skipIndent indent fuel c.next else c

def indented (indent : Int) (c : Cursor) : Cursor := skipIndent indent c.rest.length c

def emptyLines (indent : Int) : Nat → List Char → Cursor → List Char × Cursor
  | 0, done, c => (done, c)
  | fuel + 1, done, c =>
    let c := indented indent c
    if isBreak c.head then
      let (found, c) := c.lineBreak
      emptyLines indent fuel (done ++ found) c
    else (done, c)

def blockLines (folded : Bool) (chomp : Chomping) (indent : Int) :
    Nat → List Char → List Char → List Char → Cursor → List Char × Cursor
  | 0, done, _, _, c => (done, c)
  | fuel + 1, done, lineEnd, breaks, c =>
    let finish := (done ++ (if chomp = .strip then [] else lineEnd) ++ if chomp = .keep then breaks else [], c)
    if c.column ≠ indent || isEnd c.head then finish
    else
      let solid := c.head ≠ ' ' && c.head ≠ '\t'
      let (line, c) := c.span (!isBreakOrEnd ·)
      let before := done ++ breaks ++ line
      let (lineEnd, c) := c.lineBreak
      let (breaks, c) := emptyLines indent (c.rest.length + 1) [] c
      let goesOn := c.column = indent && !isEnd c.head
      let joint :=
        if !goesOn then []
        else if folded && lineEnd = ['\n'] && solid && c.head ≠ ' ' && c.head ≠ '\t' then
          if breaks.isEmpty then [' '] else []
        else lineEnd
      blockLines folded chomp indent fuel (before ++ joint) lineEnd breaks c

def block (folded : Bool) (outer : Int) (c : Cursor) : Except Fault (List Char × Cursor) := do
  let (chomp, increment, c) ← blockMarks c.next
  let c ← c.finishLine
  let least := max (outer + 1) 1
  let (breaks, indent, c) := match increment with
    | none =>
      let (breaks, widest, c) := leadingLines (c.rest.length + 1) [] 0 c
      (breaks, max least widest, c)
    | some k =>
      let indent := least + k - 1
      let (breaks, c) := emptyLines indent (c.rest.length + 1) [] c
      (breaks, indent, c)
  return blockLines folded chomp indent (c.rest.length + 1) [] [] breaks c

end ClientForge.Yaml
