import ClientForge.Yaml.Property

/-!
Cutting a YAML text into tokens. Indentation opens and closes blocks. A word that may turn out to be the key of a
mapping is remembered until a colon follows it, which has to be on the same line and near.
-/

namespace ClientForge.Yaml

/-- A place where a key may have started: how many tokens were there before it, and whether nothing but a key can
stand there. -/
structure PossibleKey where
  level : Nat
  position : Nat
  required : Bool
  index : Nat
  line : Nat
  column : Nat

/-- `found` holds the tokens so far, the last one first, and `count` their number. `indents` are the columns of the
open blocks, the innermost first, `level` is the number of open brackets, and `keyAllowed` says whether a key may
start without a sign. -/
structure Lexer where
  place : Cursor
  found : List Token
  count : Nat
  level : Nat
  indent : Int
  indents : List Int
  keyAllowed : Bool
  keys : List PossibleKey

namespace Lexer

def start (s : List Char) : Lexer := ⟨.start s, [], 0, 0, -1, [], true, []⟩

def push (x : Lexer) (t : Token) : Lexer := { x with found := t :: x.found, count := x.count + 1 }

def insertAt (x : Lexer) (position : Nat) (t : Token) : Lexer :=
  { x with found := x.found.insertIdx (x.count - position) t, count := x.count + 1 }

def forward (x : Lexer) (n : Nat) : Lexer := { x with place := x.place.skip n }

def skipGap : Nat → Lexer → Lexer
  | 0, x => x
  | fuel + 1, x =>
    let c := x.place.skipBlanks
    if isBreak c.head then
      skipGap fuel { x with place := c.lineBreak.2, keyAllowed := x.keyAllowed || x.level = 0 }
    else { x with place := c }

def skipByteOrderMark (x : Lexer) : Lexer :=
  if x.place.index = 0 && x.place.head = '\ufeff' then x.forward 1 else x

def isStale (x : Lexer) (k : PossibleKey) : Bool := k.line ≠ x.place.line || 1024 < x.place.index - k.index

def dropStaleKeys (x : Lexer) : Except Fault Lexer :=
  if x.keys.any fun k => x.isStale k && k.required then .error .unreadable
  else .ok { x with keys := x.keys.filter fun k => !x.isStale k }

def dropKey (x : Lexer) : Except Fault Lexer :=
  if x.keys.any fun k => k.level = x.level && k.required then .error .unreadable
  else .ok { x with keys := x.keys.filter (·.level ≠ x.level) }

def markKey (x : Lexer) : Except Fault Lexer :=
  if x.keyAllowed then do
    let required := x.level = 0 && x.indent = x.place.column
    let x ← x.dropKey
    return { x with keys := x.keys ++ [⟨x.level, x.count, required, x.place.index, x.place.line, x.place.column⟩] }
  else .ok x

def unwind (x : Lexer) (column : Int) : List Int → Lexer
  | [] => x
  | outer :: rest =>
    if x.level = 0 && column < x.indent then
      unwind { x.push .blockEnd with indent := outer, indents := rest } column rest
    else x

def unwindTo (x : Lexer) (column : Int) : Lexer := x.unwind column x.indents

def opensBlock (x : Lexer) (column : Nat) : Bool := x.indent < column

def openBlock (x : Lexer) (column : Nat) : Lexer := { x with indent := column, indents := x.indent :: x.indents }

def outside (x : Lexer) : Except Fault Lexer := do
  let x ← (x.unwindTo (-1)).dropKey
  return { x with keyAllowed := false }

def lexDirective (x : Lexer) : Except Fault Lexer := do
  let x ← x.outside
  let (d, c) ← directive x.place
  return { x with place := c }.push (.directive d)

def lexMark (x : Lexer) (t : Token) : Except Fault Lexer := do
  return ((← x.outside).forward 3).push t

def lexOpening (x : Lexer) (t : Token) : Except Fault Lexer := do
  let x ← x.markKey
  return ({ x with level := x.level + 1, keyAllowed := true }.forward 1).push t

def lexClosing (x : Lexer) (t : Token) : Except Fault Lexer := do
  let x ← x.dropKey
  return ({ x with level := x.level - 1, keyAllowed := false }.forward 1).push t

def lexComma (x : Lexer) : Except Fault Lexer := do
  let x ← { x with keyAllowed := true }.dropKey
  return (x.forward 1).push .flowEntry

def openAtSign (x : Lexer) (t : Token) : Except Fault Lexer :=
  if x.level ≠ 0 then .ok x
  else if !x.keyAllowed then .error .unreadable
  else if x.opensBlock x.place.column then .ok ((x.openBlock x.place.column).push t)
  else .ok x

def lexEntry (x : Lexer) : Except Fault Lexer := do
  let x ← x.openAtSign .blockSequence
  let x ← { x with keyAllowed := true }.dropKey
  return (x.forward 1).push .blockEntry

def lexKey (x : Lexer) : Except Fault Lexer := do
  let x ← x.openAtSign .blockMapping
  let x ← { x with keyAllowed := x.level = 0 }.dropKey
  return (x.forward 1).push .key

def lexValue (x : Lexer) : Except Fault Lexer := do
  match x.keys.find? (·.level = x.level) with
  | some k =>
    let x := { x with keys := x.keys.filter (·.level ≠ x.level) }.insertAt k.position .key
    let x := if x.level = 0 && x.opensBlock k.column then (x.openBlock k.column).insertAt k.position .blockMapping
      else x
    return ({ x with keyAllowed := false }.forward 1).push .value
  | none =>
    let x ← x.openAtSign .blockMapping
    let x ← { x with keyAllowed := x.level = 0 }.dropKey
    return (x.forward 1).push .value

def lexWord (x : Lexer) (read : Cursor → Except Fault (Token × Cursor)) : Except Fault Lexer := do
  let x ← x.markKey
  let (t, c) ← read x.place
  return { x with place := c, keyAllowed := false }.push t

def lexBlock (x : Lexer) (folded : Bool) : Except Fault Lexer := do
  let x ← { x with keyAllowed := true }.dropKey
  let (s, c) ← block folded x.indent x.place
  return { x with place := c }.push (.scalar (.ofList s) false)

def lexPlain (x : Lexer) : Except Fault Lexer := do
  let x ← x.markKey
  let p := plain (x.level ≠ 0) x.indent x.place
  return { x with place := p.after, keyAllowed := p.brokenLine }.push (.scalar (.ofList p.text) true)

def startsPlain (x : Lexer) : Bool :=
  let c := x.place.head
  !(isBlankOrEnd c || "-?:,[]\x7b\x7d#&*!|>'\"%@`".toList.contains c)
    || (!isBlankOrEnd (x.place.peek 1) && (c = '-' || (x.level = 0 && (c = '?' || c = ':'))))

def lexHere (x : Lexer) : Except Fault Lexer :=
  let c := x.place
  let next := isBlankOrEnd (c.peek 1)
  let inFlow := x.level ≠ 0
  let atStart := c.column = 0
  match c.head with
  | '%' => if atStart then x.lexDirective else .error .unreadable
  | '[' => x.lexOpening .flowSequence
  | '\x7b' => x.lexOpening .flowMapping
  | ']' => x.lexClosing .flowSequenceEnd
  | '\x7d' => x.lexClosing .flowMappingEnd
  | ',' => x.lexComma
  | '*' => x.lexWord fun c => (fun (n, c) => (.alias n, c)) <$> name c
  | '&' => x.lexWord fun c => (fun (n, c) => (.anchor n, c)) <$> name c
  | '!' => x.lexWord tag
  | '\'' => x.lexWord fun c => (fun (s, c) => (.scalar (.ofList s) false, c)) <$> quoted c
  | '"' => x.lexWord fun c => (fun (s, c) => (.scalar (.ofList s) false, c)) <$> quoted c
  | h =>
    if h = '-' && atStart && c.isMark '-' then x.lexMark .documentStart
    else if h = '.' && atStart && c.isMark '.' then x.lexMark .documentEnd
    else if h = '-' && next then x.lexEntry
    else if h = '?' && (inFlow || next) then x.lexKey
    else if h = ':' && (inFlow || next) then x.lexValue
    else if h = '|' && !inFlow then x.lexBlock false
    else if h = '>' && !inFlow then x.lexBlock true
    else if x.startsPlain then x.lexPlain
    else .error .unreadable

def brokenOff (x : Lexer) (f : Fault) : List Token :=
  let known (keys : List PossibleKey) := x.found.reverse.take (keys.foldl (fun m k => min m k.position) x.count)
  match x.dropStaleKeys with
  | .error f => known x.keys ++ [.broken f]
  | .ok y => known y.keys ++ [.broken f]

def step (x : Lexer) : Except Fault (Bool × Lexer) := do
  let x ← (skipGap (x.place.rest.length + 1) x.skipByteOrderMark).dropStaleKeys
  let x := x.unwindTo x.place.column
  if isEnd x.place.head then return (true, (← x.outside).push .textEnd)
  else return (false, ← x.lexHere)

def run : Nat → Lexer → List Token
  | 0, x => x.brokenOff .unreadable
  | fuel + 1, x =>
    match x.step with
    | .error f => x.brokenOff f
    | .ok (true, x) => x.found.reverse
    | .ok (false, x) => run fuel x

end Lexer

def tokens (s : String) : List Token :=
  if s.toList.all isAllowed then Lexer.run (s.toList.length + 1) (.start s.toList) else [.broken .unreadable]

end ClientForge.Yaml
