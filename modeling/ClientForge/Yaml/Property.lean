import ClientForge.Text.Utf8
import ClientForge.Yaml.Cursor
import ClientForge.Yaml.Scalar

namespace ClientForge.Yaml

open Cursor

def ensure (holds : Bool) : Except Fault Unit := if holds then .ok () else .error .unreadable

def name (c : Cursor) : Except Fault (String × Cursor) := do
  let (word, c) := c.next.span isNameChar
  ensure !word.isEmpty
  ensure (isBlankOrEnd c.head || ['?', ':', ',', ']', '\x7d', '%', '@', '\x60'].contains c.head)
  return (.ofList word, c)

def handle (c : Cursor) : Except Fault (String × Cursor) := do
  ensure (c.head = '!')
  if c.peek 1 = ' ' then return ("!", c.next)
  else
    let (word, after) := c.next.span isNameChar
    if after.head = '!' then return (.ofList ('!' :: (word ++ ['!'])), after.next)
    else throw .unreadable

def isUriChar (c : Char) : Bool :=
  c.isAlphanum || "-;/?:@&=+$,_.!~*'()[]%".toList.contains c

def escapedBytes : Nat → Cursor → Except Fault (List UInt8 × Cursor)
  | 0, c => .ok ([], c)
  | fuel + 1, c =>
    if c.head = '%' then
      match (if (c.rest.drop 1).length < 2 then none else hexValue? ((c.rest.drop 1).take 2)) with
      | none => .error .unreadable
      | some b => do
        let (more, c) ← escapedBytes fuel (c.skip 3)
        return (.ofNat b :: more, c)
    else .ok ([], c)

def uriFrom : Nat → List Char → Cursor → Except Fault (List Char × Cursor)
  | 0, done, c => .ok (done, c)
  | fuel + 1, done, c =>
    if c.head = '%' then do
      let (bytes, c) ← escapedBytes c.rest.length c
      match Text.decodeUtf8 bytes with
      | .ok s => uriFrom fuel (done ++ s.toList) c
      | .error _ => throw .unreadable
    else
      let (word, c) := c.span fun x => isUriChar x && x ≠ '%'
      if word.isEmpty then .ok (done, c) else uriFrom fuel (done ++ word) c

def uri (c : Cursor) : Except Fault (String × Cursor) := do
  let (found, after) ← uriFrom (c.rest.length + 1) [] c
  ensure (after.index ≠ c.index)
  return (.ofList found, after)

def hasHandle (c : Cursor) : Bool := (c.rest.tail.takeWhile (!isSpaceOrEnd ·)).contains '!'

def tag (c : Cursor) : Except Fault (Token × Cursor) := do
  let (token, c) ←
    if c.peek 1 = '<' then do
      let (found, c) ← uri (c.skip 2)
      ensure (c.head = '>')
      pure (Token.tag none found, c.next)
    else if isBlankOrEnd (c.peek 1) then pure (Token.tag none "!", c.next)
    else do
      let (handle, c) ← if hasHandle c then handle c else pure ("!", c.next)
      let (rest, c) ← uri c
      pure (Token.tag (some handle) rest, c)
  ensure (isSpaceOrEnd c.head)
  return (token, c)

def versionNumber (c : Cursor) : Except Fault (Nat × Cursor) := do
  let (digits, c) := c.span Char.isDigit
  ensure !digits.isEmpty
  if Text.maxDecimals < digits.length then throw (.malformed .tooManyDigits)
  return (digits.foldl (fun n d => n * 10 + (d.toNat - 48)) 0, c)

def directiveValue (name : String) (c : Cursor) : Except Fault (Directive × Cursor) :=
  if name = "YAML" then do
    let (major, c) ← versionNumber (c.skipWhile (· = ' '))
    ensure (c.head = '.')
    let (_, c) ← versionNumber c.next
    ensure (isSpaceOrEnd c.head)
    return (.version major, c)
  else if name = "TAG" then do
    let (handle, c) ← handle (c.skipWhile (· = ' '))
    ensure (c.head = ' ')
    let (start, c) ← uri (c.skipWhile (· = ' '))
    ensure (isSpaceOrEnd c.head)
    return (.tag handle start, c)
  else .ok (.other, c.skipWhile (!isBreakOrEnd ·))

def directive (c : Cursor) : Except Fault (Directive × Cursor) := do
  let (name, c) := c.next.span isNameChar
  ensure (!name.isEmpty && isSpaceOrEnd c.head)
  let (d, c) ← directiveValue (.ofList name) c
  return (d, ← c.finishLine)

end ClientForge.Yaml
