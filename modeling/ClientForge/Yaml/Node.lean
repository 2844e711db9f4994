import ClientForge.Yaml.Cursor
import ClientForge.Yaml.Implicit

/-!
The nodes that the tokens of a YAML document make. Nodes hold one another by number, so that an alias can stand for
the node that its anchor names even while that node is still open.
-/

namespace ClientForge.Yaml

/-- A node with its tag. Entries of mappings keep their order, and equal keys stand there as often as they are
written. -/
inductive Node
  | scalar (tag text : String)
  | sequence (tag : String) (items : List Nat)
  | mapping (tag : String) (entries : List (Nat × Nat))
deriving Inhabited, Repr

abbrev Nodes := Array Node

structure Source where
  tokens : List Token
  anchors : List (String × Nat)
  handles : List (String × String)
  nodes : Nodes

namespace Source

def head (x : Source) : Except Fault Token :=
  match x.tokens with
  | .broken f :: _ => .error f
  | t :: _ => .ok t
  | [] => .ok .textEnd

def next (x : Source) : Source := { x with tokens := x.tokens.tail }

def expect (x : Source) (t : Token) : Except Fault Source := do
  if (← x.head) = t then return x.next else throw .unreadable

def startsWith (x : Source) (tokens : List Token) : Except Fault Bool := do return tokens.contains (← x.head)

def checkAnchor (x : Source) (name : Option String) : Except Fault Unit :=
  match name with
  | some name => if (x.anchors.lookup name).isSome then .error .unreadable else .ok ()
  | none => .ok ()

def add (x : Source) (anchor : Option String) (n : Node) : Nat × Source :=
  let k := x.nodes.size
  let anchors := match anchor with
    | none => x.anchors
    | some name => (name, k) :: x.anchors
  (k, { x with anchors := anchors, nodes := x.nodes.push n })

def start (x : Source) (anchor : Option String) : Except Fault (Nat × Source) := do
  x.checkAnchor anchor
  return x.add anchor default

def put (x : Source) (k : Nat) (n : Node) : Source := { x with nodes := x.nodes.setIfInBounds k n }

end Source

structure Properties where
  anchor : Option String
  tag : Option (Option String × String)

def properties (x : Source) : Except Fault (Properties × Source) := do
  match ← x.head with
  | .anchor a =>
    match ← x.next.head with
    | .tag h r => return (⟨some a, some (h, r)⟩, x.next.next)
    | _ => return (⟨some a, none⟩, x.next)
  | .tag h r =>
    match ← x.next.head with
    | .anchor a => return (⟨some a, some (h, r)⟩, x.next.next)
    | _ => return (⟨none, some (h, r)⟩, x.next)
  | _ => return (⟨none, none⟩, x)

def wholeTag (x : Source) (tag : Option (Option String × String)) : Except Fault (Option String) :=
  match tag with
  | none => .ok none
  | some (none, rest) => .ok (some rest)
  | some (some handle, rest) =>
    match x.handles.lookup handle with
    | some start => .ok (some (start ++ rest))
    | none => .error .unreadable

def scalarTag (tag : Option String) (text : String) (isPlain : Bool) : String :=
  match tag with
  | none => if isPlain then implicitTag text else textTag
  | some "!" => implicitTag text
  | some tag => tag

def collectionTag (tag : Option String) (usual : String) : String :=
  match tag with
  | none => usual
  | some "!" => usual
  | some tag => tag

def addEmpty (x : Source) : Nat × Source := x.add none (.scalar nullTag "")

inductive Position
  | flow
  | block
  | entry
deriving DecidableEq

/-! Every call of `node` but the first comes after a token has been taken, or is the only one between two; `fuel`
counts the calls of all these functions, and `room` the nodes that may still stand inside one another. -/

def emptyOr (p : Properties) (tag : Option String) (x : Source) : Except Fault (Nat × Source) := do
  if p.anchor.isNone && p.tag.isNone then throw .unreadable
  x.checkAnchor p.anchor
  return x.add p.anchor (.scalar (scalarTag tag "" true) "")

mutual

def node : Nat → Nat → Position → Source → Except Fault (Nat × Source)
  | 0, _, _, _ => .error .unreadable
  | fuel + 1, room, position, x => do
    if room = 0 then throw (.malformed .endless)
    match ← x.head with
    | .alias name =>
      match x.anchors.lookup name with
      | none => throw .unreadable
      | some n => return (n, x.next)
    | _ =>
      let (p, x) ← properties x
      let tag ← wholeTag x p.tag
      let t ← x.head
      let isBlock := position ≠ .flow
      match t with
      | .scalar text isPlain =>
        x.checkAnchor p.anchor
        return x.next.add p.anchor (.scalar (scalarTag tag text isPlain) text)
      | .flowSequence =>
        let (n, x) ← x.next.start p.anchor
        let (items, x) ← flowItems fuel (room - 1) true [] x
        return (n, x.put n (.sequence (collectionTag tag sequenceTag) items))
      | .flowMapping =>
        let (n, x) ← x.next.start p.anchor
        let (entries, x) ← flowEntries fuel (room - 1) true [] x
        return (n, x.put n (.mapping (collectionTag tag mappingTag) entries))
      | .blockEntry =>
        if position ≠ .entry then emptyOr p tag x
        else
          let (n, x) ← x.start p.anchor
          let (items, x) ← blockItems fuel (room - 1) false [] x
          return (n, x.put n (.sequence (collectionTag tag sequenceTag) items))
      | .blockSequence =>
        if !isBlock then emptyOr p tag x
        else
          let (n, x) ← x.next.start p.anchor
          let (items, x) ← blockItems fuel (room - 1) true [] x
          return (n, x.put n (.sequence (collectionTag tag sequenceTag) items))
      | .blockMapping =>
        if !isBlock then emptyOr p tag x
        else
          let (n, x) ← x.next.start p.anchor
          let (entries, x) ← blockEntries fuel (room - 1) [] x
          return (n, x.put n (.mapping (collectionTag tag mappingTag) entries))
      | _ => emptyOr p tag x

def blockItems : Nat → Nat → Bool → List Nat → Source → Except Fault (List Nat × Source)
  | 0, _, _, _, _ => .error .unreadable
  | fuel + 1, room, closed, done, x => do
    if (← x.head) = .blockEntry then
      let ends := [Token.blockEntry, .blockEnd] ++ if closed then [] else [.key, .value]
      let (n, x) ← nodeUnless fuel room .block ends x.next
      blockItems fuel room closed (n :: done) x
    else if closed then return (done.reverse, ← x.expect .blockEnd)
    else return (done.reverse, x)

def nodeUnless : Nat → Nat → Position → List Token → Source → Except Fault (Nat × Source)
  | 0, _, _, _, _ => .error .unreadable
  | fuel + 1, room, position, ends, x => do
    if ← x.startsWith ends then return addEmpty x
    node fuel room position x

def valueUnless : Nat → Nat → Position → List Token → Source → Except Fault (Nat × Source)
  | 0, _, _, _, _ => .error .unreadable
  | fuel + 1, room, position, ends, x => do
    if (← x.head) = .value then nodeUnless fuel room position ends x.next else return addEmpty x

def blockEntries : Nat → Nat → List (Nat × Nat) → Source → Except Fault (List (Nat × Nat) × Source)
  | 0, _, _, _ => .error .unreadable
  | fuel + 1, room, done, x => do
    if (← x.head) = .key then
      let (k, x) ← nodeUnless fuel room .entry [.key, .value, .blockEnd] x.next
      let (v, x) ← valueUnless fuel room .entry [.key, .value, .blockEnd] x
      blockEntries fuel room ((k, v) :: done) x
    else return (done.reverse, ← x.expect .blockEnd)

def flowItems : Nat → Nat → Bool → List Nat → Source → Except Fault (List Nat × Source)
  | 0, _, _, _, _ => .error .unreadable
  | fuel + 1, room, first, done, x => do
    if (← x.head) = .flowSequenceEnd then return (done.reverse, x.next)
    let x ← if first then pure x else x.expect .flowEntry
    match ← x.head with
    | .key =>
      let (n, x) ← x.next.start none
      let (k, x) ← nodeUnless fuel (room - 1) .flow [.value, .flowEntry, .flowSequenceEnd] x
      let (v, x) ← valueUnless fuel (room - 1) .flow [.flowEntry, .flowSequenceEnd] x
      flowItems fuel room false (n :: done) (x.put n (.mapping mappingTag [(k, v)]))
    | .flowSequenceEnd => return (done.reverse, x.next)
    | _ =>
      let (n, x) ← node fuel room .flow x
      flowItems fuel room false (n :: done) x

def flowEntries : Nat → Nat → Bool → List (Nat × Nat) → Source → Except Fault (List (Nat × Nat) × Source)
  | 0, _, _, _, _ => .error .unreadable
  | fuel + 1, room, first, done, x => do
    if (← x.head) = .flowMappingEnd then return (done.reverse, x.next)
    let x ← if first then pure x else x.expect .flowEntry
    match ← x.head with
    | .key =>
      let (k, x) ← nodeUnless fuel room .flow [.value, .flowEntry, .flowMappingEnd] x.next
      let (v, x) ← valueUnless fuel room .flow [.flowEntry, .flowMappingEnd] x
      flowEntries fuel room false ((k, v) :: done) x
    | .flowMappingEnd => return (done.reverse, x.next)
    | _ =>
      let (k, x) ← node fuel room .flow x
      let (v, x) := addEmpty x
      flowEntries fuel room false ((k, v) :: done) x

end

def directives (x : Source) : Nat → Bool → Except Fault Source
  | 0, _ => .error .unreadable
  | fuel + 1, given => do
    match ← x.head with
    | .directive (.version major) => if given || major ≠ 1 then throw .unreadable else directives x.next fuel true
    | .directive (.tag handle start) =>
      if (x.handles.lookup handle).isSome then throw .unreadable
      else directives { x.next with handles := x.handles ++ [(handle, start)] } fuel given
    | .directive .other => directives x.next fuel given
    | _ => return x

def usualHandles : List (String × String) := [("!", "!"), ("!!", "tag:yaml.org,2002:")]

def maxDepth : Nat := 488

def bareDocument (x : Source) : Except Fault (Nat × Source) := node (4 * x.tokens.length + 4) maxDepth .block x

def documentMark (x : Source) : Except Fault Source := do
  let x ← directives { x with handles := [] } (x.tokens.length + 1) false
  x.expect .documentStart

def isOutside : Token → Bool
  | .directive _ => true
  | .documentStart => true
  | .documentEnd => true
  | .textEnd => true
  | _ => false

def firstDocument (x : Source) : Except Fault (Option Nat × Source) := do
  match ← x.head with
  | .textEnd => return (none, x)
  | t =>
    let isMarked := isOutside t && t ≠ .documentEnd
    let x ← if isMarked then documentMark x else pure x
    let x := { x with handles := x.handles ++ usualHandles }
    let (n, x) ← if isMarked && isOutside (← x.head) then pure (addEmpty x) else bareDocument x
    return (some n, x)

def skipEnds (x : Source) : Nat → Except Fault Source
  | 0 => .ok x
  | fuel + 1 => do if (← x.head) = .documentEnd then skipEnds x.next fuel else return x

def root? (tokens : List Token) : Except Fault (Nodes × Option Nat) := do
  let (n, x) ← firstDocument ⟨tokens, [], [], #[]⟩
  let x ← skipEnds x (x.tokens.length + 1)
  if (← x.head) = .textEnd then return (x.nodes, n)
  else
    let _ ← documentMark x
    throw .unreadable

end ClientForge.Yaml
