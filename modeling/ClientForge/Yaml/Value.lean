import ClientForge.Document.Graph
import ClientForge.Yaml.Lexer
import ClientForge.Yaml.Merge
import ClientForge.Yaml.ScalarValue

/-!
The document that a YAML text says. Mappings take in the entries of those they merge, and the last of two entries
with one key counts.

Values are made level by level: what a value holds is made after all values of its own level, so of several faults
the one nearest to the root comes first. A node that is met again is the value made of it before.
-/

namespace ClientForge.Yaml

/-- The values made so far, by the numbers of their nodes, and those that what they hold is still to be made of, the
last one first. -/
structure Draft where
  nodes : Nodes
  made : Array (Option Shape)
  waiting : List Nat

abbrev Make := StateT Draft (Except Fault)

namespace Nodes

def maxText : Nat := 980

def textOf (nodes : Nodes) : Nat → Nat → Except Fault String
  | 0, _ => malformed .endless
  | fuel + 1, n =>
    match nodes.get n with
    | .scalar _ text => .ok text
    | .sequence _ _ => .error .unreadable
    | .mapping _ entries =>
      match entries.find? fun e => nodes.tag e.1 = tagOf "value" with
      | some e => textOf nodes fuel e.2
      | none => .error .unreadable

def scalar (nodes : Nodes) (n : Nat) (read : List Char → Except Fault Scalar) : Except Fault Scalar := do
  let text ← nodes.textOf maxText n
  match nodes.get n with
  | .scalar _ _ => read text.toList
  | node => if node.tag = tagOf "timestamp" then malformed .notText else read text.toList

end Nodes

namespace Draft

def put (x : Draft) (n : Nat) (s : Shape) : Draft := { x with made := x.made.setIfInBounds n (some s) }

def holderTags : List String := [sequenceTag, mappingTag, tagOf "set", tagOf "omap", tagOf "pairs"]

def make (n : Nat) : Make Unit := do
  let x ← get
  if x.made[n]?.join.isSome then return
  let tag := x.nodes.tag n
  match scalarReader? tag with
  | some read =>
    let s ← (x.nodes.scalar n read : Except Fault Scalar)
    modify (·.put n (.scalar s))
  | none =>
    if !holderTags.contains tag then throw .unreadable
    modify fun x => { x.put n (.list []) with waiting := n :: x.waiting }

/-- Makes a key, which has to be a scalar. The text that stands for no number names one such value in all places;
every other way to write it makes a value of its own. -/
def makeKey (n : Nat) : Make (Option Nat × Scalar) := do
  make n
  let x ← get
  match x.made[n]?.join with
  | some (.scalar s) =>
    let text := ((x.nodes.textOf Nodes.maxText n).toOption.getD "").toList
    return (if s = .real .nan && !isUsualNan text then some n else none, s)
  | _ => throw .unreadable

abbrev Entry := (Option Nat × Key) × Scalar × Nat

def insert (entries : List Entry) (own : Option Nat) (k : Scalar) (v : Nat) : List Entry :=
  match entries with
  | [] => [((own, k.key), k, v)]
  | e :: rest => if e.1 = (own, k.key) then (e.1, e.2.1, v) :: rest else e :: insert rest own k v

def makeEntries (merges : Nat) (n : Nat) : Make (List (Scalar × Nat)) := do
  let x ← get
  let nodes ← (x.nodes.flatten merges n : Except Fault Nodes)
  set { x with nodes := nodes }
  match nodes.entries? n with
  | none => throw .unreadable
  | some entries =>
    let made ← entries.foldlM (fun (made : List Entry) (k, v) => do
      let (own, key) ← makeKey k
      make v
      return insert made own key v) []
    return made.map (·.2)

def itemsOf (n : Nat) : Make (List Nat) := do
  match (← get).nodes.get n with
  | .sequence _ items => return items
  | _ => throw .unreadable

def makePair (n : Nat) : Make Nat := do
  match (← get).nodes.entries? n with
  | some [(k, v)] =>
    make k
    make v
    modifyGet fun x => (x.made.size, { x with made := x.made.push (some (.pair k v)) })
  | _ => throw .unreadable

def fill (merges : Nat) (n : Nat) : Make Unit := do
  let tag := (← get).nodes.tag n
  if tag = sequenceTag then
    let items ← itemsOf n
    items.forM make
    modify (·.put n (.list items))
  else if tag = mappingTag then
    let entries ← makeEntries merges n
    modify (·.put n (.map entries))
  else if tag = tagOf "set" then
    let entries ← makeEntries merges n
    modify (·.put n (.set (entries.map (·.1))))
  else
    let pairs ← (← itemsOf n).mapM makePair
    modify (·.put n (.list pairs))

def fillAll (merges : Nat) : Nat → Make Unit
  | 0 => return
  | fuel + 1 => do
    let level := (← get).waiting.reverse
    if level.isEmpty then return
    modify fun x => { x with waiting := [] }
    level.forM (fill merges)
    fillAll merges fuel

end Draft

def Nodes.document (nodes : Nodes) (n : Nat) : Except Fault Document := do
  let all : Make Unit := do
    Draft.make n
    Draft.fillAll nodes.mergeCount (nodes.size + 1)
  let (_, x) ← all.run ⟨nodes, Array.replicate nodes.size none, []⟩
  return Graph.document (x.made.map (·.getD default)) n

def read (content : String) : Except Fault Document := do
  match ← root? (tokens content) with
  | (nodes, some n) => nodes.document n
  | (_, none) => return .null

end ClientForge.Yaml
