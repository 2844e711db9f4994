import ClientForge.Yaml.Node

namespace ClientForge.Yaml

namespace Node

def tag : Node → String
  | .scalar tag _ => tag
  | .sequence tag _ => tag
  | .mapping tag _ => tag

def withTag (tag : String) : Node → Node
  | .scalar _ text => .scalar tag text
  | .sequence _ items => .sequence tag items
  | .mapping _ entries => .mapping tag entries

end Node

namespace Nodes

def get (nodes : Nodes) (n : Nat) : Node := nodes[n]?.getD default

def tag (nodes : Nodes) (n : Nat) : String := (nodes.get n).tag

def entries? (nodes : Nodes) (n : Nat) : Option (List (Nat × Nat)) :=
  match nodes.get n with
  | .mapping _ entries => some entries
  | _ => none

def setEntries (nodes : Nodes) (n : Nat) (entries : List (Nat × Nat)) : Nodes :=
  nodes.setIfInBounds n (.mapping (nodes.tag n) entries)

def unmark (nodes : Nodes) (key : Nat) : Nodes :=
  if nodes.tag key = tagOf "value" then nodes.setIfInBounds key ((nodes.get key).withTag textTag) else nodes

def merges (nodes : Nodes) (e : Nat × Nat) : Bool := nodes.tag e.1 = tagOf "merge"

def mergeCount (nodes : Nodes) : Nat :=
  nodes.foldl (fun count n => match n with
    | .mapping _ entries => count + (entries.filter nodes.merges).length
    | _ => count) 0

def merged (flatten : Nat → Nodes → Except Fault Nodes) (n : Nat) (nodes : Nodes) :
    Except Fault (List (Nat × Nat) × Nodes) := do
  let one (n : Nat) (nodes : Nodes) : Except Fault (List (Nat × Nat) × Nodes) := do
    if (nodes.entries? n).isNone then throw .unreadable
    let nodes ← flatten n nodes
    return ((nodes.entries? n).getD [], nodes)
  match nodes.get n with
  | .sequence _ items =>
    items.foldlM (fun (found, nodes) item => do
      let (entries, nodes) ← one item nodes
      return (entries ++ found, nodes)) ([], nodes)
  | _ => one n nodes

def flattenAfter : Nat → Nat → List (Nat × Nat) → Nat → Nodes → Except Fault Nodes
  | 0, _, _, _, _ => .error (.malformed .endless)
  | fuel + 1, room, taken, n, nodes => do
    let entries := (nodes.entries? n).getD []
    match entries.find? nodes.merges with
    | none => return (entries.foldl (fun nodes e => nodes.unmark e.1) nodes).setEntries n (taken ++ entries)
    | some e =>
      if room = 0 then throw (.malformed .endless)
      let nodes := nodes.setEntries n (entries.eraseP nodes.merges)
      let (more, nodes) ← merged (flattenAfter fuel (room - 1) []) e.2 nodes
      flattenAfter fuel room (taken ++ more) n nodes

def maxMerges : Nat := 980

def flatten (fuel : Nat) (n : Nat) (nodes : Nodes) : Except Fault Nodes :=
  if (nodes.entries? n).isSome then flattenAfter (fuel + 1) maxMerges [] n nodes else .ok nodes

end Nodes

end ClientForge.Yaml
