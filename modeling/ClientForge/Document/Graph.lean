import ClientForge.Document.Basic

namespace ClientForge

inductive Shape
  | scalar (s : Scalar)
  | list (items : List Nat)
  | map (entries : List (Scalar × Nat))
  | set (members : List Scalar)
  | pair (first second : Nat)
deriving Inhabited, Repr

abbrev Graph := Array Shape

namespace Graph

/-- A value as a document, the labels in it that stand for what it is inside of, and whether a way leads from it to
a value that holds itself. -/
structure View where
  document : Document
  free : List Nat
  isTied : Bool
deriving Inhabited

namespace View

def plain (d : Document) : View := ⟨d, [], false⟩

def again (n : Nat) : View := ⟨.again n, [n], true⟩

def holding (n : Nat) (parts : List View) (whole : Document) : View :=
  if parts.any (·.isTied) then ⟨.knot n whole, (parts.flatMap (·.free)).eraseDups.filter (· ≠ n), true⟩
  else plain whole

end View

abbrev Views := Array (Option View)

def known? (views : Views) (path : List Nat) (n : Nat) : Option View :=
  (views[n]?.join).filter fun v => v.free.all path.contains

def Shape.view (n : Nat) (part : Nat → StateM Views View) : Shape → StateM Views View
  | .scalar s => return .plain (.scalar s)
  | .list items => do
    let parts ← items.mapM part
    return .holding n parts (.list (parts.map (·.document)))
  | .map entries => do
    let parts ← entries.mapM fun e => part e.2
    return .holding n parts (.map ((entries.zip parts).map fun (e, v) => (e.1, v.document)))
  | .set members => return .plain (.set members)
  | .pair a b => do
    let first ← part a
    let second ← part b
    return .holding n [first, second] (.pair first.document second.document)

def viewAt (g : Graph) : Nat → List Nat → Nat → StateM Views View
  | 0, _, n => return .again n
  | fuel + 1, path, n => do
    if path.contains n then return .again n
    match known? (← get) path n with
    | some v => return v
    | none =>
      let v ← Shape.view n (viewAt g fuel (n :: path)) (g[n]?.getD default)
      modify (·.setIfInBounds n (some v))
      return v

def document (g : Graph) (n : Nat) : Document :=
  ((viewAt g (g.size + 1) [] n).run (Array.replicate g.size none)).1.document

end Graph

end ClientForge
