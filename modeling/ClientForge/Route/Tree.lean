import ClientForge.Api.Basic
import ClientForge.Failure
import ClientForge.Naming.Identifier
import ClientForge.Naming.Symbol
import ClientForge.Text.Pieces

/-!
The tree of routes: a node for every path that has operations and for every path above one. Paths are lists of segments,
after which packages are named.
-/

namespace ClientForge.Route

def segments (path : String) : List String := (path.pieces '/').filter (· ≠ "")

def package (parts : List String) : List String := parts.map Naming.segmentSymbol

def packageOf (path : String) : List String := package (segments path)

def strictBeginnings (parts : List String) : List (List String) :=
  (List.range (parts.length - 1)).map fun k => parts.take (k + 1)

def childrenOf (parts : List String) (candidates : List (List String)) : List (List String) :=
  candidates.filter fun c => c.length = parts.length + 1 && c.take parts.length == parts

end ClientForge.Route

namespace ClientForge

inductive RouteNode
  | mk (parts : List String) (operations : List Operation) (children : List RouteNode) (exports : List String)
deriving Repr

namespace RouteNode

def parts : RouteNode → List String
  | mk parts _ _ _ => parts

def operations : RouteNode → List Operation
  | mk _ operations _ _ => operations

def children : RouteNode → List RouteNode
  | mk _ _ children _ => children

def exports : RouteNode → List String
  | mk _ _ _ exports => exports

def path (n : RouteNode) : String := "/" ++ "/".intercalate n.parts

def segment (n : RouteNode) : String := n.parts.getLast?.getD ""

def isRoot (n : RouteNode) : Bool := n.parts.isEmpty

def package (n : RouteNode) : List String := Route.package n.parts

def symbol (n : RouteNode) : String := if n.isRoot then "" else Naming.segmentSymbol n.segment

def isParameter (n : RouteNode) : Bool := Naming.isParameterSegment n.segment

mutual

def postOrder : RouteNode → List RouteNode
  | n@(mk _ _ children _) => postOrders children ++ [n]

def postOrders : List RouteNode → List RouteNode
  | [] => []
  | n :: rest => postOrder n ++ postOrders rest

end

end RouteNode

namespace Route

def functionName (m : Method) : String := Naming.identifier m.name

def aliasModule : String := "alias"

def rootModule : String := "_root"

def places (paths : List (List String)) : List (List String) :=
  ([] :: paths.flatMap fun parts => strictBeginnings parts ++ [parts]).eraseDups

def operationsAt (operations : List Operation) (parts : List String) : List Operation :=
  operations.filter fun o => segments o.path == parts

def exportClaims (operations : List Operation) (children : List RouteNode) : List Naming.Claim :=
  operations.map (fun o => ⟨functionName o.method, o.location⟩)
    ++ children.map fun c => ⟨c.symbol, s!"child segment '{c.segment}'"⟩

def reservedClash (parts exports : List String) : Option String :=
  if parts.isEmpty then [rootModule, aliasModule].find? (exports.contains ·) else none

def makeNode (operations : List Operation) (parts : List String) (children : List RouteNode) :
    Except Failure RouteNode :=
  let here := operationsAt operations parts
  let claims := exportClaims here children
  let exports := claims.map (·.name)
  match Naming.clash claims with
  | some (first, second) =>
    .error (.routeConflict (.exportedTwice ("/" ++ "/".intercalate parts) first.name first.owner second.owner))
  | none =>
    match reservedClash parts exports with
    | some name => .error (.routeConflict (.reservedModule name))
    | none => .ok (.mk parts here children exports)

def nodeAt (operations : List Operation) (all : List (List String)) :
    Nat → List String → Except Failure RouteNode
  | 0, parts => makeNode operations parts []
  | fuel + 1, parts => do
    makeNode operations parts (← (childrenOf parts all).mapM (nodeAt operations all fuel))

/-- The tree of all routes. No place lies deeper than the longest path. -/
def tree (operations : List Operation) : Except Failure RouteNode :=
  let paths := operations.map fun o => segments o.path
  nodeAt operations (places paths) ((paths.map List.length).foldl max 0) []

end Route

end ClientForge
