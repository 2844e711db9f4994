import ClientForge.Schema.Registry

namespace ClientForge.Schema

def constraining (members : List Schema) : List Schema := members.filter fun s => !s.isUntyped

mutual

def isModel (named : String → Bool) : Schema → Bool
  | .ref m name => !m.nullable && named name
  | .object m _ _ _ => !m.nullable
  | .allOf m members => !m.nullable && members.any (fun s => !s.isUntyped) && areModels named members
  | .union m _ [s] => !m.nullable && isModel named s
  | _ => false

def areModels (named : String → Bool) : List Schema → Bool
  | [] => true
  | s :: rest => (s.isUntyped || isModel named s) && areModels named rest

end

mutual

/-- Whether a named schema becomes a class of its own and not a wrapper around a type. A plain reference never
does, whatever it refers to. -/
def hasOwnClass (named : String → Bool) : Schema → Bool
  | .object m _ _ _ => !m.nullable
  | .allOf m members => !m.nullable && haveOwnClass named members
  | .union m _ [s] => !m.nullable && hasOwnClass named s
  | _ => false

def haveOwnClass (named : String → Bool) : List Schema → Bool
  | [] => false
  | s :: rest =>
    if s.isUntyped then haveOwnClass named rest
    else if rest.all isUntyped then hasOwnClass named s
    else isModel named s && areModels named rest

end

end ClientForge.Schema

namespace ClientForge.Registry

def nameIsModelWithin (r : Registry) : Nat → List String → String → Bool
  | 0, _, _ => false
  | fuel + 1, unseen, name =>
    unseen.contains name && match r.get? name with
      | some e => e.schema.hasOwnClass (nameIsModelWithin r fuel (unseen.erase name))
      | none => false

def nameIsModel (r : Registry) (name : String) : Bool := r.nameIsModelWithin r.size r.names name

def isModel (r : Registry) (s : Schema) : Bool := s.isModel r.nameIsModel

end ClientForge.Registry
