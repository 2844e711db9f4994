import ClientForge.Naming.Symbol
import ClientForge.Schema.Reading

namespace ClientForge

structure NamedSchema where
  name : String
  symbol : String
  module : String
  schema : Schema
deriving Inhabited, Repr

/-- Named schemas in the order of their first mention, no name twice. -/
structure Registry where
  entries : List NamedSchema
deriving Inhabited, Repr

namespace Registry

def empty : Registry := ⟨[]⟩

def size (r : Registry) : Nat := r.entries.length

def names (r : Registry) : List String := r.entries.map (·.name)

def symbols (r : Registry) : List String := r.entries.map (·.symbol)

def modules (r : Registry) : List String := r.entries.map (·.module)

def get? (r : Registry) (name : String) : Option NamedSchema := r.entries.find? (·.name == name)

def contains (r : Registry) (name : String) : Bool := (r.get? name).isSome

def insertEntry (entries : List NamedSchema) (new : NamedSchema) : List NamedSchema :=
  match entries with
  | [] => [new]
  | e :: rest => if e.name = new.name then new :: rest else e :: insertEntry rest new

def indexModule : String := "__init__"

def insert (r : Registry) (name : String) (schema : Schema) : Registry :=
  let symbol := Naming.unique (Naming.classSymbol name) r.symbols "_"
  let module := Naming.unique (Naming.moduleName symbol) (indexModule :: r.modules) "_"
  ⟨insertEntry r.entries ⟨name, symbol, module, schema⟩⟩

def ofDocument (d : Document) : Except Failure Registry :=
  match d.opened with
  | .null => .ok empty
  | .map entries =>
    entries.foldlM (fun r (k, d) => do return r.insert (← (Document.scalar k).displayed) (← Schema.ofDocument d)) empty
  | _ => .error (.description .schemasNotMapping)

end Registry

end ClientForge
